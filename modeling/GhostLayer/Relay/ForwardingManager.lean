import GhostLayer.Foundation.Operations
import GhostLayer.Foundation.Tables
import GhostLayer.Network.Reference
import GhostLayer.Relay.ForwardingLaws

/-! # The manager of forwarding contexts

A bounded table of contexts by their forwarding ids, and the validation of
messages and packets against the context that is held under their id. An
admission under an id that is taken succeeds and changes nothing.
-/

namespace Relay

open Foundation Network

structure ForwardingManager where
  contexts : AList (fun _ : SessionId => ForwardingContext)
  maximumFlows : Nat

namespace ForwardingManager

def new (maximumFlows : Nat) : Except ForwardingError ForwardingManager := do
  Check.failWhen (maximumFlows = 0) .backpressure
  return { contexts := ∅, maximumFlows }

def admitContext (context : ForwardingContext) :
    Fallible ForwardingManager ForwardingError Unit := do
  let manager ← Fallible.get
  Fallible.failWhen (manager.contexts.entries.length ≥ manager.maximumFlows) .backpressure
  Fallible.modify fun manager =>
    { manager with contexts := orInsert context.forwardingId context manager.contexts }

def validate (ext : Externals) (manager : ForwardingManager) (message : ForwardingMessage) :
    Except ForwardingError ForwardingContext := do
  let context ← Check.orThrow (manager.contexts.lookup message.forwardingId)
    .invalidForwardingContext
  context.validateMessage ext message
  return context

def validatePacket (manager : ForwardingManager) (packet : ForwardedPacket) :
    Except ForwardingError Unit := do
  let context ← Check.orThrow (manager.contexts.lookup packet.flowId) .invalidForwardingContext
  context.validatePacket packet

def remove (forwardingId : SessionId) (manager : ForwardingManager) : ForwardingManager :=
  { manager with contexts := manager.contexts.erase forwardingId }

variable {ext : Externals} {manager : ForwardingManager} {context : ForwardingContext}

inductive Operation where
  | admitContext (context : ForwardingContext)
  | remove (forwardingId : SessionId)

def perform : Operation → Fallible ForwardingManager ForwardingError Unit
  | .admitContext context => admitContext context
  | .remove forwardingId => Fallible.modify (remove forwardingId)

abbrev Made := Call ForwardingManager ForwardingError Operation

/-! ## One operation -/

/-- There is room for one more context. -/
def HasRoom (manager : ForwardingManager) : Prop :=
  manager.contexts.entries.length < manager.maximumFlows

/-- The manager after an admission with room. -/
def holding (manager : ForwardingManager) (context : ForwardingContext) : ForwardingManager :=
  { manager with contexts := orInsert context.forwardingId context manager.contexts }

theorem admitContext_run (hroom : manager.HasRoom) :
    admitContext context manager = (.ok (), manager.holding context) := by
  rw [admitContext, Fallible.get_bind_run, Fallible.failWhen_bind_run,
    if_neg (Nat.not_le_of_lt hroom)]
  rfl

theorem admitContext_full (hfull : ¬ manager.HasRoom) :
    admitContext context manager = (.error .backpressure, manager) := by
  rw [admitContext, Fallible.get_bind_run, Fallible.failWhen_bind_run,
    if_pos (Nat.le_of_not_lt hfull)]

/-- The contexts that are held are within the limit, each under its id. -/
structure Within (maximumFlows : Nat) (manager : ForwardingManager) : Prop where
  limit : manager.maximumFlows = maximumFlows
  size : manager.contexts.entries.length ≤ maximumFlows
  keyed : EveryEntry (fun forwardingId context => context.forwardingId = forwardingId)
    manager.contexts

theorem Within.new (maximumFlows : Nat) : Within maximumFlows ⟨∅, maximumFlows⟩ where
  limit := rfl
  size := Nat.zero_le _
  keyed := .empty

theorem Within.perform {maximumFlows : Nat} (hwithin : Within maximumFlows manager)
    (operation : Operation) : Within maximumFlows (perform operation manager).2 := by
  cases operation with
  | admitContext context =>
      by_cases hroom : manager.HasRoom
      · rw [ForwardingManager.perform, admitContext_run hroom]
        refine ⟨hwithin.limit, (length_orInsert_le _ _).trans ?_, hwithin.keyed.orInsert rfl⟩
        rw [← hwithin.limit]
        exact hroom
      · rw [ForwardingManager.perform, admitContext_full hroom]
        exact hwithin
  | remove forwardingId =>
      refine ⟨hwithin.limit, le_trans ?_ hwithin.size, hwithin.keyed.erase forwardingId⟩
      exact (List.kerase_sublist forwardingId manager.contexts.entries).length_le

/-! ## The context in force -/

/-- What a call does to the context in force under an id: an admission that came back with success
puts its context in force, a removal ends that. -/
def afterCall (forwardingId : SessionId) (inForce : Option ForwardingContext) (made : Made) :
    Option ForwardingContext :=
  match made.operation, made.outcome with
  | .admitContext context, .ok () =>
      if context.forwardingId = forwardingId then some context else inForce
  | .admitContext _, _ => inForce
  | .remove removed, _ => if removed = forwardingId then none else inForce

/-- The context that was admitted last under an id and not removed since. -/
def inForce (forwardingId : SessionId) (history : List Made) : Option ForwardingContext :=
  history.foldl (afterCall forwardingId) none

/-- Every message is answered by the context in force under its id. -/
def Answers (ext : Externals) (history : List Made) (manager : ForwardingManager) : Prop :=
  ∀ message, manager.validate ext message =
    match inForce message.forwardingId history with
    | none => .error .invalidForwardingContext
    | some context => do
        context.validateMessage ext message
        return context

/-- An admission with room for its context, under an id that another context is held under. -/
def Collides (made : Made) : Prop :=
  ∃ context held, made.operation = .admitContext context ∧ made.before.HasRoom ∧
    made.before.contexts.lookup context.forwardingId = some held ∧ held ≠ context

theorem inForce_concat (forwardingId : SessionId) (history : List Made) (made : Made) :
    inForce forwardingId (history ++ [made]) =
      afterCall forwardingId (inForce forwardingId history) made := by
  rw [inForce, List.foldl_append]
  rfl

/-- The table holds the contexts in force. -/
def Holds (history : List Made) (manager : ForwardingManager) : Prop :=
  ∀ forwardingId, manager.contexts.lookup forwardingId = inForce forwardingId history

theorem Holds.call {history : List Made} (hholds : Holds history manager) {operation : Operation}
    (hdistinct : ¬ Collides (call perform operation manager)) :
    Holds (history ++ [call perform operation manager]) (perform operation manager).2 := by
  intro forwardingId
  rw [inForce_concat, ← hholds forwardingId]
  cases operation with
  | admitContext context =>
      by_cases hroom : manager.HasRoom
      · rw [Foundation.call, perform, admitContext_run hroom]
        show (orInsert context.forwardingId context manager.contexts).lookup forwardingId =
          if context.forwardingId = forwardingId then some context
          else manager.contexts.lookup forwardingId
        cases hheld : manager.contexts.lookup context.forwardingId with
        | none =>
            rw [orInsert_of_lookup_eq_none hheld]
            by_cases hsame : context.forwardingId = forwardingId
            · rw [if_pos hsame, ← hsame, AList.lookup_insert]
            · rw [if_neg hsame, AList.lookup_insert_ne (Ne.symm hsame)]
        | some held =>
            -- The context that is held is the one admitted, so keeping it is no loss.
            have hsame : held = context := by
              by_contra hother
              exact hdistinct ⟨context, held, rfl, hroom, hheld, hother⟩
            rw [orInsert_of_lookup hheld]
            by_cases hid : context.forwardingId = forwardingId
            · rw [if_pos hid, ← hid, hheld, hsame]
            · rw [if_neg hid]
      · rw [Foundation.call, perform, admitContext_full hroom]
        rfl
  | remove removed =>
      show (manager.contexts.erase removed).lookup forwardingId =
        if removed = forwardingId then none else manager.contexts.lookup forwardingId
      by_cases hsame : removed = forwardingId
      · rw [if_pos hsame, hsame, AList.lookup_erase]
      · rw [if_neg hsame, AList.lookup_erase_ne (Ne.symm hsame)]

/-- A message that a context accepts. -/
def messageFor (ext : Externals) (context : ForwardingContext) : ForwardingMessage where
  kind := forwardingKind
  forwardingId := context.forwardingId
  clientSessionId := context.clientSessionId
  clientPeer := ext.peerText context.clientPeer
  route := context.route
  data := ⟨dataPlaneKind, context.clientSessionId, []⟩
  packet := some {
    protocol := .tcp
    source := none
    destination := .v4 (Vector.replicate 4 1) 80
    flowId := context.forwardingId
    sessionId := context.clientSessionId
    routeId := context.forwardingId
    sequence := 1
    payload := [] }

theorem validate_messageFor (hreads : ext.ReadsIdentities) (context : ForwardingContext) :
    context.validateMessage ext (messageFor ext context) = .ok () := by
  refine ForwardingContext.validateMessage_eq_ok.mpr ⟨_, rfl, rfl, rfl, hreads.peer _, rfl, rfl,
    rfl, ?_⟩
  exact ⟨rfl, rfl, rfl, Nat.zero_le _, show (1 : UInt64) ≠ 0 by decide,
    show (80 : UInt16) ≠ 0 by decide, fun hudp => by cases hudp⟩

theorem validate_eq_ok {message : ForwardingMessage} {result : ForwardingContext} :
    manager.validate ext message = .ok result ↔
      manager.contexts.lookup message.forwardingId = some result ∧
        result.validateMessage ext message = .ok () := by
  simp only [validate, Check.bind_eq_ok, Check.orThrow_eq_ok]
  constructor
  · intro hvalidates
    obtain ⟨context, hheld, _, hvalid, hsame⟩ := hvalidates
    obtain rfl := Except.ok.inj hsame
    exact ⟨hheld, hvalid⟩
  · intro hvalidates
    exact ⟨result, hvalidates.1, (), hvalidates.2, rfl⟩

theorem Holds.answers {history : List Made} (hholds : Holds history manager) :
    Answers ext history manager := by
  intro message
  rw [validate, hholds message.forwardingId]
  cases inForce message.forwardingId history <;> rfl

/-- Behind an admission that collides, a message of the context that is held is answered by that
context. -/
theorem not_answers_of_collides (hreads : ext.ReadsIdentities) {maximumFlows : Nat}
    (hwithin : Within maximumFlows manager) {history : List Made} {operation : Operation}
    (hcollides : Collides (call perform operation manager)) :
    ¬ Answers ext (history ++ [call perform operation manager])
      (perform operation manager).2 := by
  obtain ⟨context, held, hadmits, hroom, hheld, hother⟩ := hcollides
  obtain rfl : operation = .admitContext context := hadmits
  have hlookup : manager.contexts.lookup context.forwardingId = some held := hheld
  have hkeyed : held.forwardingId = context.forwardingId := hwithin.keyed _ _ hlookup
  intro hanswers
  have hanswer := hanswers (messageFor ext held)
  have hrun : perform (.admitContext context) manager = (.ok (), manager.holding context) :=
    admitContext_run hroom
  have hforce :
      inForce held.forwardingId (history ++ [call perform (.admitContext context) manager]) =
      some context := by
    rw [inForce_concat, Foundation.call, hrun, hkeyed]
    exact if_pos rfl
  have hvalidated : (perform (.admitContext context) manager).2.validate ext (messageFor ext held) =
      .ok held := by
    rw [hrun]
    refine validate_eq_ok.mpr ⟨?_, validate_messageFor hreads held⟩
    show (orInsert context.forwardingId context manager.contexts).lookup held.forwardingId = _
    rw [orInsert_of_lookup hlookup, hkeyed]
    exact hlookup
  rw [hvalidated, show (messageFor ext held).forwardingId = held.forwardingId from rfl,
    hforce] at hanswer
  obtain ⟨_, -, hsame⟩ := Check.bind_eq_ok.mp hanswer.symm
  exact hother (Except.ok.inj hsame).symm

/-- The table starts out empty. -/
theorem new_eq_ok {maximumFlows : Nat} (hnew : new maximumFlows = .ok manager) :
    manager = ⟨∅, maximumFlows⟩ := by
  obtain ⟨_, -, hmade⟩ := Check.bind_eq_ok.mp hnew
  exact (Except.ok.inj hmade).symm

/-- At every point of a run, messages are answered by the context that was admitted last under their
id, and the contexts are within the limit. -/
def Faithful (ext : Externals) (maximumFlows : Nat) (operations : List Operation)
    (manager : ForwardingManager) : Prop :=
  ∀ before after, operations = before ++ after →
    Answers ext (calls perform before manager) (stateAfterAll perform before manager) ∧
      (stateAfterAll perform before manager).contexts.entries.length ≤ maximumFlows

theorem within_stateAfterAll {maximumFlows : Nat} (hnew : new maximumFlows = .ok manager)
    (operations : List Operation) :
    Within maximumFlows (stateAfterAll perform operations manager) := by
  refine stateAfterAll_invariant (Within maximumFlows)
    (fun operation manager hwithin => hwithin.perform operation) ?_
  rw [new_eq_ok hnew]
  exact .new maximumFlows

theorem holds_stateAfterAll {maximumFlows : Nat} (hnew : new maximumFlows = .ok manager)
    (operations : List Operation)
    (hdistinct : ∀ made ∈ calls perform operations manager, ¬ Collides made) :
    Holds (calls perform operations manager) (stateAfterAll perform operations manager) := by
  revert hdistinct
  refine history_induction (motive := fun _ history reached =>
    (∀ made ∈ history, ¬ Collides made) → Holds history reached) ?_ ?_ operations
  · intro _ forwardingId
    rw [new_eq_ok hnew]
    rfl
  · intro _ operation history reached hprevious hdistinct
    have hholds := hprevious fun made hmade => hdistinct made (List.mem_append_left _ hmade)
    exact hholds.call (hdistinct _ (List.mem_append_right _ (List.mem_singleton_self _)))

/-- A manager is faithful to its admissions in a run exactly when none of them is, with room for it,
under an id that another context is held under. -/
theorem faithful_iff (hreads : ext.ReadsIdentities) {maximumFlows : Nat}
    (hnew : new maximumFlows = .ok manager) (operations : List Operation) :
    Faithful ext maximumFlows operations manager ↔
      ∀ made ∈ calls perform operations manager, ¬ Collides made := by
  constructor
  · intro hfaithful made hmade hcollides
    obtain ⟨before, after, hoperations, hcall⟩ := exists_of_mem_calls hmade
    have hsplit : operations = (before ++ [made.operation]) ++ after := by
      rw [hoperations, List.append_assoc, List.singleton_append]
    obtain ⟨hanswers, -⟩ := hfaithful _ _ hsplit
    rw [calls_concat, stateAfterAll_concat] at hanswers
    rw [hcall] at hcollides
    exact not_answers_of_collides hreads (within_stateAfterAll hnew before) hcollides hanswers
  · intro hdistinct before after hsplit
    refine ⟨?_, (within_stateAfterAll hnew before).size⟩
    apply Holds.answers
    apply holds_stateAfterAll hnew
    intro made hmade
    apply hdistinct
    rw [hsplit, calls_append]
    exact List.mem_append_left _ hmade

def sampleContext (clientPeer : PeerId) : ForwardingContext :=
  ⟨⟨Vector.replicate 16 1⟩, ⟨Vector.replicate 16 2⟩, clientPeer, ⟨[2]⟩, ⟨[3]⟩,
    .twoHop ⟨[2]⟩ ⟨[3]⟩ "/ip4/10.0.0.3", .created, none, none, none⟩

/-- The first context is removed before the other one is admitted under its id. -/
theorem faithful_replaced :
    Faithful reference 2
      [.admitContext (sampleContext ⟨[1]⟩), .remove ⟨Vector.replicate 16 1⟩,
        .admitContext (sampleContext ⟨[4]⟩)]
      ⟨∅, 2⟩ := by
  refine (faithful_iff reference.readsIdentities rfl _).mpr ?_
  intro made hmade hcollides
  obtain ⟨context, held, hadmits, -, hheld, -⟩ := hcollides
  -- Both admissions find an empty table.
  rcases List.mem_cons.mp hmade with rfl | hmade
  · cases hheld
  rcases List.mem_cons.mp hmade with rfl | hmade
  · cases hadmits
  obtain rfl := List.mem_singleton.mp hmade
  cases hheld

/-- Two contexts of different clients under one id: the second admission comes back with success,
and the first context stays in force. -/
theorem faithful_collided :
    new 2 = .ok ⟨∅, 2⟩ ∧
    ¬ Faithful reference 2
      [.admitContext (sampleContext ⟨[1]⟩), .admitContext (sampleContext ⟨[4]⟩)]
      ⟨∅, 2⟩ := by
  have hdifferent : sampleContext ⟨[1]⟩ ≠ sampleContext ⟨[4]⟩ := by
    intro hsame
    exact absurd (congrArg ForwardingContext.clientPeer hsame) (by decide)
  have hcollides : Collides (call perform (.admitContext (sampleContext ⟨[4]⟩))
      (stateAfterAll perform [.admitContext (sampleContext ⟨[1]⟩)] ⟨∅, 2⟩)) :=
    ⟨sampleContext ⟨[4]⟩, sampleContext ⟨[1]⟩, rfl, Nat.lt_of_sub_pos (by decide), rfl, hdifferent⟩
  have hnew : new 2 = .ok ⟨∅, 2⟩ := rfl
  refine ⟨hnew, ?_⟩
  intro hfaithful
  obtain ⟨hanswers, -⟩ :=
    hfaithful ([.admitContext (sampleContext ⟨[1]⟩)] ++ [.admitContext (sampleContext ⟨[4]⟩)])
      [] rfl
  rw [calls_concat, stateAfterAll_concat] at hanswers
  exact not_answers_of_collides reference.readsIdentities (within_stateAfterAll hnew _) hcollides
    hanswers

end ForwardingManager

end Relay
