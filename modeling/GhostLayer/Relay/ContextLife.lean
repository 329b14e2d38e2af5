import GhostLayer.Foundation.Frames
import GhostLayer.Foundation.Operations
import GhostLayer.Network.Reference
import GhostLayer.Relay.ForwardingLaws

/-! # The life of a forwarding context

A context is built once and then undergoes any sequence of its operations. It
keeps its route and goes forward through its states; what it is bound to and the
sequence numbers it counts follow from that. The requests it counts are a weaker
story: it remembers the last one only.
-/

namespace Relay

open Foundation Network

/-- How far a context has come. -/
def ForwardingState.rank : ForwardingState → Nat
  | .created => 0
  | .connecting => 1
  | .established => 2
  | .forwarding => 3
  | .closing => 4
  | .closed => 5

namespace ForwardingContext

variable {ext : Externals} {context final : ForwardingContext}

/-- The two ways to build a context. -/
inductive Built : ForwardingContext → Prop
  | new (generated clientSessionId : SessionId) (clientPeer entryPeer exitPeer : PeerId)
      (route : RouteBinding) {context : ForwardingContext}
      (made : ForwardingContext.new generated clientSessionId clientPeer entryPeer exitPeer route =
        .ok context) : Built context
  | withForwardingId (forwardingId clientSessionId : SessionId)
      (clientPeer entryPeer exitPeer : PeerId) (route : RouteBinding)
      {context : ForwardingContext}
      (made : ForwardingContext.withForwardingId forwardingId clientSessionId clientPeer entryPeer
        exitPeer route = .ok context) : Built context

/-- A question about a context, which leaves it alone. -/
inductive Validation where
  | client (sessionId : SessionId) (peer : PeerId)
  | entry (peer : PeerId)
  | exit (peer : PeerId)
  | message (envelope : ForwardingMessage)
  | packet (forwarded : ForwardedPacket)
  | relaySession (sessionId : SessionId)

def Validation.ask (ext : Externals) (context : ForwardingContext) :
    Validation → Except ForwardingError Unit
  | .client sessionId peer => context.validateClient sessionId peer
  | .entry peer => context.validateEntry peer
  | .exit peer => context.validateExit peer
  | .message envelope => context.validateMessage ext envelope
  | .packet forwarded => context.validatePacket forwarded
  | .relaySession sessionId => context.validateRelaySession sessionId

inductive Operation where
  | transitionConnecting
  | transitionEstablished
  | bindRelaySession (sessionId : SessionId)
  | beginForwarding (requestId : SessionId) (direction : ForwardingDirection)
  | transitionClosing
  | transitionClosed
  | acceptSequence (sequence : UInt64)
  | validate (validation : Validation)

def perform (ext : Externals) : Operation → Fallible ForwardingContext ForwardingError Unit
  | .transitionConnecting => transitionConnecting
  | .transitionEstablished => transitionEstablished
  | .bindRelaySession sessionId => bindRelaySession sessionId
  | .beginForwarding requestId direction => beginForwarding requestId direction
  | .transitionClosing => transitionClosing
  | .transitionClosed => transitionClosed
  | .acceptSequence sequence => acceptSequence sequence
  | .validate validation => do
      let context ← Fallible.get
      Fallible.ofExcept (validation.ask ext context)

/-! ## One operation -/

theorem transitionClosing_eq_ok {result : Unit} :
    transitionClosing context = (.ok result, final) ↔
      (context.state ≠ .created ∧ context.state ≠ .closed) ∧
        { context with state := .closing } = final := by
  simp only [transitionClosing, Fallible.get_bind_run, Fallible.bind_eq_ok,
    Fallible.failWhen_eq_ok, Fallible.modify_eq_ok, not_or]
  constructor
  · rintro ⟨_, _, ⟨hstate, rfl⟩, rfl⟩
    exact ⟨hstate, rfl⟩
  · rintro ⟨hstate, rfl⟩
    exact ⟨(), context, ⟨hstate, rfl⟩, rfl⟩

/-- What an operation that succeeds makes of a context. -/
inductive Advance (context : ForwardingContext) : Operation → ForwardingContext → Prop
  | connecting (state : context.state = .created) :
      Advance context .transitionConnecting { context with state := .connecting }
  | established (state : context.state = .connecting) :
      Advance context .transitionEstablished { context with state := .established }
  | bound (sessionId : SessionId) (state : context.state = .established) :
      Advance context (.bindRelaySession sessionId)
        { context with relaySessionId := some sessionId }
  | begun (requestId : SessionId) (direction : ForwardingDirection)
      (begins : context.CanBegin requestId direction) :
      Advance context (.beginForwarding requestId direction) (context.begun requestId direction)
  | closing (created : context.state ≠ .created) (closed : context.state ≠ .closed) :
      Advance context .transitionClosing { context with state := .closing }
  | closed (state : context.state = .closing) :
      Advance context .transitionClosed { context with state := .closed }
  | counted (sequence : UInt64) (next : context.NextSequence sequence) :
      Advance context (.acceptSequence sequence) { context with lastSequence := some sequence }
  | validated (validation : Validation) : Advance context (.validate validation) context

theorem advance_of_ok {operation : Operation} {result : Unit}
    (hrun : perform ext operation context = (.ok result, final)) :
    Advance context operation final := by
  cases operation with
  | transitionConnecting =>
      obtain ⟨hstate, rfl⟩ := transition_eq_ok.mp hrun
      exact .connecting hstate
  | transitionEstablished =>
      obtain ⟨hstate, rfl⟩ := transition_eq_ok.mp hrun
      exact .established hstate
  | bindRelaySession sessionId =>
      obtain ⟨hstate, rfl⟩ := bindRelaySession_eq_ok.mp hrun
      exact .bound sessionId hstate
  | beginForwarding requestId direction =>
      obtain ⟨hbegins, rfl⟩ := beginForwarding_eq_ok.mp hrun
      exact .begun requestId direction hbegins
  | transitionClosing =>
      obtain ⟨⟨hcreated, hclosed⟩, rfl⟩ := transitionClosing_eq_ok.mp hrun
      exact .closing hcreated hclosed
  | transitionClosed =>
      obtain ⟨hstate, rfl⟩ := transition_eq_ok.mp hrun
      exact .closed hstate
  | acceptSequence sequence =>
      obtain ⟨hnext, rfl⟩ := acceptSequence_eq_ok.mp hrun
      exact .counted sequence hnext
  | validate validation =>
      obtain ⟨-, rfl⟩ := Fallible.ofExcept_eq_ok.mp hrun
      exact .validated validation

variable (ext) in
/-- An operation that fails leaves the context alone. -/
theorem perform_keepsOnFailure (operation : Operation) :
    Fallible.KeepsOnFailure id (perform ext operation) := by
  -- Every operation checks the context first and changes it last.
  cases operation with
  | validate validation =>
      exact .of_keeps (.bind .get fun _ => .ofExcept)
  | transitionConnecting | transitionEstablished | transitionClosed | transitionClosing
  | bindRelaySession | acceptSequence =>
      exact .bind .get fun _ => .bind .failWhen fun _ => .modify
  | beginForwarding requestId direction =>
      exact .bind .get fun _ => .bind .failWhen fun _ => .bind .failWhen fun _ =>
        .bind .failWhen fun _ => .modify

variable (ext) in
/-- One operation succeeds and advances the context, or fails and leaves it alone. -/
theorem perform_cases (operation : Operation) (context : ForwardingContext) :
    (∃ final, perform ext operation context = (.ok (), final) ∧ Advance context operation final) ∨
      ∃ outcome, perform ext operation context = (outcome, context) ∧ ¬ outcome.IsOk := by
  rcases hrun : perform ext operation context with ⟨outcome, final⟩
  have hkeeps := perform_keepsOnFailure ext operation context
  rw [hrun] at hkeeps
  rcases hkeeps with ⟨_, rfl⟩ | hsame
  · exact .inl ⟨final, rfl, advance_of_ok hrun⟩
  · obtain rfl : final = context := hsame
    by_cases hok : outcome.IsOk
    · obtain ⟨_, rfl⟩ := hok
      exact .inl ⟨final, rfl, advance_of_ok hrun⟩
    · exact .inr ⟨outcome, rfl, hok⟩

/-! ## Going forward -/

theorem Built.initial (hbuilt : Built context) :
    Bindable context.route context.clientPeer context.entryPeer context.exitPeer ∧
      context.state = .created ∧ context.lastRequest = none := by
  cases hbuilt with
  | new _ _ _ _ _ _ hmade | withForwardingId _ _ _ _ _ _ hmade =>
      obtain ⟨hbindable, rfl⟩ := withForwardingId_eq_ok.mp hmade
      exact ⟨hbindable, rfl, rfl⟩

/-- What never changes about a context. -/
def fixed (context : ForwardingContext) :
    SessionId × SessionId × PeerId × PeerId × PeerId × RouteBinding :=
  (context.forwardingId, context.clientSessionId, context.clientPeer, context.entryPeer,
    context.exitPeer, context.route)

theorem Advance.fixed {operation : Operation} (hadvance : Advance context operation final) :
    final.fixed = context.fixed := by
  cases hadvance <;> rfl

theorem Advance.rank_le {operation : Operation} (hadvance : Advance context operation final) :
    context.state.rank ≤ final.state.rank := by
  cases hadvance with
  | connecting hstate | established hstate | closed hstate => simp [hstate, ForwardingState.rank]
  | begun requestId direction hbegins =>
      show context.state.rank ≤ 3
      rcases hbegins.state with hstate | hstate <;> simp [hstate, ForwardingState.rank]
  | closing hcreated hclosed =>
      show context.state.rank ≤ 4
      cases hstate : context.state <;> first | exact absurd hstate hclosed | decide
  | bound | counted | validated => exact le_rfl

/-- From forwarding on, a context stays with its relay session. -/
theorem Advance.relaySessionId {operation : Operation}
    (hadvance : Advance context operation final) (hstate : 3 ≤ context.state.rank) :
    final.relaySessionId = context.relaySessionId := by
  cases hadvance with
  | bound sessionId hestablished =>
      rw [hestablished] at hstate
      exact absurd hstate (by decide)
  | connecting | established | begun | closing | closed | counted | validated => rfl

theorem rank_le_perform (operation : Operation) (context : ForwardingContext) :
    context.state.rank ≤ (perform ext operation context).2.state.rank := by
  rcases perform_cases ext operation context with
    ⟨final, hrun, hadvance⟩ | ⟨outcome, hrun, -⟩
  · rw [hrun]
    exact hadvance.rank_le
  · rw [hrun]

theorem fixed_stateAfterAll (operations : List Operation) :
    (stateAfterAll (perform ext) operations context).fixed = context.fixed := by
  refine stateAfterAll_invariant (fun reached : ForwardingContext =>
    reached.fixed = context.fixed) ?_ rfl
  intro operation reached hreached
  rcases perform_cases ext operation reached with
    ⟨final, hrun, hadvance⟩ | ⟨outcome, hrun, -⟩
  · rw [hrun]
    exact hadvance.fixed.trans hreached
  · rw [hrun]
    exact hreached

theorem rank_le_stateAfterAll (operations : List Operation) :
    context.state.rank ≤ (stateAfterAll (perform ext) operations context).state.rank :=
  stateAfterAll_monotone (fun reached : ForwardingContext => reached.state.rank) rank_le_perform

theorem relaySessionId_stateAfterAll (operations : List Operation)
    (hstate : 3 ≤ context.state.rank) :
    (stateAfterAll (perform ext) operations context).relaySessionId = context.relaySessionId := by
  refine (stateAfterAll_invariant (fun reached : ForwardingContext =>
    3 ≤ reached.state.rank ∧ reached.relaySessionId = context.relaySessionId) ?_
    ⟨hstate, rfl⟩).2
  rintro operation reached ⟨hreached, hsession⟩
  refine ⟨hreached.trans (rank_le_perform operation reached), ?_⟩
  rcases perform_cases ext operation reached with
    ⟨final, hrun, hadvance⟩ | ⟨outcome, hrun, -⟩
  · rw [hrun]
    exact (hadvance.relaySessionId hreached).trans hsession
  · rw [hrun]
    exact hsession

/-! ## Sequence numbers -/

/-- The sequence number that a call counted. -/
def countedBy (made : Call ForwardingContext ForwardingError Operation) : Option UInt64 :=
  match made.operation, made.outcome with
  | .acceptSequence sequence, .ok () => some sequence
  | _, _ => none

def acceptedSequences (history : List (Call ForwardingContext ForwardingError Operation)) :
    List UInt64 :=
  history.filterMap countedBy

variable (ext) in
/-- A call counts a number above the last one, or it counts none. -/
theorem countedBy_cases (operation : Operation) (context : ForwardingContext) :
    (∃ sequence, countedBy (call (perform ext) operation context) = some sequence ∧
        context.NextSequence sequence ∧
        (perform ext operation context).2.lastSequence = some sequence) ∨
      countedBy (call (perform ext) operation context) = none ∧
        (perform ext operation context).2.lastSequence = context.lastSequence := by
  rcases perform_cases ext operation context with
    ⟨final, hrun, hadvance⟩ | ⟨outcome, hrun, hfails⟩
  · rw [call, hrun]
    cases hadvance with
    | counted sequence hnext => exact .inl ⟨sequence, rfl, hnext, rfl⟩
    | connecting | established | bound | begun | closing | closed | validated =>
        exact .inr ⟨rfl, rfl⟩
  · rw [call, hrun]
    refine .inr ⟨?_, rfl⟩
    cases outcome with
    | ok result => exact absurd ⟨result, rfl⟩ hfails
    | error reason | panic => cases operation <;> rfl

/-- The accepted numbers are strictly increasing, up to the one that is remembered. -/
theorem acceptedSequences_increasing (operations : List Operation) :
    (acceptedSequences (calls (perform ext) operations context)).Pairwise (· < ·) ∧
      ∀ sequence ∈ acceptedSequences (calls (perform ext) operations context),
        ∃ last ∈ (stateAfterAll (perform ext) operations context).lastSequence,
          sequence ≤ last := by
  refine history_induction (motive := fun _ history (reached : ForwardingContext) =>
    (acceptedSequences history).Pairwise (· < ·) ∧
      ∀ sequence ∈ acceptedSequences history, ∃ last ∈ reached.lastSequence, sequence ≤ last)
    ⟨.nil, fun _ hmem => absurd hmem List.not_mem_nil⟩ ?_ operations
  intro _ operation history reached hprevious
  obtain ⟨hincreasing, hbelow⟩ := hprevious
  rw [acceptedSequences, List.filterMap_append]
  rcases countedBy_cases ext operation reached with
    ⟨sequence, hcounted, ⟨-, hnext⟩, hlast⟩ | ⟨hcounted, hlast⟩
  · have habove : ∀ earlier ∈ acceptedSequences history, earlier < sequence := by
      intro earlier hearlier
      obtain ⟨last, hremembered, hle⟩ := hbelow earlier hearlier
      exact UInt64.lt_of_le_of_lt hle (hnext last hremembered)
    rw [List.filterMap_cons_some hcounted, List.filterMap_nil]
    refine ⟨List.pairwise_append.mpr ⟨hincreasing, List.pairwise_singleton _ _, ?_⟩, ?_⟩
    · intro earlier hearlier later hlater
      rw [List.mem_singleton.mp hlater]
      exact habove earlier hearlier
    · intro earlier hearlier
      refine ⟨sequence, hlast, ?_⟩
      rcases List.mem_append.mp hearlier with hearlier | hearlier
      · exact UInt64.le_of_lt (habove earlier hearlier)
      · exact List.mem_singleton.mp hearlier ▸ UInt64.le_refl _
  · rw [List.filterMap_cons_none hcounted, List.filterMap_nil, List.append_nil]
    refine ⟨hincreasing, ?_⟩
    show ∀ sequence ∈ _, ∃ last ∈ (perform ext operation reached).2.lastSequence, _
    rw [hlast]
    exact hbelow
/-! ## Every life -/

/-- In the life of every context that was built, whatever is done to it: its route has the entry and
the exit as its two ends and the client is neither, its state never goes back and stays closed, its
relay session is settled once it forwards, the sequence numbers it accepts are strictly increasing,
and an operation that fails leaves it as it was. -/
theorem life_laws (hbuilt : Built context) (operations later : List Operation) :
    let reached := stateAfterAll (perform ext) operations context
    let afterwards := stateAfterAll (perform ext) (operations ++ later) context
    Bindable reached.route reached.clientPeer reached.entryPeer reached.exitPeer ∧
    reached.state.rank ≤ afterwards.state.rank ∧
    (reached.state = .closed → afterwards.state = .closed) ∧
    (ForwardingState.rank .forwarding ≤ reached.state.rank →
      afterwards.relaySessionId = reached.relaySessionId) ∧
    (acceptedSequences (calls (perform ext) operations context)).Pairwise (· < ·) ∧
    ∀ made ∈ calls (perform ext) operations context, made.Refused → made.after = made.before := by
  intro reached afterwards
  obtain ⟨hbindable, -⟩ := hbuilt.initial
  have hafter : afterwards = stateAfterAll (perform ext) later reached :=
    stateAfterAll_append operations later context
  have hrank : reached.state.rank ≤ afterwards.state.rank := by
    rw [hafter]
    exact rank_le_stateAfterAll later
  refine ⟨?_, hrank, ?_, ?_, (acceptedSequences_increasing operations).1, ?_⟩
  · have hfixed : reached.fixed = context.fixed := fixed_stateAfterAll operations
    simp only [fixed, Prod.mk.injEq] at hfixed
    obtain ⟨-, -, hclient, hentry, hexit, hroute⟩ := hfixed
    rw [hclient, hentry, hexit, hroute]
    exact hbindable
  · intro hclosed
    rw [hclosed] at hrank
    -- No state stands behind closed.
    cases hstate : afterwards.state with
    | closed => rfl
    | created | connecting | established | forwarding | closing =>
        rw [hstate] at hrank
        exact absurd hrank (by decide)
  · intro hforwards
    rw [hafter]
    exact relaySessionId_stateAfterAll later hforwards
  · intro made hmade hrefused
    obtain ⟨before, _, _, hcall⟩ := exists_of_mem_calls hmade
    rw [hcall] at hrefused ⊢
    exact (perform_keepsOnFailure _ _ _).resolve_left hrefused

def sampleRoute : RouteBinding := .twoHop ⟨[2]⟩ ⟨[3]⟩ "/ip4/10.0.0.3"

/-- A context that was just built. -/
def sampleContext : ForwardingContext :=
  ⟨⟨Vector.replicate 16 1⟩, ⟨Vector.replicate 16 2⟩, ⟨[1]⟩, ⟨[2]⟩, ⟨[3]⟩, sampleRoute, .created,
    none, none, none⟩

theorem sampleContext_built : Built sampleContext :=
  .withForwardingId _ _ _ _ _ _
    (withForwardingId_eq_ok.mpr ⟨⟨⟨_, rfl⟩, by decide, by decide, by decide⟩, rfl⟩)

/-- A life in which one sequence number is refused and the context is closed at the end. -/
def sampleLife : List Operation :=
  [.transitionConnecting, .transitionEstablished, .bindRelaySession ⟨Vector.replicate 16 4⟩,
    .beginForwarding ⟨Vector.replicate 16 1⟩ .clientToExit, .acceptSequence 3, .acceptSequence 2,
    .acceptSequence 7, .transitionClosing, .transitionClosed]

theorem life_laws_sample :
    acceptedSequences (calls (perform reference) sampleLife sampleContext) = [3, 7] ∧
    (stateAfterAll (perform reference) (sampleLife ++ [.transitionClosing]) sampleContext).state =
      .closed :=
  ⟨rfl, (life_laws sampleContext_built sampleLife [.transitionClosing]).2.2.1 rfl⟩

/-! ## Requests -/

abbrev Request := SessionId × ForwardingDirection

abbrev History := List (Call ForwardingContext ForwardingError Operation)

/-- A context that takes requests. -/
def Takes (context : ForwardingContext) : Prop :=
  context.state = .established ∨ context.state = .forwarding

instance (context : ForwardingContext) : Decidable context.Takes :=
  inferInstanceAs (Decidable (_ ∨ _))

/-- The request that a call asked for, where the context takes requests. -/
def askedBy (made : Call ForwardingContext ForwardingError Operation) : Option Request :=
  match made.operation with
  | .beginForwarding requestId direction =>
      if made.before.Takes then some (requestId, direction) else none
  | _ => none

/-- The request that a call accepted. -/
def acceptedBy (made : Call ForwardingContext ForwardingError Operation) : Option Request :=
  match made.operation, made.outcome with
  | .beginForwarding requestId direction, .ok () => some (requestId, direction)
  | _, _ => none

def asked (history : History) : List Request := history.filterMap askedBy

def accepted (history : History) : List Request := history.filterMap acceptedBy

theorem asked_concat (history : History)
    (made : Call ForwardingContext ForwardingError Operation) :
    asked (history ++ [made]) = asked history ++ (askedBy made).toList := by
  rw [asked, List.filterMap_append]
  cases hasks : askedBy made <;> simp [asked, hasks]

theorem accepted_concat (history : History)
    (made : Call ForwardingContext ForwardingError Operation) :
    accepted (history ++ [made]) = accepted history ++ (acceptedBy made).toList := by
  rw [accepted, List.filterMap_append]
  cases haccepts : acceptedBy made <;> simp [accepted, haccepts]

/-- Every request is accepted at most once, and as long as the context is not closed a request that
was accepted is refused as a duplicate from then on. -/
structure AcceptedOnce (history : History) : Prop where
  once : (accepted history).Nodup
  refused : ∀ earlier made later requestId direction, history = earlier ++ made :: later →
    made.operation = .beginForwarding requestId direction →
    (requestId, direction) ∈ accepted earlier →
    made.before.state ≠ .closing → made.before.state ≠ .closed →
    made.outcome = .error .duplicateForwardingRequest

/-- A request is asked for again only right after it was asked for. -/
def Clustered (requests : List Request) : Prop :=
  ∀ earlier request later, requests = earlier ++ request :: later → request ∈ earlier →
    earlier.getLast? = some request

theorem beginForwarding_run (requestId : SessionId) (direction : ForwardingDirection)
    (htakes : context.Takes) :
    beginForwarding requestId direction context =
      if context.lastRequest = some (requestId, direction) then
        (.error .duplicateForwardingRequest, context)
      else (.ok (), context.begun requestId direction) := by
  have hopen : ¬ (context.state = .closing ∨ context.state = .closed) := by
    rcases htakes with hstate | hstate <;> simp [hstate]
  have hstates : context.state = .established ∨ context.state = .forwarding := htakes
  simp only [beginForwarding, Fallible.get_bind_run, Fallible.failWhen_bind_run, if_neg hopen,
    if_neg (not_not.mpr hstates), Fallible.modify_run]
  rfl

/-- What one operation has to do with requests: it accepts one that is not the last, it repeats the
last one and is refused, or it does nothing about them. -/
inductive Asking (context : ForwardingContext)
    (made : Call ForwardingContext ForwardingError Operation) : Prop
  | accepts (request : Request) (asks : askedBy made = some request)
      (new : context.lastRequest ≠ some request) (accepts : acceptedBy made = some request)
      (remembers : made.after.lastRequest = some request) (state : made.after.state = .forwarding)
  | repeats (request : Request) (asks : askedBy made = some request)
      (last : context.lastRequest = some request) (refuses : acceptedBy made = none)
      (outcome : made.outcome = .error .duplicateForwardingRequest)
      (unchanged : made.after = context)
  | other (asks : askedBy made = none) (accepts : acceptedBy made = none)
      (remembers : made.after.lastRequest = context.lastRequest)

theorem acceptedBy_eq_none {made : Call ForwardingContext ForwardingError Operation}
    (hfails : made.Refused) : acceptedBy made = none := by
  unfold acceptedBy
  split
  next houtcome => exact absurd ⟨(), houtcome⟩ hfails
  next => rfl

variable (ext) in
theorem asking (operation : Operation) (context : ForwardingContext) :
    Asking context (call (perform ext) operation context) := by
  rcases perform_cases ext operation context with
    ⟨final, hrun, hadvance⟩ | ⟨outcome, hrun, hfails⟩
  · rw [call, hrun]
    cases hadvance with
    | begun requestId direction hbegins =>
        exact .accepts (requestId, direction) (if_pos hbegins.state) hbegins.fresh rfl rfl rfl
    | connecting | established | bound | closing | closed | counted | validated =>
        exact .other rfl rfl rfl
  · have hrefuses : acceptedBy (call (perform ext) operation context) = none :=
      acceptedBy_eq_none (by rw [call, hrun]; exact hfails)
    have hafter : (call (perform ext) operation context).after = context := by rw [call, hrun]
    by_cases hasks : (askedBy (call (perform ext) operation context)).isSome
    · obtain ⟨request, hasks⟩ := Option.isSome_iff_exists.mp hasks
      cases operation with
      | beginForwarding requestId direction =>
          by_cases htakes : context.Takes
          · obtain rfl := Option.some.inj ((if_pos htakes).symm.trans hasks)
            have hsame := (beginForwarding_run requestId direction htakes).symm.trans hrun
            -- A context that takes requests refuses one only when it is the last one.
            by_cases hlast : context.lastRequest = some (requestId, direction)
            · rw [if_pos hlast] at hsame
              obtain ⟨houtcome, -⟩ := Prod.mk.inj hsame
              refine .repeats _ hasks hlast hrefuses ?_ hafter
              rw [call, hrun]
              exact houtcome.symm
            · rw [if_neg hlast] at hsame
              exact absurd ⟨(), (Prod.mk.inj hsame).1.symm⟩ hfails
          · cases (if_neg htakes).symm.trans hasks
      | _ => cases hasks
    · exact .other (Option.not_isSome_iff_eq_none.mp hasks) hrefuses (by rw [hafter])

/-- What a context remembers of the requests so far: the last one. Those that were asked for were
accepted at some time, and then the context has come as far as forwarding. -/
structure Remembers (history : History) (reached : ForwardingContext) : Prop where
  last : reached.lastRequest = (asked history).getLast?
  accepted : ∀ request, request ∈ ForwardingContext.accepted history ↔ request ∈ asked history
  forwards : ∀ request ∈ asked history, 3 ≤ reached.state.rank

theorem Remembers.call {history : History} (hremembers : Remembers history context)
    (operation : Operation) :
    Remembers (history ++ [Foundation.call (perform ext) operation context])
      (perform ext operation context).2 := by
  cases asking ext operation context with
  | accepts request hasks hnew haccepts hlast hstate =>
      refine ⟨?_, ?_, ?_⟩
      · rw [asked_concat, hasks, Option.toList_some, List.getLast?_concat]
        exact hlast
      · intro other
        rw [asked_concat, accepted_concat, hasks, haccepts, List.mem_append, List.mem_append,
          hremembers.accepted]
      · intro other _
        exact le_of_eq (congrArg ForwardingState.rank hstate).symm
  -- What is refused was the last request asked for, so it is among the accepted ones already.
  | repeats request hasks hlast hrefuses houtcome hsame =>
      have hafter : (perform ext operation context).2 = context := hsame
      have hmem : request ∈ asked history :=
        List.mem_of_getLast? (hremembers.last.symm.trans hlast)
      rw [hafter]
      refine ⟨?_, ?_, ?_⟩
      · rw [asked_concat, hasks, Option.toList_some, List.getLast?_concat]
        exact hlast
      · intro other
        rw [asked_concat, accepted_concat, hasks, hrefuses, List.mem_append, List.mem_append,
          hremembers.accepted, Option.toList_none, Option.toList_some, List.mem_singleton]
        constructor
        · intro hother
          exact hother.imp_right (fun hnone => absurd hnone List.not_mem_nil)
        · intro hother
          rcases hother with hother | rfl
          · exact .inl hother
          · exact .inl hmem
      · intro other _
        exact hremembers.forwards request hmem
  | other hasks haccepts hlast =>
      have hasked : asked (history ++ [Foundation.call (perform ext) operation context]) =
          asked history := by
        rw [asked_concat, hasks, Option.toList_none, List.append_nil]
      refine ⟨?_, ?_, ?_⟩
      · rw [hasked]
        exact hlast.trans hremembers.last
      · intro other
        rw [hasked, accepted_concat, haccepts, Option.toList_none, List.append_nil]
        exact hremembers.accepted other
      · intro other hother
        rw [hasked] at hother
        exact (hremembers.forwards other hother).trans (rank_le_perform operation context)

variable (ext) in
theorem remembers (hbuilt : Built context) (operations : List Operation) :
    Remembers (calls (perform ext) operations context)
      (stateAfterAll (perform ext) operations context) := by
  obtain ⟨-, -, hlast⟩ := hbuilt.initial
  refine history_induction (motive := fun _ history reached => Remembers history reached)
    ⟨hlast, fun _ => Iff.rfl, fun _ hmem => absurd hmem List.not_mem_nil⟩ ?_ operations
  intro _ operation history reached hremembers
  exact hremembers.call operation

theorem askedBy_eq_some {made : Call ForwardingContext ForwardingError Operation}
    {request : Request} :
    askedBy made = some request ↔
      made.operation = .beginForwarding request.1 request.2 ∧ made.before.Takes := by
  obtain ⟨before, operation, outcome, after⟩ := made
  cases operation with
  | beginForwarding requestId direction =>
      by_cases htakes : before.Takes <;> simp [askedBy, htakes, Prod.ext_iff]
  | _ => simp [askedBy]

theorem Takes.open (htakes : context.Takes) :
    context.state ≠ .closing ∧ context.state ≠ .closed := by
  rcases htakes with hstate | hstate <;> simp [hstate]

theorem takes_of_forwards (hforwards : 3 ≤ context.state.rank) (hclosing : context.state ≠ .closing)
    (hclosed : context.state ≠ .closed) : context.Takes := by
  refine .inr ?_
  cases hstate : context.state with
  | forwarding => rfl
  | closing => exact absurd hstate hclosing
  | closed => exact absurd hstate hclosed
  | created | connecting | established =>
      rw [hstate] at hforwards
      exact absurd hforwards (by decide)

/-- A request that is not the last one is accepted again, so a repetition is refused exactly right
behind the request that it repeats. -/
theorem Remembers.refused_iff {history : History} {operation : Operation} {request : Request}
    (hremembers : Remembers history context)
    (hasks : askedBy (Foundation.call (perform ext) operation context) = some request) :
    (Foundation.call (perform ext) operation context).outcome =
        .error .duplicateForwardingRequest ↔
      (asked history).getLast? = some request := by
  rw [← hremembers.last]
  cases asking ext operation context with
  | accepts other hother hnew haccepts hlast hstate =>
      obtain rfl := Option.some.inj (hother.symm.trans hasks)
      refine iff_of_false ?_ hnew
      intro hrefused
      rw [acceptedBy_eq_none (Call.refused_of_error hrefused)] at haccepts
      cases haccepts
  | repeats other hother hlast hrefuses houtcome hsame =>
      obtain rfl := Option.some.inj (hother.symm.trans hasks)
      exact iff_of_true houtcome hlast
  | other hnone =>
      rw [hnone] at hasks
      cases hasks

theorem asked_of_accepted {operation : Operation} {request : Request}
    (haccepts : acceptedBy (call (perform ext) operation context) = some request) :
    askedBy (call (perform ext) operation context) = some request := by
  cases asking ext operation context with
  | accepts other hasks hnew hother => rwa [← hother.symm.trans haccepts]
  | repeats other hasks hlast hrefuses =>
      rw [hrefuses] at haccepts
      cases haccepts
  | other hasks hnone =>
      rw [hnone] at haccepts
      cases haccepts

/-- In the life of every context, requests are accepted once and their repetitions are refused
exactly when no request is asked for again behind another one. -/
theorem begin_forwarding_once_iff (hbuilt : Built context) (operations : List Operation) :
    AcceptedOnce (calls (perform ext) operations context) ↔
      Clustered (asked (calls (perform ext) operations context)) := by
  constructor
  · intro honce earlier request later hsplit hmem
    obtain ⟨before, made, after, hhistory, hbefore, hasks⟩ := exists_split_of_filterMap hsplit
    obtain ⟨past, _, _, hpast, hmade⟩ := exists_split_of_calls hhistory
    have hremembers := remembers ext hbuilt past
    rw [← hpast] at hremembers
    obtain ⟨hoperation, htakes⟩ := askedBy_eq_some.mp hasks
    -- It was accepted before and the context is still open, so this call was refused as a
    -- repetition.
    have haccepted : request ∈ accepted before := by
      apply (hremembers.accepted request).mpr
      rwa [asked, hbefore]
    have hrefused := honce.refused before made after request.1 request.2 hhistory hoperation
      haccepted htakes.open.1 htakes.open.2
    rw [hmade] at hasks hrefused
    have hlast := (hremembers.refused_iff hasks).mp hrefused
    rwa [asked, hbefore] at hlast
  · intro hclustered
    -- An accepted request that is asked for again is the last one asked for, and that is refused.
    have hrefused : ∀ earlier made later requestId direction,
        calls (perform ext) operations context = earlier ++ made :: later →
        made.operation = .beginForwarding requestId direction →
        (requestId, direction) ∈ accepted earlier →
        made.before.state ≠ .closing → made.before.state ≠ .closed →
        made.outcome = .error .duplicateForwardingRequest := by
      intro earlier made later requestId direction hsplit hoperation hmem hclosing hclosed
      obtain ⟨past, _, _, hpast, hmade⟩ := exists_split_of_calls hsplit
      have hremembers := remembers ext hbuilt past
      rw [← hpast] at hremembers
      have hasked := (hremembers.accepted _).mp hmem
      have htakes : made.before.Takes := by
        apply takes_of_forwards _ hclosing hclosed
        rw [hmade]
        exact hremembers.forwards _ hasked
      have hasks : askedBy made = some (requestId, direction) :=
        askedBy_eq_some.mpr ⟨hoperation, htakes⟩
      have hlast : (asked earlier).getLast? = some (requestId, direction) := by
        apply hclustered (asked earlier) (requestId, direction) (asked later) _ hasked
        rw [hsplit, asked, List.filterMap_append, List.filterMap_cons_some hasks]
        rfl
      rw [hmade] at hasks ⊢
      exact (hremembers.refused_iff hasks).mpr hlast
    refine ⟨nodup_filterMap_of_fresh ?_, hrefused⟩
    intro earlier made later request hsplit haccepts hmem
    obtain ⟨past, _, _, _, hmade⟩ := exists_split_of_calls hsplit
    have hasks : askedBy made = some request := by
      rw [hmade] at haccepts ⊢
      exact asked_of_accepted haccepts
    obtain ⟨hoperation, htakes⟩ := askedBy_eq_some.mp hasks
    have hduplicate := hrefused earlier made later request.1 request.2 hsplit hoperation hmem
      htakes.open.1 htakes.open.2
    rw [acceptedBy_eq_none (Call.refused_of_error hduplicate)] at haccepts
    cases haccepts

/-- A request that is repeated at once. -/
theorem begin_forwarding_once_repeated :
    AcceptedOnce (calls (perform reference)
      [.transitionConnecting, .transitionEstablished,
        .beginForwarding ⟨Vector.replicate 16 1⟩ .clientToExit,
        .beginForwarding ⟨Vector.replicate 16 1⟩ .clientToExit] sampleContext) := by
  apply (begin_forwarding_once_iff sampleContext_built _).mpr
  change Clustered [(⟨Vector.replicate 16 1⟩, .clientToExit),
    (⟨Vector.replicate 16 1⟩, .clientToExit)]
  intro earlier request later hsplit hmem
  cases earlier with
  | nil => cases hmem
  | cons first earlier =>
      obtain ⟨rfl, hsplit⟩ := List.cons.inj hsplit
      cases earlier with
      | nil => rw [List.mem_singleton.mp hmem, List.getLast?_singleton]
      | cons second earlier => simp at hsplit

/-- Another request in between, and the first one is accepted a second time. -/
theorem begin_forwarding_again :
    Built sampleContext ∧
    ¬ AcceptedOnce (calls (perform reference)
      [.transitionConnecting, .transitionEstablished,
        .beginForwarding ⟨Vector.replicate 16 1⟩ .clientToExit,
        .beginForwarding ⟨Vector.replicate 16 2⟩ .clientToExit,
        .beginForwarding ⟨Vector.replicate 16 1⟩ .clientToExit] sampleContext) := by
  refine ⟨sampleContext_built, ?_⟩
  intro honce
  have htwice : accepted (calls (perform reference)
      [.transitionConnecting, .transitionEstablished,
        .beginForwarding ⟨Vector.replicate 16 1⟩ .clientToExit,
        .beginForwarding ⟨Vector.replicate 16 2⟩ .clientToExit,
        .beginForwarding ⟨Vector.replicate 16 1⟩ .clientToExit] sampleContext) =
      [(⟨Vector.replicate 16 1⟩, .clientToExit), (⟨Vector.replicate 16 2⟩, .clientToExit),
        (⟨Vector.replicate 16 1⟩, .clientToExit)] := rfl
  have hnodup := honce.once
  rw [htwice] at hnodup
  exact absurd hnodup (by decide)

end ForwardingContext

end Relay
