import GhostLayer.Relay.Joining
import GhostLayer.Relay.Sealings

/-! # An entry, an exit and their clients

The two relays of a route, with any number of peers around them. The transport
knows who sent a request or a response, and numbers the requests of a relay. It
may lose, repeat and reorder what the relays send, and every other peer may send
anything, also what it has seen before.
-/

namespace Relay

open Foundation Network

variable {ext : Externals}

/-- A payload that a client passed to `DataPlane::send` on a channel, and the frame that it got for
it. -/
structure Sending where
  channel : EncryptedChannel
  payload : Bytes
  frame : Bytes

def Sending.sessionId (sending : Sending) : SessionId := sending.channel.session.sessionId

/-- The relays of a route, and who of their peers is an honest client. -/
structure Parties (ext : Externals) where
  entry : Setup ext
  exit : Setup ext
  honest : PeerId → Prop
  distinct : entry.peerId ≠ exit.peerId

/-- Both relays, with what they have handled, and what the honest clients have sent. -/
structure Circuit where
  entry : Process
  exit : Process
  sent : PeerId → List Sending

namespace Circuit

variable (parties : Parties ext) (circuit : Circuit)

/-- A client got a frame for its payload. -/
def withSending (client : PeerId) (sending : Sending) : Circuit :=
  { circuit with
    sent := Function.update circuit.sent client (circuit.sent client ++ [sending]) }

/-- A request of an honest client. Its data is a frame that the client got on that session. -/
def Made (ext : Externals) (circuit : Circuit) (client : PeerId) (payload : Bytes) : Prop :=
  ∀ envelope, (Node.readRequest ext payload).data = some envelope →
    ∃ sending ∈ circuit.sent client, envelope.sessionId = sending.sessionId ∧
      envelope.frame = sending.frame

/-- What can come to the entry. A response of the exit answers a request of the entry. -/
structure AtEntry (event : Node.LoopEvent) : Prop where
  request : ∀ peerId payload channel, event = .network (.discoveryRequest peerId payload channel) →
    channel.peer = peerId ∧ peerId ≠ parties.entry.peerId ∧
      (parties.honest peerId → circuit.Made ext peerId payload)
  response : ∀ requestId payload,
    event = .network (.discoveryResponse parties.exit.peerId requestId payload) →
    ∃ handled ∈ circuit.exit.history,
      .respond ⟨parties.entry.peerId, requestId⟩ payload ∈ handled.emitted parties.exit

/-- What can come to the exit. A request of the entry was sent by the entry. -/
structure AtExit (event : Node.LoopEvent) : Prop where
  request : ∀ peerId payload channel, event = .network (.discoveryRequest peerId payload channel) →
    channel.peer = peerId ∧ (peerId = parties.entry.peerId → ∃ handled ∈ circuit.entry.history,
      .request channel.index parties.exit.peerId payload ∈ handled.emitted parties.entry)

/-- The transport has not given this number to a request of the entry yet. -/
def Unused (requestId : RequestId) : Prop :=
  ∀ handled ∈ circuit.entry.history, ∀ peer payload,
    .request requestId peer payload ∉ handled.emitted parties.entry

/-- What can happen next. A relay whose handler failed handles nothing more. -/
inductive Step : Circuit → Prop
  | sends (client : PeerId) (channel next : EncryptedChannel) (maximumPayloadSize : Nat)
      (payload frame : Bytes)
      (sends : DataPlane.send ext maximumPayloadSize payload channel = (.ok frame, next)) :
      Step (circuit.withSending client ⟨channel, payload, frame⟩)
  | entry (inputs : Inputs) (event : Node.LoopEvent) (running : circuit.entry.ended = false)
      (unused : circuit.Unused parties inputs.requestId) (arrives : circuit.AtEntry parties event) :
      Step { circuit with entry := circuit.entry.handle parties.entry inputs event }
  | exit (inputs : Inputs) (event : Node.LoopEvent) (running : circuit.exit.ended = false)
      (arrives : circuit.AtExit parties event) :
      Step { circuit with exit := circuit.exit.handle parties.exit inputs event }

/-- Two relays that have just started. -/
structure Opened : Prop where
  entry : Node.Started ext parties.entry circuit.entry.node
  exit : Node.Started ext parties.exit circuit.exit.node
  running : circuit.entry.ended = false ∧ circuit.exit.ended = false
  history : circuit.entry.history = [] ∧ circuit.exit.history = []
  sent : ∀ client, circuit.sent client = []

def system : System Circuit where
  init := Opened parties
  step := fun circuit => circuit.Step parties

/-! ## The cipher of a run -/

/-- A call that sealed a frame of an honest client or of a relay. -/
def SealsWith (call : CipherCall) : Prop :=
  (∃ client, parties.honest client ∧ ∃ sending ∈ circuit.sent client,
    sending.channel.SealsWith ext (.dataPlane sending.payload) sending.frame call) ∨
  (∃ handled ∈ circuit.entry.history, handled.SealsWith parties.entry call) ∨
  ∃ handled ∈ circuit.exit.history, handled.SealsWith parties.exit call

/-- A call that opens a frame that came to a relay. -/
def OpensWith (ext : Externals) (circuit : Circuit) (call : CipherCall) : Prop :=
  (∃ handled ∈ circuit.entry.history, handled.OpensWith ext call) ∨
  ∃ handled ∈ circuit.exit.history, handled.OpensWith ext call

/-- The cipher is ideal for the calls of the run. -/
def IdealCipher : Prop := CipherCall.Ideal (circuit.SealsWith parties) (circuit.OpensWith ext)

/-! ## What a run keeps -/

variable {parties} {circuit} {next : Circuit} {event : Node.LoopEvent} {inputs : Inputs}

/-- Nothing that was done before is undone. -/
structure Before (circuit next : Circuit) : Prop where
  entry : circuit.entry.history ⊆ next.entry.history
  exit : circuit.exit.history ⊆ next.exit.history
  sent : ∀ client, circuit.sent client ⊆ next.sent client

theorem AtEntry.mono (harrives : circuit.AtEntry parties event) (hbefore : Before circuit next) :
    next.AtEntry parties event where
  request peerId payload channel hevent := by
    obtain ⟨hpeer, hother, hmade⟩ := harrives.request peerId payload channel hevent
    refine ⟨hpeer, hother, fun hhonest envelope hdata => ?_⟩
    obtain ⟨sending, hsending, hframe⟩ := hmade hhonest envelope hdata
    exact ⟨sending, hbefore.sent peerId hsending, hframe⟩
  response requestId payload hevent := by
    obtain ⟨handled, hhandled, hrespond⟩ := harrives.response requestId payload hevent
    exact ⟨handled, hbefore.exit hhandled, hrespond⟩

theorem AtExit.mono (harrives : circuit.AtExit parties event) (hbefore : Before circuit next) :
    next.AtExit parties event where
  request peerId payload channel hevent := by
    obtain ⟨hpeer, hsent⟩ := harrives.request peerId payload channel hevent
    refine ⟨hpeer, fun hentry => ?_⟩
    obtain ⟨handled, hhandled, hrequest⟩ := hsent hentry
    exact ⟨handled, hbefore.entry hhandled, hrequest⟩

/-- What holds of the relays and of everything that came to them. -/
structure Traced (parties : Parties ext) (circuit : Circuit) : Prop where
  entry : Process.Kept parties.entry circuit.entry
  exit : Process.Kept parties.exit circuit.exit
  atEntry : ∀ handled ∈ circuit.entry.history, circuit.AtEntry parties handled.event
  atExit : ∀ handled ∈ circuit.exit.history, circuit.AtExit parties handled.event
  sent : ∀ client, ∀ sending ∈ circuit.sent client, ∃ maximumPayloadSize next,
    DataPlane.send ext maximumPayloadSize sending.payload sending.channel =
      (.ok sending.frame, next)
  numbered : ∀ handled ∈ circuit.entry.history, ∀ handled' ∈ circuit.entry.history,
    ∀ requestId peer peer' payload payload',
      .request requestId peer payload ∈ handled.emitted parties.entry →
      .request requestId peer' payload' ∈ handled'.emitted parties.entry →
      peer = peer' ∧ payload = payload'

theorem Opened.traced (hopened : Opened parties circuit) : Traced parties circuit := by
  obtain ⟨hentry, hexit⟩ := hopened.history
  refine ⟨.started hopened.entry hentry, .started hopened.exit hexit, ?_, ?_, ?_, ?_⟩
  · simp [hentry]
  · simp [hexit]
  · simp [hopened.sent]
  · simp [hentry]

/-- A request that the entry makes has the number that the transport gave it. -/
theorem requestId_of_emitted {setup : Setup ext} {node : Node} {requestId : RequestId}
    {peer : PeerId} {payload : Bytes} (hsound : Node.Sound setup node)
    (hrequest : .request requestId peer payload ∈ Node.emitted setup inputs event node) :
    requestId = inputs.requestId := by
  cases (Node.handle_emitted hsound).2.each _ hrequest <;> rfl

theorem Traced.step (htraced : Traced parties circuit) (hstep : circuit.Step parties next) :
    Traced parties next := by
  cases hstep with
  | sends client channel next maximumPayloadSize payload frame sends =>
      have hbefore : Before circuit
          (circuit.withSending client ⟨channel, payload, frame⟩) := by
        refine ⟨List.Subset.refl _, List.Subset.refl _, fun other => ?_⟩
        by_cases hother : other = client
        · subst hother
          simp [withSending]
        · simp [withSending, hother]
      refine ⟨htraced.entry, htraced.exit,
        fun handled hhandled => (htraced.atEntry handled hhandled).mono hbefore,
        fun handled hhandled => (htraced.atExit handled hhandled).mono hbefore, ?_,
        htraced.numbered⟩
      intro other sending hsending
      by_cases hother : other = client
      · subst hother
        simp only [withSending, Function.update_self] at hsending
        rcases List.mem_append.mp hsending with hold | hnew
        · exact htraced.sent other sending hold
        · obtain rfl := List.mem_singleton.mp hnew
          exact ⟨maximumPayloadSize, next, sends⟩
      · simp only [withSending, Function.update_of_ne hother] at hsending
        exact htraced.sent other sending hsending
  | entry inputs event running unused arrives =>
      have hhistory := Process.handle_history parties.entry inputs event circuit.entry
      have hbefore : Before circuit
          { circuit with entry := circuit.entry.handle parties.entry inputs event } := by
        refine ⟨?_, List.Subset.refl _, fun _ => List.Subset.refl _⟩
        simp only [hhistory]
        exact List.subset_append_left _ _
      refine ⟨htraced.entry.handle running, htraced.exit, ?_,
        fun handled hhandled => (htraced.atExit handled hhandled).mono hbefore, htraced.sent, ?_⟩
      · intro handled hhandled
        simp only [hhistory] at hhandled
        rcases List.mem_append.mp hhandled with hold | hnew
        · exact (htraced.atEntry handled hold).mono hbefore
        · obtain rfl := List.mem_singleton.mp hnew
          exact arrives.mono hbefore
      -- A request id is drawn once, so two requests under it come from one event.
      · intro handled hhandled handled' hhandled' requestId peer peer'
          payload payload' hfirst hsecond
        simp only [hhistory] at hhandled hhandled'
        rcases List.mem_append.mp hhandled with hold | hnew <;>
          rcases List.mem_append.mp hhandled' with hold' | hnew'
        · exact htraced.numbered handled hold handled' hold' _ _ _ _ _ hfirst hsecond
        · obtain rfl := List.mem_singleton.mp hnew'
          obtain rfl := requestId_of_emitted htraced.entry.now.sound hsecond
          exact absurd hfirst (unused handled hold _ _)
        · obtain rfl := List.mem_singleton.mp hnew
          obtain rfl := requestId_of_emitted htraced.entry.now.sound hfirst
          exact absurd hsecond (unused handled' hold' _ _)
        · obtain rfl := List.mem_singleton.mp hnew
          obtain rfl := List.mem_singleton.mp hnew'
          exact ((Node.handle_emitted htraced.entry.now.sound).2.request_inj hfirst hsecond).2
  | exit inputs event running arrives =>
      have hhistory := Process.handle_history parties.exit inputs event circuit.exit
      have hbefore : Before circuit
          { circuit with exit := circuit.exit.handle parties.exit inputs event } := by
        refine ⟨List.Subset.refl _, ?_, fun _ => List.Subset.refl _⟩
        simp only [hhistory]
        exact List.subset_append_left _ _
      refine ⟨htraced.entry, htraced.exit.handle running,
        fun handled hhandled => (htraced.atEntry handled hhandled).mono hbefore, ?_, htraced.sent,
        htraced.numbered⟩
      intro handled hhandled
      simp only [hhistory] at hhandled
      rcases List.mem_append.mp hhandled with hold | hnew
      · exact (htraced.atExit handled hold).mono hbefore
      · obtain rfl := List.mem_singleton.mp hnew
        exact arrives.mono hbefore

theorem traced_of_reachable (hreach : (system parties).Reachable circuit) :
    Traced parties circuit :=
  hreach.invariant (Traced parties) (fun _ hopened => Opened.traced hopened)
    (fun _ _ _ htraced hstep => htraced.step hstep)

/-! ## Two relays over the reference instance -/

/-- The reference cipher is ideal for every call. -/
theorem idealCipher_reference (parties : Parties reference) (circuit : Circuit) :
    circuit.IdealCipher parties := by
  refine reference.cipherIdeal.mono ?_ ?_
  · rintro call (⟨_, -, _, -, hsealed⟩ | ⟨_, -, _, _, _, -, hsealed, -⟩ |
      ⟨_, -, _, _, _, -, hsealed, -⟩) <;> exact hsealed.seals
  · rintro call (⟨_, -, _, _, -, -, hopened⟩ | ⟨_, -, _, _, -, -, hopened⟩) <;>
      exact hopened.opens

open ReferenceRelay in
/-- An entry, and an exit under an identity of its own. -/
noncomputable def referenceParties (honest : PeerId → Prop) : Parties reference where
  entry := setup .both (bounds 8 8 8)
  exit := { setup .exit (bounds 8 8 8) with identity := ⟨[3]⟩ }
  honest
  distinct := by decide

open ReferenceRelay in
/-- Both relays have just started. -/
noncomputable def referenceCircuit : Circuit where
  entry := ⟨started .both (bounds 8 8 8), false, []⟩
  exit := ⟨{ started .exit (bounds 8 8 8) with
    state := .new ⟨[3]⟩ none "0.1.0", sessionResponder := .new ⟨[3]⟩ }, false, []⟩
  sent _ := []

theorem referenceCircuit_opened (honest : PeerId → Prop) :
    Opened (referenceParties honest) referenceCircuit where
  entry := ReferenceRelay.isStarted _ _
  exit := { ReferenceRelay.isStarted .exit (ReferenceRelay.bounds 8 8 8) with
    state := rfl
    sessionResponder := rfl }
  running := ⟨rfl, rfl⟩
  history := ⟨rfl, rfl⟩
  sent _ := rfl

end Circuit

end Relay
