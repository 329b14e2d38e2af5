import GhostLayer.Client.Engine
import GhostLayer.Network.SessionLaws

/-! # What a client knows of its relays

Both loops of a client keep a list of candidates, at most one handshake that is
pending and at most one session that is active. What an event does to these three
depends on what it tells the client, which is a turn, and on nothing else that a
loop holds. A loop is then known by how it reads events as turns, and what holds
of every sequence of turns holds of both loops.
-/

namespace Client

open Foundation Network Relay

/-- What one event tells a client about its relays. -/
inductive Turn where
  /-- A peer sent what reads as metadata. -/
  | reported (peer : PeerId) (metadata : RelayMetadata) (inputs : Inputs)
  /-- A peer sent what reads as the response of a handshake. -/
  | responded (peer : PeerId) (response : HandshakeResponse)
  /-- The connection to a peer has closed. -/
  | left (peer : PeerId)
  | other

structure ActiveSession where
  sessionId : SessionId
  route : RouteBinding
  deriving DecidableEq

def ActiveSession.ofSession (session : SecureSession) : ActiveSession :=
  ⟨session.sessionId, session.route⟩

structure Standing where
  candidates : List RelayCandidate
  pendingSession : Option SessionInitiator
  activeSession : Option ActiveSession

namespace Standing

def new : Standing := ⟨[], none, none⟩

variable (ext : Externals) (setup : Setup)

/-- The candidate that a report becomes. -/
def acceptedBy (metadata : RelayMetadata) (inputs : Inputs) : Option RelayCandidate :=
  (RelayCandidate.fromMetadata setup.parseMultiaddr metadata setup.requirements
    inputs.checkedAt).toOption

/-- The route that is selected among candidates. -/
def selectedFrom (candidates : List RelayCandidate) (inputs : Inputs) : Option Route :=
  (RouteSelector.select ext (ext.peerOf setup.identity)
    (RelayRanking.rank ext candidates inputs.rankedAt) setup.routePolicy
    inputs.selectedAt).toOption

variable {ext setup} in
theorem acceptedBy_eq_some {metadata : RelayMetadata} {inputs : Inputs}
    {candidate : RelayCandidate} :
    acceptedBy setup metadata inputs = some candidate ↔
      RelayCandidate.fromMetadata setup.parseMultiaddr metadata setup.requirements
        inputs.checkedAt = .ok candidate := by
  unfold acceptedBy
  cases RelayCandidate.fromMetadata setup.parseMultiaddr metadata setup.requirements
    inputs.checkedAt <;> simp [Except.toOption]

variable {ext setup} in
theorem selectedFrom_eq_some {candidates : List RelayCandidate} {inputs : Inputs} {route : Route} :
    selectedFrom ext setup candidates inputs = some route ↔
      RouteSelector.select ext (ext.peerOf setup.identity)
        (RelayRanking.rank ext candidates inputs.rankedAt) setup.routePolicy inputs.selectedAt =
          .ok route := by
  unfold selectedFrom
  cases RouteSelector.select ext (ext.peerOf setup.identity)
    (RelayRanking.rank ext candidates inputs.rankedAt) setup.routePolicy inputs.selectedAt <;>
    simp [Except.toOption]

/-- The candidate that a turn adds. -/
def gained : Turn → Option RelayCandidate
  | .reported _ metadata inputs => acceptedBy setup metadata inputs
  | _ => none

/-- The route that is selected in a turn. -/
def selects (standing : Standing) : Turn → Option Route
  | .reported _ metadata inputs => do
      let candidate ← acceptedBy setup metadata inputs
      selectedFrom ext setup (standing.candidates ++ [candidate]) inputs
  | _ => none

/-- The initiator of a handshake over a route, with what is drawn for it. -/
def initiatorFor (route : Route) (inputs : Inputs) : SessionInitiator :=
  ⟨setup.identity, (Engine.bindingOf route).1, (Engine.bindingOf route).2, setup.protocolVersion,
    inputs.sessionId, inputs.secret, .negotiating⟩

/-- The handshake that a turn begins. -/
def begins (standing : Standing) (turn : Turn) : Option SessionInitiator :=
  match turn with
  | .reported _ _ inputs =>
      if standing.pendingSession.isNone then
        (standing.selects ext setup turn).map fun route => initiatorFor setup route inputs
      else none
  | _ => none

/-- The session that a response completes. -/
def completes (standing : Standing) (response : HandshakeResponse) : Option ActiveSession := do
  let initiator ← standing.pendingSession
  let session ← (initiator.complete ext response).toOption
  return .ofSession session

/-- What is left of the active session when a peer leaves. A loop that does not drop sessions goes
on with it. -/
def without (drops : Bool) (peer : PeerId) (standing : Standing) : Option ActiveSession :=
  standing.activeSession.filter fun session => !(drops && session.route.contains peer)

/-- What a turn makes of a standing. Any response takes the handshake that is pending. -/
def after (drops : Bool) (turn : Turn) (standing : Standing) : Standing where
  candidates := standing.candidates ++ (gained setup turn).toList
  pendingSession := match turn with
    | .responded _ _ => none
    | _ => (standing.begins ext setup turn).or standing.pendingSession
  activeSession := match turn with
    | .responded _ response => (standing.completes ext response).or standing.activeSession
    | .left peer => standing.without drops peer
    | _ => standing.activeSession

end Standing

/-! ## Loops -/

/-- A request that carries the init of a handshake. -/
def Effect.opens (ext : Externals) (initiator : SessionInitiator) : Effect :=
  .request initiator.expectedPeer ((initiator.initOf ext).toJson ext).render

/-- What was sent while a handshake began or did not: its init and that of no other one. -/
def SendsInits (ext : Externals) (begun : Option SessionInitiator) (sent : List Effect) : Prop :=
  ∀ peer init, Effect.request peer (HandshakeInit.toJson ext init).render ∈ sent ↔
    ∃ initiator ∈ begun, Effect.request peer (HandshakeInit.toJson ext init).render =
      .opens ext initiator

/-- A loop of a client that handles one event after the other. -/
structure Loop (ext : Externals) where
  setup : Setup
  /-- Whether the active session ends with the connection to a relay of its route. -/
  drops : Bool
  State : Type
  Happening : Type
  start : State
  /-- The state after an event that the loop goes on after. -/
  handle : Happening → State → Option State
  turn : Happening → Turn
  standing : State → Standing
  effects : State → List Effect
  Sound : State → Prop
  start_sound : Sound start
  start_standing : standing start = .new
  handle_sound : ∀ {happening state next}, Sound state → handle happening state = some next →
    Sound next
  follows : ∀ {happening state next}, Sound state → handle happening state = some next →
    standing next = (standing state).after ext setup drops (turn happening)
  sends : ∀ {happening state next}, Sound state → handle happening state = some next →
    ∃ sent, effects next = effects state ++ sent ∧
      SendsInits ext ((standing state).begins ext setup (turn happening)) sent
  /-- No report makes the loop end. -/
  considers : ∀ {happening state peer metadata inputs}, Sound state →
    turn happening = .reported peer metadata inputs → ∃ next, handle happening state = some next

/-- What happened in one pass of a loop, and what was sent in it. -/
structure Entry where
  turn : Turn
  sent : List Effect

namespace Loop

variable {ext : Externals} (loop : Loop ext)

inductive Run : List Entry → loop.State → Prop
  | start : Run [] loop.start
  | step {past : List Entry} {state next : loop.State} {happening : loop.Happening}
      {sent : List Effect} (run : Run past state)
        (handles : loop.handle happening state = some next)
      (sends : loop.effects next = loop.effects state ++ sent) :
      Run (past ++ [⟨loop.turn happening, sent⟩]) next

/-- One pass of a loop in a run. -/
structure Pass (past : List Entry) (state : loop.State) (entry : Entry) (next : loop.State) :
    Prop where
  before : loop.Run past state
  after : loop.Run (past ++ [entry]) next
  sound : loop.Sound state
  standing : loop.standing next = (loop.standing state).after ext loop.setup loop.drops entry.turn
  sent : SendsInits ext ((loop.standing state).begins ext loop.setup entry.turn) entry.sent

variable {loop} {past : List Entry} {state next : loop.State}

theorem Run.sound (hrun : loop.Run past state) : loop.Sound state := by
  induction hrun with
  | start => exact loop.start_sound
  | step _ handles _ ih => exact loop.handle_sound ih handles

theorem Run.pass {happening : loop.Happening} {sent : List Effect} (hrun : loop.Run past state)
    (handles : loop.handle happening state = some next)
    (sends : loop.effects next = loop.effects state ++ sent) :
    loop.Pass past state ⟨loop.turn happening, sent⟩ next := by
  refine ⟨hrun, .step hrun handles sends, hrun.sound, loop.follows hrun.sound handles, ?_⟩
  obtain ⟨sent', hsent', hinits⟩ := loop.sends hrun.sound handles
  rw [sends] at hsent'
  rwa [List.append_cancel_left hsent']

theorem Run.handled {happening : loop.Happening} (hrun : loop.Run past state)
    (handles : loop.handle happening state = some next) :
    ∃ sent, loop.Pass past state ⟨loop.turn happening, sent⟩ next := by
  obtain ⟨sent, hsent, -⟩ := loop.sends hrun.sound handles
  exact ⟨sent, hrun.pass handles hsent⟩

theorem Run.considered {happening : loop.Happening} {peer : PeerId} {metadata : RelayMetadata}
    {inputs : Inputs} (hrun : loop.Run past state)
    (hturn : loop.turn happening = .reported peer metadata inputs) :
    ∃ sent next, loop.Pass past state ⟨.reported peer metadata inputs, sent⟩ next := by
  obtain ⟨next, hnext⟩ := loop.considers hrun.sound hturn
  obtain ⟨sent, hpass⟩ := hrun.handled hnext
  rw [hturn] at hpass
  exact ⟨sent, next, hpass⟩

/-- What is known of a client follows from the turns it took. -/
theorem Run.standing_eq (hrun : loop.Run past state) :
    loop.standing state = past.foldl
      (fun standing entry => standing.after ext loop.setup loop.drops entry.turn) .new := by
  induction hrun with
  | start => exact loop.start_standing
  | step hbefore handles _ ih =>
      rw [List.foldl_append, ← ih]
      exact loop.follows hbefore.sound handles

theorem Run.standing_unique {other : loop.State} (hrun : loop.Run past state)
    (hother : loop.Run past other) : loop.standing state = loop.standing other := by
  rw [hrun.standing_eq, hother.standing_eq]

/-! ## Runs that meet a condition -/

variable (loop) in
/-- Every pass of a run meets a condition. -/
def Always (condition : List Entry → loop.State → Entry → loop.State → Prop) (past : List Entry) :
    Prop :=
  ∀ ⦃before state entry next⦄, loop.Pass before state entry next → before ++ [entry] <+: past →
    condition before state entry next

variable (loop) in
/-- Every state of a run has a property. -/
def Throughout (property : List Entry → loop.State → Prop) (past : List Entry) : Prop :=
  ∀ ⦃before state⦄, loop.Run before state → before <+: past → property before state

/-- A property that every pass keeps which meets a condition holds in every state of a run whose
passes all meet it. -/
theorem Run.throughout {condition : List Entry → loop.State → Entry → loop.State → Prop}
    {property : List Entry → loop.State → Prop} (hstart : property [] loop.start)
    (hpass : ∀ {before state entry next}, loop.Pass before state entry next →
      property before state → condition before state entry next → property (before ++ [entry]) next)
    (halways : loop.Always condition past) : loop.Throughout property past := by
  intro before middle hrun hbegun
  induction hrun with
  | start => exact hstart
  | step hbefore handles sends ih =>
      have hpassed := hbefore.pass handles sends
      refine hpass hpassed (ih ?_) (halways hpassed hbegun)
      exact (List.prefix_append _ _).trans hbegun

end Loop

end Client
