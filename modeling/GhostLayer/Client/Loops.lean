import GhostLayer.Client.Decoding
import GhostLayer.Client.Standing
import GhostLayer.Client.Steps
import GhostLayer.Relay.RoutingLaws

/-! # The loops of a client as turns

How each loop reads an event as a turn, and that the handling of the event does to
what the loop knows of its relays what the turn does.
-/

namespace Client

open Foundation Network Relay

variable {ext : Externals}

/-! ## What is no init -/

theorem init_ne_forwarding (init : HandshakeInit) (message : ForwardingMessage) :
    (init.toJson ext).render ≠ (message.toJson ext).render := by
  intro hsame
  have hjson := Json.render_injective hsame
  simp [HandshakeInit.toJson, HandshakeInit.fieldNames, ForwardingMessage.toJson,
    ForwardingMessage.fieldNames] at hjson

theorem init_ne_envelope (init : HandshakeInit) (envelope : DataPlaneEnvelope) :
    (init.toJson ext).render ≠ envelope.toJson.render := by
  intro hsame
  have hjson := Json.render_injective hsame
  simp [HandshakeInit.toJson, HandshakeInit.fieldNames, DataPlaneEnvelope.toJson,
    DataPlaneEnvelope.fieldNames] at hjson

theorem init_ne_metadata (init : HandshakeInit) (request : RelayMetadataRequest) :
    (init.toJson ext).render ≠ request.toJson.render := by
  intro hsame
  have hjson := Json.render_injective hsame
  simp [HandshakeInit.toJson, HandshakeInit.fieldNames, RelayMetadataRequest.toJson,
    RelayMetadataRequest.fieldNames] at hjson

/-- Nothing of what was sent is an init. -/
theorem SendsInits.none {sent : List Effect}
    (hother : ∀ peer init, Effect.request peer (HandshakeInit.toJson ext init).render ∉ sent) :
    SendsInits ext none sent := by
  intro peer init
  simp [hother peer init]

theorem SendsInits.nil : SendsInits ext .none [] := .none (by simp)

theorem SendsInits.opens (initiator : SessionInitiator) :
    SendsInits ext (some initiator) [.opens ext initiator] := by
  intro peer init
  simp

/-! ## Turns -/

/-- What a response that was read tells a client. -/
def Response.turn (peer : PeerId) (inputs : Inputs) : Outcome Empty Response → Turn
  | .ok (.handshake response) =>
      if response.kind = "secure_session_response" then .responded peer response else .other
  | .ok (.metadata report) => .reported peer report inputs
  | _ => .other

theorem Response.turn_eq_reported {peer source : PeerId} {inputs drawn : Inputs}
    {read : Outcome Empty Response} {report : RelayMetadata} :
    Response.turn peer inputs read = .reported source report drawn ↔
      read = .ok (.metadata report) ∧ peer = source ∧ inputs = drawn := by
  rcases read with (response | message | envelope | metadata | _) | ⟨⟨⟩⟩ | _
  · by_cases hkind : response.kind = "secure_session_response" <;> simp [Response.turn, hkind]
  · simp [Response.turn]
  · simp [Response.turn]
  · simp only [Response.turn, Turn.reported.injEq, Outcome.ok.injEq, Response.metadata.injEq]
    tauto
  · simp [Response.turn]
  · simp [Response.turn]

namespace Standing

variable {setup : Setup} {drops : Bool} {standing : Standing}

@[simp] theorem without_false (peer : PeerId) :
    standing.without false peer = standing.activeSession := by
  cases hactive : standing.activeSession <;> simp [without, hactive, Option.filter]

@[simp] theorem after_other : standing.after ext setup drops .other = standing := by
  simp [after, gained, begins]

/-- What the handling of a turn does to what a loop knows, and what it sends. -/
structure Handled (ext : Externals) (setup : Setup) (drops : Bool) (turn : Turn)
    (before after : Standing) (effects effects' : List Effect) : Prop where
  standing : after = before.after ext setup drops turn
  sent : ∃ sent, effects' = effects ++ sent ∧
    SendsInits ext (before.begins ext setup turn) sent

/-- A turn in which nothing is sent and no handshake can begin. -/
theorem Handled.silent {turn : Turn} {after : Standing} {effects : List Effect}
    (hstanding : after = standing.after ext setup drops turn)
    (hbegins : standing.begins ext setup turn = none) :
    Handled ext setup drops turn standing after effects effects := by
  refine ⟨hstanding, [], (List.append_nil _).symm, ?_⟩
  rw [hbegins]
  exact .nil

theorem Handled.idle {after : Standing} {effects : List Effect} (hsame : after = standing) :
    Handled ext setup drops .other standing after effects effects :=
  .silent (hsame.trans after_other.symm) rfl

/-- A turn that tells nothing, in which something is sent that is no init. -/
theorem Handled.sends {after : Standing} {effects : List Effect} {effect : Effect}
    (hsame : after = standing)
    (hother : ∀ peer init, Effect.request peer (HandshakeInit.toJson ext init).render ≠ effect) :
    Handled ext setup drops .other standing after effects (effects ++ [effect]) := by
  refine ⟨hsame.trans after_other.symm, [effect], rfl, .none ?_⟩
  intro peer init hmem
  exact hother peer init (List.mem_singleton.mp hmem)

section Reports

variable {peer : PeerId} {metadata : RelayMetadata} {inputs : Inputs} {effects : List Effect}
  {candidate : RelayCandidate}

theorem Handled.rejected (hrejected : acceptedBy setup metadata inputs = none) :
    Handled ext setup drops (.reported peer metadata inputs) standing standing effects effects := by
  refine .silent ?_ ?_
  · simp [after, gained, begins, selects, hrejected]
  · simp [begins, selects, hrejected]

theorem Handled.listed (haccepted : acceptedBy setup metadata inputs = some candidate)
    (hquiet : selectedFrom ext setup (standing.candidates ++ [candidate]) inputs = none ∨
      standing.pendingSession.isNone = false) :
    Handled ext setup drops (.reported peer metadata inputs) standing
      { standing with candidates := standing.candidates ++ [candidate] } effects effects := by
  have hbegins : standing.begins ext setup (.reported peer metadata inputs) = none := by
    rcases hquiet with hnone | hpending
    · simp [begins, selects, haccepted, hnone]
    · simp [begins, hpending]
  refine .silent ?_ hbegins
  simp [after, gained, haccepted, hbegins]

theorem Handled.begun {route : Route}
    (haccepted : acceptedBy setup metadata inputs = some candidate)
    (hselected : selectedFrom ext setup (standing.candidates ++ [candidate]) inputs = some route)
    (hfree : standing.pendingSession = none) :
    Handled ext setup drops (.reported peer metadata inputs) standing
      { standing with
        candidates := standing.candidates ++ [candidate]
        pendingSession := some (initiatorFor setup route inputs) }
      effects (effects ++ [.opens ext (initiatorFor setup route inputs)]) := by
  have hbegins : standing.begins ext setup (.reported peer metadata inputs) =
      some (initiatorFor setup route inputs) := by
    simp [begins, selects, haccepted, hselected, hfree]
  refine ⟨?_, [_], rfl, ?_⟩
  · simp [after, gained, haccepted, hbegins]
  · rw [hbegins]
    exact .opens _

end Reports

/-- A selected route is one that a handshake can begin over. -/
theorem new_of_select {candidates : List RelayCandidate} {now : Int} {route : Route}
    (inputs : Inputs)
    (hselected : RouteSelector.select ext (ext.peerOf setup.identity) candidates setup.routePolicy
      now = .ok route) :
    SessionInitiator.new setup.identity (Engine.bindingOf route).1 (Engine.bindingOf route).2
      setup.protocolVersion inputs.sessionId inputs.secret =
        .ok (initiatorFor setup route inputs) := by
  obtain ⟨-, hnodup⟩ := RouteSelector.select_hops hselected
  refine SessionInitiator.new_eq_ok.mpr ⟨?_, ?_, rfl⟩
  · cases route with
    | oneHop relay => trivial
    | twoHop entry exit =>
        change entry.peerId ≠ exit.peerId
        simpa [Route.hops] using hnodup
  · cases route <;> simp [Engine.bindingOf, RouteBinding.peers]

end Standing

/-! ## A channel stays one of its session -/

/-- The session that a channel carries. -/
def sessionOf (channel : EncryptedChannel) : ActiveSession := .ofSession channel.session

theorem keeps_open (maximumPayloadSize : Nat) :
    Fallible.Keeps sessionOf (DataPlane.open maximumPayloadSize) := by
  intro channel
  rw [DataPlane.open_state]

variable (ext) in
theorem keeps_send (maximumPayloadSize : Nat) (payload : Bytes) :
    Fallible.Keeps sessionOf (DataPlane.send ext maximumPayloadSize payload) := by
  intro channel
  have hsent := DataPlane.send_sentOn ext maximumPayloadSize payload channel
  exact congrArg₂ ActiveSession.mk hsent.sessionId hsent.route

variable (ext) in
theorem keeps_receive (maximumPayloadSize : Nat) (envelope : DataPlaneEnvelope) :
    Fallible.Keeps sessionOf (DataPlane.receive ext maximumPayloadSize envelope) := by
  intro channel
  have hreceived := DataPlane.receive_receivedOn ext maximumPayloadSize envelope channel
  exact congrArg₂ ActiveSession.mk hreceived.sessionId hreceived.route

/-! ## The tunnel loop -/

namespace Engine

variable {setup : Setup} {inputs : Inputs} {engine final : Engine}

def standing (engine : Engine) : Standing where
  candidates := engine.candidates
  pendingSession := engine.pendingSession
  activeSession := engine.activeChannel.map sessionOf

def turn (ext : Externals) : Inputs × LoopEvent → Turn
  | (inputs, .network (.discoveryResponse peer _ payload)) =>
      Response.turn peer inputs (readResponse ext payload)
  | (_, .network (.peerDisconnected peer)) => .left peer
  | _ => .other

/-- A channel that was used is still of the same session. -/
theorem standing_withChannel {channel next : EncryptedChannel}
    (hactive : engine.activeChannel = some channel)
    (hsession : sessionOf next = sessionOf channel) :
    ({ engine with activeChannel := some next } : Engine).standing = engine.standing := by
  simp [standing, hactive, hsession]

theorem considerRelay_handled (peer : PeerId) (metadata : RelayMetadata) :
    ∃ next, considerRelay ext setup inputs metadata engine = (.ok (), next) ∧
      Standing.Handled ext setup true (.reported peer metadata inputs) engine.standing next.standing
        engine.effects next.effects := by
  unfold considerRelay
  cases haccepted : RelayCandidate.fromMetadata setup.parseMultiaddr metadata setup.requirements
      inputs.checkedAt with
  | error reason =>
      exact ⟨engine, rfl, .rejected (by rw [Standing.acceptedBy, haccepted]; rfl)⟩
  | ok candidate =>
      have hcandidate : Standing.acceptedBy setup metadata inputs = some candidate := by
        rw [Standing.acceptedBy, haccepted]
        rfl
      simp only [Fallible.modify_bind_run, Fallible.get_bind_run]
      cases hselected : RouteSelector.select ext (ext.peerOf setup.identity)
          (RelayRanking.rank ext (engine.candidates ++ [candidate]) inputs.rankedAt)
          setup.routePolicy inputs.selectedAt with
      | error reason =>
          refine ⟨_, rfl, .listed hcandidate (.inl ?_)⟩
          simp only [Standing.selectedFrom, standing, hselected]
          rfl
      | ok route =>
          have hroute : Standing.selectedFrom ext setup (engine.candidates ++ [candidate]) inputs =
              some route := by
            simp only [Standing.selectedFrom, hselected]
            rfl
          simp only [startSession, Fallible.get_bind_run]
          by_cases hfree : engine.pendingSession.isNone = true
          · have hbuilt : (Standing.initiatorFor setup route inputs).buildInit ext =
                .ok ((Standing.initiatorFor setup route inputs).initOf ext) := rfl
            simp only [if_pos hfree, Standing.new_of_select inputs hselected, hbuilt]
            exact ⟨_, rfl, .begun hcandidate hroute (Option.isNone_iff_eq_none.mp hfree)⟩
          · simp only [if_neg hfree]
            exact ⟨_, rfl, .listed hcandidate (.inr (Bool.eq_false_iff.mpr hfree))⟩

variable (setup) in
theorem completeSession_handled {response : HandshakeResponse} (peer : PeerId)
    (hkind : response.kind = "secure_session_response") :
    ∃ next, completeSession ext response engine = (.ok (), next) ∧
      Standing.Handled ext setup true (.responded peer response) engine.standing next.standing
        engine.effects next.effects := by
  unfold completeSession
  simp only [if_pos hkind, Fallible.get_bind_run]
  cases hpending : engine.pendingSession with
  | none =>
      refine ⟨engine, rfl, .silent ?_ rfl⟩
      simp [Standing.after, Standing.gained, Standing.completes, standing, hpending]
  | some initiator =>
      simp only [Fallible.modify_bind_run]
      cases hcomplete : initiator.complete ext response with
      | error reason =>
          refine ⟨_, rfl, .silent ?_ rfl⟩
          simp [Standing.after, Standing.gained, Standing.completes, standing, hpending, hcomplete,
            Except.toOption]
      | ok session =>
          have hopen : EncryptedChannel.open session channelProtocolVersion 4096 8 =
              .ok (Node.freshChannel session) := by
            obtain ⟨_, _, _, rfl⟩ := SessionInitiator.complete_eq_ok.mp hcomplete
            rfl
          simp only [hopen]
          refine ⟨_, rfl, .silent ?_ rfl⟩
          simp [Standing.after, Standing.gained, Standing.completes, standing, hpending, hcomplete,
            Except.toOption, Node.freshChannel, sessionOf]

theorem deliver_handled {message : ForwardingMessage}
    (hrun : deliver ext setup message engine = (.ok (), final)) :
    Standing.Handled ext setup true .other engine.standing final.standing engine.effects
      final.effects := by
  unfold deliver at hrun
  by_cases hkind : message.kind = forwardingKind
  · simp only [if_pos hkind, Fallible.get_bind_run] at hrun
    cases hchannel : engine.activeChannel with
    | none =>
        simp only [hchannel] at hrun
        cases hrun
        exact .idle rfl
    | some channel =>
        simp only [hchannel] at hrun
        obtain ⟨result, middle, hreceive, hrest⟩ := Fallible.bind_eq_ok.mp hrun
        have hkeeps := (keeps_open defaultMaximumPayloadSize).bind fun _ =>
          keeps_receive ext defaultMaximumPayloadSize message.data
        have hmiddle : middle.standing = engine.standing ∧ middle.effects = engine.effects := by
          obtain ⟨next, rfl, ⟨opening, -, hopened⟩ | ⟨-, reason, hfails⟩⟩ :=
            onChannel_cases hreceive
          · exact ⟨standing_withChannel hchannel (hkeeps.of_run hopened), rfl⟩
          · exact ⟨standing_withChannel hchannel (hkeeps.of_run hfails), rfl⟩
        rw [← hmiddle.1, ← hmiddle.2]
        cases result with
        | none =>
            cases hrest
            exact .idle rfl
        | some received =>
            by_cases hwriter : setup.tunWriter = true
            · simp only [if_pos hwriter] at hrest
              obtain rfl := (Prod.mk.inj hrest).2
              exact .sends rfl nofun
            · simp only [if_neg hwriter] at hrest
              cases hrest
              exact .idle rfl
  · simp only [if_neg hkind] at hrun
    cases hrun
    exact .idle rfl

theorem handleTun_handled (inputs : Inputs) {packet : Bytes}
    (hrun : handleTun ext setup packet engine = (.ok (), final)) :
    Standing.Handled ext setup true .other engine.standing final.standing engine.effects
      final.effects := by
  have hstep : Step ext setup inputs engine (.tun packet) final := handleTun_step hrun
  cases hstep with
  | idle => exact .idle rfl
  | unsent _ channel next item shown active fails =>
      have hsession : sessionOf next = sessionOf channel := by
        rcases fails with rfl | ⟨reason, hfails⟩
        · rfl
        · exact (keeps_send ext _ _).of_run hfails
      exact .idle (standing_withChannel active hsession)
  | sent _ channel next route exit sessionId item frame shown active along towards current sends =>
      have hstanding := standing_withChannel active ((keeps_send ext _ _).of_run sends)
      refine .sends hstanding fun peer init hsame => ?_
      exact init_ne_forwarding init _ (Effect.request.inj hsame).2

/-- In a loop whose session variables agree, the active session ends with a relay of its route. -/
theorem endsWith_iff {channel : EncryptedChannel} (hactive : Active ext setup engine channel)
    (peer : PeerId) : engine.endsWith peer = channel.session.route.contains peer := by
  unfold endsWith RouteBinding.contains
  rw [hactive.route, hactive.exit]
  cases channel.session.route with
  | oneHop relay => simp [exitOf, RouteBinding.peers, eq_comm]
  | twoHop entry exit address => simp [exitOf, RouteBinding.peers, or_comm, eq_comm]

theorem peerDisconnected_handled (hcoherent : Coherent ext setup engine) (peer : PeerId) :
    ∃ next, peerDisconnected peer engine = (.ok (), next) ∧
      Standing.Handled ext setup true (.left peer) engine.standing next.standing engine.effects
        next.effects := by
  refine ⟨_, rfl, ?_⟩
  beta_reduce
  cases hchannel : engine.activeChannel with
  | none =>
      obtain ⟨hroute, hexit, -⟩ := hcoherent.cleared hchannel
      have hstays : engine.endsWith peer = false := by simp [endsWith, hroute, hexit]
      rw [if_neg (by simp [hstays])]
      refine .silent ?_ rfl
      simp [Standing.after, Standing.gained, Standing.begins, Standing.without, standing, hchannel]
  | some channel =>
      have hends := endsWith_iff (hcoherent.active channel hchannel) peer
      by_cases hcontains : channel.session.route.contains peer = true
      · rw [if_pos (hends.trans hcontains)]
        refine .silent ?_ rfl
        simp [Standing.after, Standing.gained, Standing.begins,
          Standing.without, standing, hchannel,
          sessionOf, ActiveSession.ofSession, Option.filter, hcontains]
      · rw [if_neg (by rw [hends]; exact hcontains)]
        refine .silent ?_ rfl
        simp [Standing.after, Standing.gained, Standing.begins,
          Standing.without, standing, hchannel,
          sessionOf, ActiveSession.ofSession, Option.filter, hcontains]

/-- Every event does what its turn does. -/
theorem handle_handled (hcoherent : Coherent ext setup engine) {event : LoopEvent}
    (hrun : handle ext setup inputs event engine = (.ok (), final)) :
    Standing.Handled ext setup true (turn ext (inputs, event)) engine.standing final.standing
      engine.effects final.effects := by
  cases event with
  | tun packet => exact handleTun_handled inputs hrun
  | network event =>
      cases event with
      | peerConnected peer =>
          obtain rfl := (Prod.mk.inj hrun).2
          refine .sends rfl fun _ init hsame => ?_
          exact init_ne_metadata init _ (Effect.request.inj hsame).2
      | peerDisconnected peer =>
          obtain ⟨next, hnext, hhandled⟩ := peerDisconnected_handled hcoherent peer
          obtain rfl := (Prod.mk.inj (hnext.symm.trans hrun)).2
          exact hhandled
      | discoveryResponse peer requestId payload =>
          change handleResponse ext setup inputs payload engine = _ at hrun
          rw [handleResponse_readResponse] at hrun
          change Standing.Handled ext setup true
            (Response.turn peer inputs (readResponse ext payload)) _ _ _ _
          -- The payload is read once, as the first kind of message that it can be.
          generalize readResponse ext payload = read at hrun ⊢
          rcases read with (response | message | envelope | metadata | _) | ⟨⟨⟩⟩ | _
          · by_cases hkind : response.kind = "secure_session_response"
            · obtain ⟨next, hnext, hhandled⟩ := completeSession_handled setup peer hkind
              obtain rfl := (Prod.mk.inj (hnext.symm.trans hrun)).2
              rw [Response.turn, if_pos hkind]
              exact hhandled
            · change completeSession ext response engine = _ at hrun
              rw [completeSession, if_neg hkind] at hrun
              cases hrun
              rw [Response.turn, if_neg hkind]
              exact .idle rfl
          · exact deliver_handled hrun
          · cases hrun
            exact .idle rfl
          · obtain ⟨next, hnext, hhandled⟩ := considerRelay_handled peer metadata
            obtain rfl := (Prod.mk.inj (hnext.symm.trans hrun)).2
            exact hhandled
          · cases hrun
            exact .idle rfl
          · cases hrun
      | peerIdentified | pingResult | discoveryRequest | listening | networkError =>
          cases hrun
          exact .idle rfl

/-- A report is always considered. -/
theorem handle_reported (engine : Engine) {event : LoopEvent} {peer : PeerId}
    {metadata : RelayMetadata} {drawn : Inputs}
    (hturn : turn ext (inputs, event) = .reported peer metadata drawn) :
    ∃ next, handle ext setup inputs event engine = (.ok (), next) := by
  cases event with
  | tun packet => cases hturn
  | network event =>
      cases event with
      | discoveryResponse source requestId payload =>
          obtain ⟨hread, -, -⟩ := Response.turn_eq_reported.mp hturn
          obtain ⟨next, hnext, -⟩ := considerRelay_handled source metadata
          refine ⟨next, ?_⟩
          change handleResponse ext setup inputs payload engine = _
          rw [handleResponse_readResponse, hread]
          exact hnext
      | peerConnected | peerDisconnected | peerIdentified | pingResult | discoveryRequest
      | listening | networkError => cases hturn

/-- The tunnel loop. Its session ends with the connection to a relay of the route. -/
def toLoop (ext : Externals) (setup : Setup) : Loop ext where
  setup
  drops := true
  State := Engine
  Happening := Inputs × LoopEvent
  start := new
  handle happening := Fallible.endsIn (handle ext setup happening.1 happening.2)
  turn := turn ext
  standing := standing
  effects := effects
  Sound := Coherent ext setup
  start_sound := new_coherent
  start_standing := rfl
  handle_sound hcoherent hrun := hcoherent.step (handle_step (Fallible.endsIn_eq_some.mp hrun))
  follows hcoherent hrun := (handle_handled hcoherent (Fallible.endsIn_eq_some.mp hrun)).standing
  sends hcoherent hrun := (handle_handled hcoherent (Fallible.endsIn_eq_some.mp hrun)).sent
  considers _ hturn := by
    obtain ⟨next, hnext⟩ := handle_reported _ hturn
    exact ⟨next, Fallible.endsIn_eq_some.mpr hnext⟩

theorem toLoop_handle {event : LoopEvent}
    (hrun : handle ext setup inputs event engine = (.ok (), final)) :
    (toLoop ext setup).handle (inputs, event) engine = some final :=
  Fallible.endsIn_eq_some.mpr hrun

end Engine

/-! ## The loop of the program -/

namespace Program

variable {setup : Setup} {inputs : Inputs} {program final : Program}

def standing (program : Program) : Standing where
  candidates := program.candidates
  pendingSession := program.pendingSession
  activeSession := program.activeChannel.map sessionOf

def turn (ext : Externals) : Inputs × NetworkEvent ResponseChannel RequestId → Turn
  | (inputs, .discoveryResponse peer _ payload) =>
      Response.turn peer inputs.toInputs (readResponse ext payload)
  | (_, .peerDisconnected peer) => .left peer
  | _ => .other

theorem orFail_eq_ok {σ ε α : Type} {convert : ε → ProgramError} {result : Except ε α} {value : α}
    {state next : σ} :
    orFail convert result state = (.ok value, next) ↔ result = .ok value ∧ state = next := by
  rw [orFail, Fallible.ofExcept_eq_ok, Check.mapError_eq_ok]

theorem onChannel_eq_ok {ε α : Type} {channel : EncryptedChannel}
    {routine : Fallible EncryptedChannel ε α} {result : Except ε α}
    (hrun : onChannel channel routine program = (.ok result, final)) :
    ∃ next, routine channel = (.ofExcept result, next) ∧
      final = { program with activeChannel := some next } := by
  unfold onChannel at hrun
  rcases hroutine : routine channel with ⟨value | reason | _, next⟩ <;> rw [hroutine] at hrun <;>
    cases hrun
  · exact ⟨next, rfl, rfl⟩
  · exact ⟨next, rfl, rfl⟩

theorem finish_ne_ok : finish program ≠ (.ok (), final) := by
  intro hrun
  rw [finish, Fallible.get_bind_run] at hrun
  cases hchannel : program.activeChannel with
  | none =>
      rw [hchannel] at hrun
      cases hrun
  | some channel =>
      simp only [hchannel] at hrun
      obtain ⟨_, _, _, hrest⟩ := Fallible.bind_eq_ok.mp hrun
      obtain ⟨_, _, _, hthrow⟩ := Fallible.bind_eq_ok.mp hrest
      cases hthrow

/-- The packet that goes to the device is the last thing that the program does. -/
theorem writeToTun_ne_ok {channel : EncryptedChannel} {message : ForwardingMessage} :
    writeToTun ext setup inputs channel message program ≠ (.ok (), final) := by
  intro hrun
  obtain ⟨_, _, _, hrun⟩ := Fallible.bind_eq_ok.mp hrun
  obtain ⟨_, _, _, hrun⟩ := Fallible.bind_eq_ok.mp hrun
  obtain ⟨_, _, _, hrun⟩ := Fallible.bind_eq_ok.mp hrun
  obtain ⟨_, _, _, hrun⟩ := Fallible.bind_eq_ok.mp hrun
  obtain ⟨_, _, _, hrun⟩ := Fallible.bind_eq_ok.mp hrun
  obtain ⟨_, _, _, hrun⟩ := Fallible.bind_eq_ok.mp hrun
  exact finish_ne_ok hrun

/-- A channel that receives is all that changes. -/
theorem receiveOn_eq_ok {channel : EncryptedChannel} {envelope : DataPlaneEnvelope}
    {result : Except DataPlaneError DataPlaneMessage}
    (hactive : program.activeChannel = some channel)
    (hrun : receiveOn ext channel envelope program = (.ok result, final)) :
    final.standing = program.standing ∧ final.effects = program.effects := by
  obtain ⟨next, hroutine, rfl⟩ := onChannel_eq_ok hrun
  have hkeeps := (keeps_open defaultMaximumPayloadSize).bind fun _ =>
    keeps_receive ext defaultMaximumPayloadSize envelope
  have hsession : sessionOf next = sessionOf channel := hkeeps.of_run hroutine
  simp [standing, hactive, hsession]

/-- The loop goes on after a message only when nothing was made of it. -/
theorem conclude_eq_ok {message : ForwardingMessage} {received : DataPlaneMessage}
    (hrun : conclude message received program = (.ok (), final)) : final = program := by
  unfold conclude at hrun
  split at hrun
  · exact absurd hrun finish_ne_ok
  · generalize message.packet.map ForwardedPacket.protocol = protocol at hrun
    rcases protocol with _ | (_ | _ | _ | _)
    case some.udp | some.dns =>
      obtain ⟨_, _, _, hfinish⟩ := Fallible.bind_eq_ok.mp hrun
      exact absurd hfinish finish_ne_ok
    all_goals
      cases hrun
      rfl

theorem deliver_handled {message : ForwardingMessage}
    (hrun : deliver ext setup inputs message program = (.ok (), final)) :
    Standing.Handled ext setup.toSetup false .other program.standing final.standing program.effects
      final.effects := by
  unfold deliver at hrun
  by_cases hkind : message.kind = forwardingKind
  · simp only [if_pos hkind, Fallible.get_bind_run] at hrun
    cases hchannel : program.activeChannel with
    | none =>
        rw [hchannel] at hrun
        cases hrun
        exact .idle rfl
    | some channel =>
        cases hroute : program.activeRoute with
        | none =>
            simp only [hchannel, hroute] at hrun
            cases hrun
            exact .idle rfl
        | some route =>
            simp only [hchannel, hroute] at hrun
            by_cases hbound : bound ext setup message channel route = true
            · by_cases hwriter : setup.tunWriter = true
              · simp only [if_pos hbound, if_pos hwriter] at hrun
                exact absurd hrun writeToTun_ne_ok
              · simp only [if_pos hbound, if_neg hwriter] at hrun
                obtain ⟨result, middle, hreceive, hrest⟩ := Fallible.bind_eq_ok.mp hrun
                obtain ⟨hstanding, heffects⟩ := receiveOn_eq_ok hchannel hreceive
                have hfinal : final = middle := by
                  cases result with
                  | error reason =>
                      cases hrest
                      rfl
                  | ok received => exact conclude_eq_ok hrest
                rw [hfinal, heffects]
                exact .idle hstanding
            · simp only [if_neg hbound] at hrun
              cases hrun
              exact .idle rfl
  · simp only [if_neg hkind] at hrun
    cases hrun
    exact .idle rfl

theorem acknowledge_handled {envelope : DataPlaneEnvelope}
    (hrun : acknowledge ext envelope program = (.ok (), final)) :
    Standing.Handled ext setup.toSetup false .other program.standing final.standing program.effects
      final.effects := by
  unfold acknowledge at hrun
  by_cases hkind : envelope.kind = dataPlaneKind
  · simp only [if_pos hkind, Fallible.get_bind_run] at hrun
    cases hchannel : program.activeChannel with
    | none =>
        rw [hchannel] at hrun
        cases hrun
        exact .idle rfl
    | some channel =>
        simp only [hchannel] at hrun
        obtain ⟨result, middle, hreceive, hrest⟩ := Fallible.bind_eq_ok.mp hrun
        obtain ⟨hstanding, heffects⟩ := receiveOn_eq_ok hchannel hreceive
        have hfinal : final = middle := by
          cases result with
          | error reason =>
              cases hrest
              rfl
          | ok received =>
              simp only at hrest
              split at hrest
              · exact absurd hrest finish_ne_ok
              · cases hrest
                rfl
        rw [hfinal, heffects]
        exact .idle hstanding
  · simp only [if_neg hkind] at hrun
    cases hrun
    exact .idle rfl

theorem keeps_firstEnvelope (session : SecureSession) :
    Fallible.Keeps sessionOf (firstEnvelope ext setup inputs session) := by
  unfold firstEnvelope
  split
  · refine (keeps_open _).mapError.bind fun _ => Fallible.Keeps.bind .ofExcept fun packet => ?_
    cases packet with
    | none => exact .throw _
    | some packet =>
        refine Fallible.Keeps.bind .ofExcept fun mtu => Fallible.Keeps.bind ?_ fun _ => .pure _
        refine Fallible.Keeps.mapError (Fallible.Keeps.bind .ofExcept fun routed => ?_)
        dsimp only
        split
        · exact Fallible.Keeps.bind .ofExcept fun _ => .throw _
        · exact (keeps_send ext _ _).mapError.bind fun _ => Fallible.Keeps.get.bind fun _ => .pure _
  · exact (keeps_open _).mapError.bind fun _ => (keeps_send ext _ _).mapError.bind fun _ => .pure _

/-- A packet of a session is no init. -/
theorem requestPayload_ne_init {session : SecureSession} {envelope : DataPlaneEnvelope}
    {payload request : Bytes}
    (hrequest : requestPayload ext setup session envelope payload = .ok request)
    (init : HandshakeInit) : (init.toJson ext).render ≠ request := by
  unfold requestPayload at hrequest
  split at hrequest
  · obtain ⟨message, -, hrender⟩ := Check.bind_eq_ok.mp hrequest
    cases hrender
    exact init_ne_forwarding init message
  · cases hrequest
    exact init_ne_envelope init envelope

theorem openSession_eq_ok {session : SecureSession}
    (hrun : openSession ext setup inputs session program = (.ok (), final)) :
    final.candidates = program.candidates ∧ final.pendingSession = program.pendingSession ∧
      final.activeChannel.map sessionOf = some (.ofSession session) ∧
      ∃ request, final.effects = program.effects ++ [.request session.peerId request] ∧
        ∀ init : HandshakeInit, (init.toJson ext).render ≠ request := by
  obtain ⟨channel, _, hopens, hrest⟩ := Fallible.bind_eq_ok.mp hrun
  obtain ⟨hopen, rfl⟩ := orFail_eq_ok.mp hopens
  obtain ⟨⟨⟨envelope, payload⟩, used⟩, _, hlocally, hrest⟩ := Fallible.bind_eq_ok.mp hrest
  obtain ⟨henvelope, rfl⟩ := Fallible.locally_eq_ok.mp hlocally
  obtain ⟨request, _, hbuilds, hrest⟩ := Fallible.bind_eq_ok.mp hrest
  obtain ⟨hrequest, rfl⟩ := orFail_eq_ok.mp hbuilds
  obtain rfl := (Prod.mk.inj hrest).2
  refine ⟨rfl, rfl, ?_, request, rfl, requestPayload_ne_init hrequest⟩
  obtain ⟨-, rfl⟩ := EncryptedChannel.open_eq_ok.mp hopen
  have hused : sessionOf used = .ofSession session :=
    (keeps_firstEnvelope session).of_run henvelope
  exact congrArg some hused

theorem completeSession_handled {response : HandshakeResponse} (peer : PeerId)
    (hkind : response.kind = "secure_session_response")
    (hrun : completeSession ext setup inputs response program = (.ok (), final)) :
    Standing.Handled ext setup.toSetup false (.responded peer response) program.standing
      final.standing program.effects final.effects := by
  unfold completeSession at hrun
  simp only [if_pos hkind, Fallible.get_bind_run] at hrun
  cases hpending : program.pendingSession with
  | none =>
      simp only [hpending] at hrun
      cases hrun
      refine .silent ?_ rfl
      simp [Standing.after, Standing.gained, Standing.completes, standing, hpending]
  | some initiator =>
      simp only [hpending, Fallible.modify_bind_run] at hrun
      cases hcomplete : initiator.complete ext response with
      | error reason =>
          rw [hcomplete] at hrun
          cases hrun
          refine .silent ?_ rfl
          simp [Standing.after, Standing.gained, Standing.completes, standing, hpending, hcomplete,
            Except.toOption]
      | ok session =>
          rw [hcomplete] at hrun
          obtain ⟨hcandidates, hfree, hactive, request, heffects, hother⟩ := openSession_eq_ok hrun
          refine ⟨?_, [_], heffects, .none ?_⟩
          · simp [Standing.after, Standing.gained, Standing.completes,
              standing, hpending, hcomplete,
              Except.toOption, hcandidates, hfree, hactive]
          · intro source init hmem
            exact hother init (Effect.request.inj (List.mem_singleton.mp hmem)).2

theorem considerRelay_handled (peer : PeerId) (metadata : RelayMetadata) :
    ∃ next, considerRelay ext setup inputs metadata program = (.ok (), next) ∧
      Standing.Handled ext setup.toSetup false (.reported peer metadata inputs.toInputs)
        program.standing next.standing program.effects next.effects := by
  unfold considerRelay
  cases haccepted : RelayCandidate.fromMetadata setup.parseMultiaddr metadata setup.requirements
      inputs.checkedAt with
  | error reason =>
      exact ⟨program, rfl, .rejected (by rw [Standing.acceptedBy, haccepted]; rfl)⟩
  | ok candidate =>
      have hcandidate : Standing.acceptedBy setup.toSetup metadata inputs.toInputs =
          some candidate := by
        rw [Standing.acceptedBy, haccepted]
        rfl
      simp only [Fallible.modify_bind_run, Fallible.get_bind_run]
      cases hselected : RouteSelector.select ext (ext.peerOf setup.identity)
          (RelayRanking.rank ext (program.candidates ++ [candidate]) inputs.rankedAt)
          setup.routePolicy inputs.selectedAt with
      | error reason =>
          refine ⟨_, rfl, .listed hcandidate (.inl ?_)⟩
          simp only [Standing.selectedFrom, standing, hselected]
          rfl
      | ok route =>
          have hroute : Standing.selectedFrom ext setup.toSetup (program.candidates ++ [candidate])
              inputs.toInputs = some route := by
            simp only [Standing.selectedFrom, hselected]
            rfl
          simp only [startSession, Fallible.get_bind_run]
          by_cases hfree : program.pendingSession.isNone = true
          · have hnew := Standing.new_of_select inputs.toInputs hselected
            simp only [if_pos hfree, hnew]
            exact ⟨_, rfl, .begun hcandidate hroute (Option.isNone_iff_eq_none.mp hfree)⟩
          · simp only [if_neg hfree]
            exact ⟨_, rfl, .listed hcandidate (.inr (Bool.eq_false_iff.mpr hfree))⟩

/-- Every event that the program goes on after does what its turn does. -/
theorem handle_handled {event : NetworkEvent ResponseChannel RequestId}
    (hrun : handle ext setup inputs event program = (.ok (), final)) :
    Standing.Handled ext setup.toSetup false (turn ext (inputs, event)) program.standing
      final.standing program.effects final.effects := by
  cases event with
  | peerConnected peer =>
      obtain rfl := (Prod.mk.inj hrun).2
      refine .sends rfl fun _ init hsame => ?_
      exact init_ne_metadata init _ (Effect.request.inj hsame).2
  | peerDisconnected peer =>
      cases hrun
      refine .silent ?_ rfl
      simp [turn, Standing.after, Standing.gained, Standing.begins]
  | discoveryResponse peer requestId payload =>
      change handleResponse ext setup inputs payload program = _ at hrun
      unfold handleResponse at hrun
      change Standing.Handled ext setup.toSetup false
        (Response.turn peer inputs.toInputs (readResponse ext payload)) _ _ _ _
      generalize readResponse ext payload = read at hrun ⊢
      rcases read with (response | message | envelope | metadata | _) | ⟨⟨⟩⟩ | _
      · by_cases hkind : response.kind = "secure_session_response"
        · rw [Response.turn, if_pos hkind]
          exact completeSession_handled peer hkind hrun
        · change completeSession ext setup inputs response program = _ at hrun
          rw [completeSession, if_neg hkind] at hrun
          cases hrun
          rw [Response.turn, if_neg hkind]
          exact .idle rfl
      · exact deliver_handled hrun
      · exact acknowledge_handled hrun
      · obtain ⟨next, hnext, hhandled⟩ := considerRelay_handled peer metadata
        obtain rfl := (Prod.mk.inj (hnext.symm.trans hrun)).2
        exact hhandled
      · cases hrun
        exact .idle rfl
      · cases hrun
  | peerIdentified | pingResult | discoveryRequest | listening | networkError =>
      cases hrun
      exact .idle rfl

/-- A report is always considered. -/
theorem handle_reported (program : Program) {event : NetworkEvent ResponseChannel RequestId}
    {peer : PeerId} {metadata : RelayMetadata} {drawn : Client.Inputs}
    (hturn : turn ext (inputs, event) = .reported peer metadata drawn) :
    ∃ next, handle ext setup inputs event program = (.ok (), next) := by
  cases event with
  | discoveryResponse source requestId payload =>
      obtain ⟨hread, -, -⟩ := Response.turn_eq_reported.mp hturn
      obtain ⟨next, hnext, -⟩ := considerRelay_handled source metadata
      refine ⟨next, ?_⟩
      change handleResponse ext setup inputs payload program = _
      rw [handleResponse, hread]
      exact hnext
  | peerConnected | peerDisconnected | peerIdentified | pingResult | discoveryRequest
  | listening | networkError => cases hturn

/-- The loop of the program. It goes on with its session when a relay leaves. -/
def toLoop (ext : Externals) (setup : Setup) : Loop ext where
  setup := setup.toSetup
  drops := false
  State := Program
  Happening := Inputs × NetworkEvent ResponseChannel RequestId
  start := new
  handle happening := Fallible.endsIn (handle ext setup happening.1 happening.2)
  turn := turn ext
  standing := standing
  effects := effects
  Sound _ := True
  start_sound := trivial
  start_standing := rfl
  handle_sound _ _ := trivial
  follows _ hrun := (handle_handled (Fallible.endsIn_eq_some.mp hrun)).standing
  sends _ hrun := (handle_handled (Fallible.endsIn_eq_some.mp hrun)).sent
  considers _ hturn := by
    obtain ⟨next, hnext⟩ := handle_reported _ hturn
    exact ⟨next, Fallible.endsIn_eq_some.mpr hnext⟩

end Program

/-! ## Both loops -/

/-- A client as it was set up, in either of its loops. -/
inductive Binary where
  | tunnel (setup : Setup)
  | program (setup : Program.Setup)

def Binary.loop (ext : Externals) : Binary → Loop ext
  | .tunnel setup => Engine.toLoop ext setup
  | .program setup => Program.toLoop ext setup

end Client
