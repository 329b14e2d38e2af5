import GhostLayer.App.RelayAnswers
import GhostLayer.Client.Joining
import GhostLayer.Client.Loops

/-! # Connecting to a running backend

The app connects by asking its backend for its status until it is both ready and
healthy. What it is told over the whole run of each backend is settled here: the
tunnel loop of a client reports its channel, the client program reports what it
started with, and a relay never reports both at once.
-/

namespace App

open Foundation Network Relay BackendConnectionStatus RealLayerBackendBridge

variable {mapping : CaseMapping} {jsonDecode : Text → Option JsonValue} {resolvedBaseUrl : Text}

/-! ## Connecting -/

namespace RealLayerBackendBridge

inductive ConnectError where
  | alreadyInProgress
  | notReachable
  | timeout
  deriving DecidableEq

/-- What the bridge fetches while it connects. -/
structure Attempt where
  current : BackendConnectionStatus
  /-- The backend was reachable, or was started and then reachable. -/
  started : Bool
  /-- The statuses until the deadline. -/
  polled : List BackendConnectionStatus
  finalStatus : BackendConnectionStatus

def Attempt.statuses (attempt : Attempt) : List BackendConnectionStatus :=
  attempt.current :: attempt.polled ++ [attempt.finalStatus]

variable (mapping) in
def secured (status : BackendConnectionStatus) : Bool := status.ready && status.healthy mapping

variable (mapping) in
/-- `connecting` is set while another attempt goes on. -/
def connect (connecting : Bool) (attempt : Attempt) :
    Except ConnectError BackendConnectionStatus := do
  Check.failWhen (connecting = true) .alreadyInProgress
  if secured mapping attempt.current then return attempt.current
  Check.failWhen (attempt.started = false) .notReachable
  match attempt.polled.find? (secured mapping) with
  | some status => return status
  | none =>
      Check.failWhen (secured mapping attempt.finalStatus = false) .timeout
      return attempt.finalStatus

theorem connect_at_once {attempt : Attempt} (hcurrent : secured mapping attempt.current = true) :
    connect mapping false attempt = .ok attempt.current := by
  simp only [connect, hcurrent, if_true]
  rfl

/-- A backend that is connected to was ready and healthy when it was asked. -/
theorem connect_secured {connecting : Bool} {attempt : Attempt} {status : BackendConnectionStatus}
    (hconnect : connect mapping connecting attempt = .ok status) :
    connecting = false ∧ status ∈ attempt.statuses ∧ secured mapping status = true := by
  unfold connect at hconnect
  obtain ⟨_, hfree, hconnect⟩ := Check.bind_eq_ok.mp hconnect
  have hidle : connecting = false := Bool.not_eq_true _ ▸ Check.failWhen_eq_ok.mp hfree
  refine ⟨hidle, ?_⟩
  split_ifs at hconnect with hcurrent
  · obtain rfl := Except.ok.inj hconnect
    exact ⟨List.mem_cons_self, hcurrent⟩
  · obtain ⟨_, _, hconnect⟩ := Check.bind_eq_ok.mp hconnect
    cases hpolled : attempt.polled.find? (secured mapping) with
    | some found =>
        simp only [hpolled] at hconnect
        obtain rfl := Except.ok.inj hconnect
        have hmem := List.mem_of_find?_eq_some hpolled
        exact ⟨List.mem_cons_of_mem _ (List.mem_append_left _ hmem), List.find?_some hpolled⟩
    | none =>
        simp only [hpolled] at hconnect
        obtain ⟨_, hfinal, hconnect⟩ := Check.bind_eq_ok.mp hconnect
        obtain rfl := Except.ok.inj hconnect
        refine ⟨List.mem_cons_of_mem _ (List.mem_append_right _ (List.mem_singleton_self _)), ?_⟩
        exact Bool.not_eq_false _ ▸ Check.failWhen_eq_ok.mp hfinal

end RealLayerBackendBridge

/-! ## The tunnel loop of a client -/

section Tunnel

variable (ext : Externals) (routeText : RouteBinding → Text)

/-- The session that a response completes, if a channel can be opened for it. -/
def completed (response : HandshakeResponse) (engine : Client.Engine) : Option SecureSession := do
  if response.kind ≠ "secure_session_response" then none
  let initiator ← engine.pendingSession
  let session ← (initiator.complete ext response).toOption
  let _ ← (EncryptedChannel.open session channelProtocolVersion 4096 8).toOption
  return session

/-- What the loop writes to the record that its health endpoint serves. -/
def report (event : Client.Engine.LoopEvent) (engine : Client.Engine) (state : ClientState) :
    ClientState :=
  match event with
  | .network (.discoveryResponse _ _ payload) =>
      match (ext.fromSlice (HandshakeResponse.fromJson ext) payload).bind
          (completed ext · engine) with
      | some session => state.opened (routeText session.route)
      | none => state
  | .network (.peerDisconnected peerId) => if engine.endsWith peerId then state.lost else state
  | .network _ | .tun _ => state

/-- A client and the record that its health endpoint serves. -/
structure ReportingClient where
  engine : Client.Engine
  state : ClientState

def reportingClient (setup : Client.Setup) : System ReportingClient where
  init client := client = ⟨.new, .default⟩
  step client next := ∃ inputs event,
    Client.Engine.handle ext setup inputs event client.engine = (.ok (), next.engine) ∧
      next.state = report ext routeText event client.engine client.state

end Tunnel

section TunnelLaws

variable {ext : Externals} {routeText : RouteBinding → Text} {setup : Client.Setup}
  {inputs : Client.Inputs} {engine final : Client.Engine}

theorem completeSession_active {response : HandshakeResponse}
    (hrun : Client.Engine.completeSession ext response engine = (.ok (), final)) :
    final.activeChannel.isSome =
      ((completed ext response engine).isSome || engine.activeChannel.isSome) := by
  unfold Client.Engine.completeSession at hrun
  unfold completed
  by_cases hkind : response.kind = "secure_session_response"
  swap
  · rw [if_neg hkind] at hrun
    cases hrun
    simp [hkind]
  rw [if_pos hkind, Fallible.get_bind_run] at hrun
  cases hpending : engine.pendingSession with
  | none =>
      simp only [hpending] at hrun
      cases hrun
      simp [hkind]
  | some initiator =>
      simp only [hpending, Fallible.modify_bind_run] at hrun
      cases hcomplete : initiator.complete ext response with
      | error reason =>
          simp only [hcomplete] at hrun
          cases hrun
          simp [hkind, hcomplete, Except.toOption]
      | ok session =>
          simp only [hcomplete, Fallible.modify_bind_run] at hrun
          cases hopen : EncryptedChannel.open session channelProtocolVersion 4096 8 with
          | error reason =>
              simp only [hopen] at hrun
              cases hrun
              simp [hkind, hcomplete, hopen, Except.toOption]
          | ok channel =>
              simp only [hopen] at hrun
              cases hrun
              simp [hkind, hcomplete, hopen, Except.toOption]

/-- Besides a handshake that completes, nothing that comes in opens or closes a channel. -/
theorem response_active {peerId : PeerId} {requestId : RequestId} {payload : Bytes}
    (hundecoded : ext.fromSlice (HandshakeResponse.fromJson ext) payload = none)
    (hstep : Client.Engine.Step ext setup inputs engine
      (.network (.discoveryResponse peerId requestId payload)) final) :
    final.activeChannel.isSome = engine.activeChannel.isSome := by
  cases hstep with
  | failed _ _ _ response initiator reason decoded => cases hundecoded.symm.trans decoded
  | established _ _ _ response initiator session decoded => cases hundecoded.symm.trans decoded
  | idle | considered | begun => rfl
  | received _ _ _ message channel next decoded active => rw [active]; rfl
  | delivered _ _ _ message channel next opening decoded active => rw [active]; rfl

theorem tun_active {packet : Bytes}
    (hstep : Client.Engine.Step ext setup inputs engine (.tun packet) final) :
    final.activeChannel.isSome = engine.activeChannel.isSome := by
  cases hstep with
  | idle => rfl
  | unsent _ channel next item shown active => rw [active]; rfl
  | sent _ channel next route exit sessionId item frame shown active => rw [active]; rfl

/-- The record tells whether there is a channel. -/
theorem report_ready {event : Client.Engine.LoopEvent} {state : ClientState}
    (hrun : Client.Engine.handle ext setup inputs event engine = (.ok (), final))
    (hready : state.ready = engine.activeChannel.isSome) :
    (report ext routeText event engine state).ready = final.activeChannel.isSome := by
  have hstep := Client.Engine.handle_step hrun
  cases event with
  | tun packet => exact hready.trans (tun_active hstep).symm
  | network event =>
      cases event with
      | discoveryResponse peerId requestId payload =>
          cases hdecoded : ext.fromSlice (HandshakeResponse.fromJson ext) payload with
          | none =>
              rw [report, hdecoded]
              exact hready.trans (response_active hdecoded hstep).symm
          | some response =>
              change Client.Engine.handleResponse ext setup inputs payload engine = _ at hrun
              rw [Client.Engine.handleResponse, hdecoded] at hrun
              rw [report, hdecoded, completeSession_active hrun, Option.bind_some]
              cases completed ext response engine with
              | none => exact hready
              | some session => rfl
      | peerDisconnected peerId =>
          obtain rfl := (Prod.mk.inj hrun).2
          by_cases hends : engine.endsWith peerId = true
          · simp only [report, if_pos hends]
            rfl
          · simp only [report, if_neg hends]
            exact hready
      | peerConnected | peerIdentified | pingResult | discoveryRequest | listening
      | networkError =>
          cases hrun
          exact hready

variable (ext routeText) in
theorem report_cases (event : Client.Engine.LoopEvent) (engine : Client.Engine)
    (state : ClientState) :
    report ext routeText event engine state = state ∨
      (∃ route, report ext routeText event engine state = state.opened (routeText route)) ∨
      report ext routeText event engine state = state.lost := by
  unfold report
  split
  · split
    · exact .inr (.inl ⟨_, rfl⟩)
    · exact .inl rfl
  · split_ifs
    · exact .inr (.inr rfl)
    · exact .inl rfl
  all_goals exact .inl rfl

/-- What a client reports is what a client in the abstract can report. -/
theorem engine_of_reporting {client : ReportingClient}
    (hreach : (reportingClient ext routeText setup).Reachable client) :
    ClientState.engine.Reachable client.state := by
  refine hreach.view ReportingClient.state ?_ ?_
  · rintro client rfl
    rfl
  · rintro before after - ⟨inputs, event, -, hreport⟩
    rw [hreport]
    rcases report_cases ext routeText event before.engine before.state with
      hsame | ⟨route, hopened⟩ | hlost
    · exact .inl hsame
    · exact .inr (.inl ⟨_, hopened⟩)
    · exact .inr (.inr hlost)

theorem ready_of_reporting {client : ReportingClient}
    (hreach : (reportingClient ext routeText setup).Reachable client) :
    client.state.ready = client.engine.activeChannel.isSome := by
  refine hreach.invariant
    (fun client => client.state.ready = client.engine.activeChannel.isSome) ?_ ?_
  · rintro client rfl
    rfl
  · rintro before after - hready ⟨inputs, event, hrun, hreport⟩
    rw [hreport]
    exact report_ready hrun hready

/-- A client that says that it is healthy is ready too. -/
theorem secured_client {state : ClientState} {get : Text → Option Text}
    (hreach : ClientState.engine.Reachable state)
    (hserves : ∀ endpoint ∈ endpoints resolvedBaseUrl,
      Serves jsonDecode get endpoint state.toJson) :
    secured mapping (fetchStatus mapping jsonDecode resolvedBaseUrl get) = state.ready := by
  rcases ClientState.shapes hreach with rfl | ⟨route, rfl⟩
  · obtain ⟨-, hready, -⟩ := ClientState.fetched (by decide) hserves
    rw [secured, hready]
    rfl
  · have hhealth : ascii "healthy" ≠ ascii "unavailable" := by decide
    obtain ⟨hfetched, hready, -⟩ := @ClientState.fetched mapping _ _ _ _ hhealth hserves
    obtain ⟨-, hown, -⟩ := fromJson_fields hfetched
    have hshown := hown (ascii "healthy") rfl
    rw [secured, hready, healthy, hshown, mapping.onAscii _ (by decide)]
    have hsame : (ascii "healthy").map lowerUnit = ascii "healthy" := by decide
    rw [hsame, beq_self_eq_true, Bool.and_true]

/-- A client is ready and healthy for the bridge exactly while it has a channel. -/
theorem secured_tunnel {client : ReportingClient} {get : Text → Option Text}
    (hreach : (reportingClient ext routeText setup).Reachable client)
    (hserves : ∀ endpoint ∈ endpoints resolvedBaseUrl,
      Serves jsonDecode get endpoint client.state.toJson) :
    secured mapping (fetchStatus mapping jsonDecode resolvedBaseUrl get) =
      client.engine.activeChannel.isSome := by
  rw [secured_client (engine_of_reporting hreach) hserves, ready_of_reporting hreach]

/-- The app shows a client as connected exactly while its tunnel loop has a channel, and then it is
ready and healthy for the bridge. -/
theorem tunnel_shown {client : ReportingClient} {get : Text → Option Text}
    (hreach : (reportingClient ext routeText setup).Reachable client)
    (hserves : ∀ endpoint ∈ endpoints resolvedBaseUrl,
      Serves jsonDecode get endpoint client.state.toJson) :
    ((fetchStatus mapping jsonDecode resolvedBaseUrl get).uiState mapping = .connected ↔
      client.engine.activeChannel.isSome = true) ∧
    (secured mapping (fetchStatus mapping jsonDecode resolvedBaseUrl get) = true ↔
      client.engine.activeChannel.isSome = true) := by
  rw [ClientState.shown_iff (engine_of_reporting hreach) hserves, secured_tunnel hreach hserves,
    ready_of_reporting hreach]
  exact ⟨Iff.rfl, Iff.rfl⟩

variable (routeText) in
/-- Every run of the loop is one of a client that reports. -/
theorem reporting_of_loop (hreach : (Client.Engine.loop ext setup).Reachable engine) :
    ∃ state, (reportingClient ext routeText setup).Reachable ⟨engine, state⟩ := by
  refine hreach.invariant
    (fun engine => ∃ state, (reportingClient ext routeText setup).Reachable ⟨engine, state⟩) ?_ ?_
  · rintro engine rfl
    exact ⟨.default, .of_init rfl⟩
  · rintro before after - ⟨state, hbefore⟩ ⟨inputs, event, hrun⟩
    exact ⟨_, hbefore.tail ⟨inputs, event, hrun, rfl⟩⟩

end TunnelLaws

/-! ## The client program -/

/-- The client program never writes to the record that its health endpoint serves. -/
structure ReportingProgram where
  program : Client.Program
  state : ClientState

def reportingProgram (ext : Externals) (setup : Client.Program.Setup) :
    System ReportingProgram where
  init client := client = ⟨.new, .default⟩
  step client next := ∃ inputs event,
    Client.Program.handle ext setup inputs event client.program = (.ok (), next.program) ∧
      next.state = client.state

theorem default_of_reporting {ext : Externals} {setup : Client.Program.Setup}
    {client : ReportingProgram} (hreach : (reportingProgram ext setup).Reachable client) :
    client.state = .default := by
  refine hreach.invariant (fun client => client.state = .default) ?_ ?_
  · rintro client rfl
    rfl
  · rintro before after - hbefore ⟨inputs, event, -, hsame⟩
    exact hsame.trans hbefore

/-! ## Relays -/

section RelayLaws

variable {ext : Externals} {setup : Relay.Setup ext} {service : Service}
  {get : Text → Option Text}

/-- The health of a relay does not say that it is ready. -/
theorem relay_unsecured {signals : HealthSignals}
    (hanswered : HealthSignals.Answered jsonDecode get resolvedBaseUrl signals) :
    secured mapping (fetchStatus mapping jsonDecode resolvedBaseUrl get) = false := by
  obtain ⟨hready, -, -⟩ := fromJson_fields (@HealthSignals.fetched mapping _ _ _ _ hanswered)
  rw [secured, hready, show field (signals.body "/health") "ready" = .null from rfl]
  rfl

/-- The app shows a relay as connected exactly while it signals that it is healthy, which it does
only while it reports itself online or degraded. Its other signal is up exactly while its policy
takes on peers and sessions. -/
theorem relay_shown (hreach : (Service.run ext setup).Reachable service)
    (hanswered : HealthSignals.Answered jsonDecode get resolvedBaseUrl (signalsOf service)) :
    ((fetchStatus mapping jsonDecode resolvedBaseUrl get).uiState mapping = .connected ↔
      service.signals.healthy = true) ∧
    (service.signals.healthy = true →
      service.node.state.status = .online ∨ service.node.state.status = .degraded) ∧
    (service.signals.ready = true ↔ service.node.core.TakesOn) := by
  have hsignals := Service.signals_of_reachable hreach
  refine ⟨(HealthSignals.shown_iff hanswered).2, hsignals.healthy, ?_⟩
  rw [hsignals.ready, RelayCore.TakesOn]
  rcases Node.lifecycle_of_reachable (Service.loop_of_run hreach) with hstarting | hready
  · rw [hstarting]
    decide
  · rw [hready]
    decide

end RelayLaws

/-! ## Connecting to any of them -/

section Connecting

variable (mapping jsonDecode resolvedBaseUrl) (ext : Externals) (routeText : RouteBinding → Text)
  (clientSetup : Client.Setup) (programSetup : Client.Program.Setup) (relaySetup : Relay.Setup ext)

/-- A status that was fetched from a backend in some state of one of its runs. -/
inductive Told : BackendConnectionStatus → Prop
  | tunnel (client : ReportingClient) (get : Text → Option Text)
      (reach : (reportingClient ext routeText clientSetup).Reachable client)
      (serves : ∀ endpoint ∈ endpoints resolvedBaseUrl,
        Serves jsonDecode get endpoint client.state.toJson) :
      Told (fetchStatus mapping jsonDecode resolvedBaseUrl get)
  | program (client : ReportingProgram) (get : Text → Option Text)
      (reach : (reportingProgram ext programSetup).Reachable client)
      (serves : ∀ endpoint ∈ endpoints resolvedBaseUrl,
        Serves jsonDecode get endpoint client.state.toJson) :
      Told (fetchStatus mapping jsonDecode resolvedBaseUrl get)
  | relay (service : Service) (get : Text → Option Text)
      (reach : (Service.run ext relaySetup).Reachable service)
      (answered : HealthSignals.Answered jsonDecode get resolvedBaseUrl (signalsOf service)) :
      Told (fetchStatus mapping jsonDecode resolvedBaseUrl get)

variable {mapping jsonDecode resolvedBaseUrl ext routeText clientSetup programSetup relaySetup}

end Connecting

/-! ## Backends that are running -/

section Running

/-- The pages of an endpoint. -/
def getPage (pages : List (Text × Text)) (endpoint : Text) : Option Text := pages.lookup endpoint

/-- A decoder of the texts that were written for some payloads. -/
def decodePage (texts : List (Text × JsonMap)) (text : Text) : Option JsonValue :=
  (texts.lookup text).map .map

def localBaseUrl : Text := ascii "http://127.0.0.1:8082"

/-- The bodies that a relay answers with. -/
def relayPages (signals : Relay.HealthSignals) : List (Text × Text) :=
  ["/health", "/ready", "/live"].map fun path => (localBaseUrl ++ ascii path, pageOf signals path)

theorem relayPages_fetched (signals : Relay.HealthSignals) :
    Fetches (getPage (relayPages signals)) localBaseUrl signals := by
  refine fetches_pages fun path hpath => ?_
  simp only [List.mem_cons, List.not_mem_nil, or_false] at hpath
  rcases hpath with rfl | rfl | rfl <;> rfl

open ReferenceRelay in
/-- A relay that listens is shown as connected. -/
theorem relay_shown_ready : ∃ service get jsonDecode,
    (Service.run reference (ReferenceRelay.setup .exit (bounds 8 8 8))).Reachable service ∧
      (fetchStatus .asciiOnly jsonDecode localBaseUrl get).uiState .asciiOnly = .connected := by
  have hstarted : (Service.run reference (ReferenceRelay.setup .exit (bounds 8 8 8))).Reachable
      ⟨started .exit (bounds 8 8 8), .new⟩ := .of_init ⟨isStarted _ _, rfl⟩
  have hready : (Service.run reference (ReferenceRelay.setup .exit (bounds 8 8 8))).Reachable
      ⟨ready .exit (bounds 8 8 8), ⟨true, true, true⟩⟩ := hstarted.tail
    ⟨ReferenceRelay.inputs 0, .network (.listening ""), Service.handle_eq_ok.mpr ⟨rfl, rfl⟩⟩
  have hanswered := answered_of_fetches hready referenceDecode_reads (relayPages_fetched _)
  exact ⟨_, _, _, hready, (relay_shown hready hanswered).1.mpr rfl⟩

def oneHopText (_ : RouteBinding) : Text := ascii "OneHop"

def connectedClient : ClientState := ClientState.default.opened (ascii "OneHop")

def clientText : Text :=
  textOf (Json.obj [("alive", .bool true), ("ready", .bool true), ("health", .str "healthy"),
    ("status", .str "online"), ("route", .str "OneHop")]).render

theorem client_served : ∀ endpoint ∈ endpoints localBaseUrl,
    Serves (decodePage [(clientText, connectedClient.toJson)])
      (getPage ((endpoints localBaseUrl).map fun endpoint => (endpoint, clientText))) endpoint
      connectedClient.toJson := by
  intro endpoint hendpoint
  simp only [endpoints, List.map_cons, List.map_nil, List.mem_cons, List.not_mem_nil,
    or_false] at hendpoint
  rcases hendpoint with rfl | rfl | rfl <;> rfl

/-- Every route is told by the same text here. -/
theorem state_of_reporting {client : ReportingClient} {ext : Externals} {setup : Client.Setup}
    (hreach : (reportingClient ext oneHopText setup).Reachable client)
    (hchannel : client.engine.activeChannel.isSome = true) : client.state = connectedClient := by
  have hstates : client.state = .default ∨ client.state = connectedClient := by
    refine hreach.invariant
      (fun client => client.state = .default ∨ client.state = connectedClient) ?_ ?_
    · rintro client rfl
      exact .inl rfl
    · rintro before after - hbefore ⟨inputs, event, -, hreport⟩
      rw [hreport]
      rcases report_cases ext oneHopText event before.engine before.state with
        hsame | ⟨route, hopened⟩ | hlost
      · rwa [hsame]
      · rw [hopened]
        rcases hbefore with hbefore | hbefore <;> exact .inr (by rw [hbefore]; rfl)
      · rw [hlost]
        rcases hbefore with hbefore | hbefore <;> exact .inl (by rw [hbefore]; rfl)
  have hready := ready_of_reporting hreach
  rcases hstates with hdefault | hconnected
  · rw [hdefault, hchannel] at hready
    cases hready
  · exact hconnected

/-- A client that has joined a relay. -/
theorem joined : ∃ client, (reportingClient reference oneHopText
    (Client.ReferenceClient.setup .oneHop)).Reachable client ∧
      client.engine.activeChannel.isSome = true ∧ client.state = connectedClient := by
  obtain ⟨engine, hreach, -⟩ := Client.ReferenceClient.joins .oneHop
  obtain ⟨state, hreporting⟩ := reporting_of_loop oneHopText hreach
  exact ⟨_, hreporting, rfl, state_of_reporting hreporting rfl⟩

theorem tunnel_shown_joined : ∃ client get jsonDecode, (reportingClient reference oneHopText
    (Client.ReferenceClient.setup .oneHop)).Reachable client ∧
      (fetchStatus .asciiOnly jsonDecode localBaseUrl get).uiState .asciiOnly = .connected := by
  obtain ⟨client, hreach, hchannel, hstate⟩ := joined
  exact ⟨client, _, _, hreach, (tunnel_shown hreach (hstate ▸ client_served)).1.mpr hchannel⟩

def programSetup : Client.Program.Setup where
  toSetup := Client.ReferenceClient.setup .oneHop
  tun := ⟨true, "ghost0", 1500, 1500, 65536, 65536⟩
  udpEnabled := false
  dnsEnabled := false
  externalTestDestination := none
  allowedExitDestinations := []
  dnsServer := none

end Running

end App
