import GhostLayer.Relay.Joining

/-! # What a client is told

A client whose route starts at this relay gets its response when the handshake
with the exit of the route is done, and from then on there is a path for its
payloads. A relay that plays the role of an exit only does not start such a
handshake and answers at once.
-/

namespace Relay

open Foundation Network

variable {ext : Externals}

/-! ## Handshake responses among what a relay sends -/

/-- A handshake response is among what was sent. -/
def Told (ext : Externals) (effects : List Effect) (response : HandshakeResponse) : Prop :=
  ∃ channel, Effect.respond channel (response.toJson ext).render ∈ effects

namespace Told

variable {effects : List Effect} {response : HandshakeResponse} {channel : ResponseChannel}

theorem append_respond {bytes : Bytes}
    (htold : Told ext (effects ++ [.respond channel bytes]) response) :
    Told ext effects response ∨ bytes = (response.toJson ext).render := by
  obtain ⟨channel', hmem⟩ := htold
  rcases List.mem_append.mp hmem with hold | hnew
  · exact .inl ⟨channel', hold⟩
  · have hsame := List.mem_singleton.mp hnew
    exact .inr (Effect.respond.inj hsame).2.symm

/-- What is no response tells nothing. -/
theorem append_other {effect : Effect} (htold : Told ext (effects ++ [effect]) response)
    (hother : ∀ channel bytes, effect ≠ .respond channel bytes) : Told ext effects response := by
  obtain ⟨channel', hmem⟩ := htold
  rcases List.mem_append.mp hmem with hold | hnew
  · exact ⟨channel', hold⟩
  · exact absurd (List.mem_singleton.mp hnew).symm (hother _ _)

theorem append_forwarding {message : ForwardingMessage}
    (htold : Told ext (effects ++ [.respond channel (message.toJson ext).render]) response) :
    Told ext effects response := by
  refine htold.append_respond.resolve_right fun hsame => ?_
  have hjson := Json.render_injective hsame
  simp [ForwardingMessage.toJson, HandshakeResponse.toJson, ForwardingMessage.fieldNames,
    HandshakeResponse.fieldNames] at hjson

theorem append_envelope {envelope : DataPlaneEnvelope}
    (htold : Told ext (effects ++ [.respond channel envelope.toJson.render]) response) :
    Told ext effects response := by
  refine htold.append_respond.resolve_right fun hsame => ?_
  have hjson := Json.render_injective hsame
  simp [DataPlaneEnvelope.toJson, HandshakeResponse.toJson, DataPlaneEnvelope.fieldNames,
    HandshakeResponse.fieldNames] at hjson

theorem append_metadata {metadata : RelayMetadata} {json : Json}
    (hencoded : metadata.toJson ext = some json)
    (htold : Told ext (effects ++ [.respond channel json.render]) response) :
    Told ext effects response := by
  refine htold.append_respond.resolve_right fun hsame => ?_
  obtain rfl := Json.render_injective hsame
  cases hheartbeat : metadata.lastHeartbeat <;>
    simp [RelayMetadata.toJson, HandshakeResponse.toJson, RelayMetadata.fieldNames,
      HandshakeResponse.fieldNames, Option.bind_eq_some_iff, hheartbeat] at hencoded

theorem append_handshake {sent : HandshakeResponse} (hreads : ext.ReadsIdentities)
    (htold : Told ext (effects ++ [.respond channel (sent.toJson ext).render]) response) :
    Told ext effects response ∨ sent = response := by
  refine htold.append_respond.imp_right fun hsame => ?_
  have hjson := congrArg (HandshakeResponse.fromJson ext) (Json.render_injective hsame)
  rw [HandshakeResponse.fromJson_toJson hreads, HandshakeResponse.fromJson_toJson hreads] at hjson
  exact Option.some.inj hjson

end Told

/-! ## Paths -/

/-- A client is forwarded over a relay session that was completed with the exit of its context. -/
structure Carried (completed : List SecureSession) (forwarding : ClientForwarding) : Prop where
  state : forwarding.context.state = .established ∨ forwarding.context.state = .forwarding
  bound : forwarding.context.relaySessionId = some forwarding.relaySessionId
  path : ∃ session ∈ completed, session.sessionId = forwarding.relaySessionId ∧
    session.peerId = forwarding.context.exitPeer ∧ session.state = .established

theorem Carried.begun {completed : List SecureSession} {forwarding : ClientForwarding}
    (hcarried : Carried completed forwarding) (requestId : SessionId)
    (direction : ForwardingDirection) :
    Carried completed { forwarding with context := forwarding.context.begun requestId direction } :=
  ⟨.inr rfl, hcarried.bound, hcarried.path⟩

theorem Carried.mono {completed added : List SecureSession} {forwarding : ClientForwarding}
    (hcarried : Carried completed forwarding) : Carried (completed ++ added) forwarding := by
  obtain ⟨session, hmem, hpath⟩ := hcarried.path
  exact ⟨hcarried.state, hcarried.bound, session, List.mem_append_left _ hmem, hpath⟩

/-- Entries keep their routes. -/
def KeepsRoutes (before after : AList (fun _ : SessionId => ClientForwarding)) : Prop :=
  ∀ sessionId forwarding, before.lookup sessionId = some forwarding →
    ∃ kept, after.lookup sessionId = some kept ∧ kept.context.route = forwarding.context.route

theorem KeepsRoutes.refl (table : AList (fun _ : SessionId => ClientForwarding)) :
    KeepsRoutes table table := fun _ forwarding hfound => ⟨forwarding, hfound, rfl⟩

theorem KeepsRoutes.insert {table : AList (fun _ : SessionId => ClientForwarding)}
    {sessionId : SessionId} {changed : ClientForwarding}
    (hsame : ∀ forwarding, table.lookup sessionId = some forwarding →
      changed.context.route = forwarding.context.route) :
    KeepsRoutes table (table.insert sessionId changed) := by
  intro other forwarding hfound
  by_cases hother : other = sessionId
  · subst hother
    exact ⟨changed, AList.lookup_insert _, hsame forwarding hfound⟩
  · exact ⟨forwarding, by rwa [AList.lookup_insert_ne hother], rfl⟩

namespace Node

variable {node final : Node} {setup : Setup ext} {inputs : Inputs} {payload : Bytes}
  {peerId : PeerId} {channel : ResponseChannel} {event : LoopEvent}
  {completed : List SecureSession}

/-- The relay session that an event completes. -/
def completes (ext : Externals) (event : LoopEvent) (node : Node) : Option SecureSession :=
  match event with
  | .network (.discoveryResponse peerId _ payload) => do
      let response ← ext.fromSlice (HandshakeResponse.fromJson ext) payload
      let pending ← node.pendingRelayHandshakes.lookup response.sessionId
      if pending.route.peers.getLast? = some peerId then
        (pending.initiator.complete ext response).toOption
      else none
  | .network _ | .tun _ | .heartbeat => none

/-- The handshake that an event brings names this relay as the entry of its route. -/
def NamesEntry (ext : Externals) (setup : Setup ext) (event : LoopEvent) : Prop :=
  ∃ peerId payload channel init exit exitAddress,
    event = .network (.discoveryRequest peerId payload channel) ∧
    readRequest ext payload = .handshake init ∧
    init.routeContext = .twoHop setup.peerId exit exitAddress

/-- The relay plays the role that an event asks for. -/
def PlaysRole (ext : Externals) (setup : Setup ext) (event : LoopEvent) : Prop :=
  setup.config.relayRole ≠ .exit ∨ ¬ NamesEntry ext setup event

/-- Whoever was told that a session over this relay stands is forwarded. -/
structure Serves (setup : Setup ext) (completed : List SecureSession) (node : Node) : Prop where
  carried : EveryEntry (fun _ => Carried completed) node.clientForwarding
  awaited : EveryEntry
    (fun _ pending => pending.clientResponse.sessionId = pending.clientSessionId ∧
    pending.clientResponse.routeContext = pending.route) node.pendingRelayHandshakes
  told : ∀ response exit exitAddress, Told ext node.effects response →
    response.routeContext = .twoHop setup.peerId exit exitAddress →
    ∃ forwarding, node.clientForwarding.lookup response.sessionId = some forwarding ∧
      forwarding.context.route = response.routeContext

/-- Nothing new is told, and the entries keep their routes. -/
theorem Serves.silent (hserves : Serves setup completed node)
    (hcarried : EveryEntry (fun _ => Carried completed) final.clientForwarding)
    (hpending : final.pendingRelayHandshakes = node.pendingRelayHandshakes)
    (hroutes : KeepsRoutes node.clientForwarding final.clientForwarding)
    (heffects : ∀ response, Told ext final.effects response → Told ext node.effects response) :
    Serves setup completed final := by
  refine ⟨hcarried, hpending ▸ hserves.awaited, fun response exit exitAddress htold hroute => ?_⟩
  obtain ⟨forwarding, hfound, hsame⟩ := hserves.told response exit exitAddress
    (heffects response htold) hroute
  obtain ⟨kept, hkept, hkeeps⟩ := hroutes _ _ hfound
  exact ⟨kept, hkept, hkeeps.trans hsame⟩

/-- A payload of a client went to the exit. -/
theorem Serves.relayed {middle : Node} {sessionId : SessionId} {forwarding : ClientForwarding}
    {sealed : EncryptedChannel} {message : ForwardingMessage}
      (hserves : Serves setup completed node)
    (hclients : middle.clientForwarding = node.clientForwarding)
    (hpending : middle.pendingRelayHandshakes = node.pendingRelayHandshakes)
    (heffects : middle.effects = node.effects)
    (hfound : node.clientForwarding.lookup sessionId = some forwarding) :
    Serves setup completed (Node.relayed ext inputs middle sessionId forwarding sealed message
      channel) := by
  refine hserves.silent ?_ hpending ?_ ?_
  · simp only [Node.relayed, hclients]
    exact hserves.carried.insert ((hserves.carried _ _ hfound).begun _ _)
  · simp only [Node.relayed, hclients]
    refine .insert fun found hsame => ?_
    obtain rfl := Option.some.inj (hfound.symm.trans hsame)
    rfl
  · intro response htold
    simp only [Node.relayed, heffects] at htold
    exact htold.append_other (by simp)

/-- An accepted handshake is answered with its own session and route. -/
theorem response_of_accepted {init : HandshakeInit} {response : HandshakeResponse}
    {session : SecureSession} {responder : SessionResponder}
    (haccepts : SessionResponder.acceptInit ext init peerId setup.config.protocolVersion
      inputs.secret node.sessionResponder = (.ok (response, session), responder)) :
    response.sessionId = init.sessionId ∧ response.routeContext = init.routeContext := by
  obtain ⟨_, _, _, _, rfl, _, _⟩ := SessionResponder.acceptInit_eq_ok.mp haccepts
  exact ⟨rfl, rfl⟩

theorem Serves.request (hserves : Serves setup completed node) (hreads : ext.ReadsIdentities)
    (hplays : PlaysRole ext setup (.network (.discoveryRequest peerId payload channel)))
    (hstep : RequestStep ext setup inputs payload peerId channel node final) :
    Serves setup completed final := by
  cases hstep with
  | ignored | rejected | refused | received => exact { hserves with }
  | accepted init response session responder decoded kind accepts takes other =>
      obtain ⟨_, hroute⟩ := response_of_accepted accepts
      refine { hserves with told := fun told exit exitAddress htold htwo => ?_ }
      rcases htold.append_handshake hreads with hold | rfl
      · exact hserves.told told exit exitAddress hold htwo
      · rw [hroute] at htwo
        -- A two-hop handshake that was answered here was not for an entry, so it names this relay.
        rcases hplays with hrole | hnames
        · simp [isEntry, htwo, hrole] at other
        · exact absurd ⟨peerId, payload, channel, init, exit, exitAddress,
            rfl, decoded, htwo⟩ hnames
  | started init response session responder exit exitAddress decoded kind accepts takes route =>
      obtain ⟨hsession, hroute⟩ := response_of_accepted accepts
      exact ⟨hserves.carried, hserves.awaited.insert ⟨hsession, hroute⟩,
        fun told exit exitAddress htold htwo => hserves.told told exit exitAddress
          (htold.append_other (by simp)) htwo⟩
  | metadata request json decoded encoded =>
      exact hserves.silent hserves.carried rfl (.refl _) fun _ htold =>
        htold.append_metadata encoded
  | forwarded message forwarding packet opening opened frame sealed decoded found =>
      exact hserves.relayed rfl rfl rfl found
  | forwardedBare envelope forwarding message opened frame sealed destination decoded found =>
      exact hserves.relayed rfl rfl rfl found
  | acknowledged envelope current message opened frame sealed decoded found receives sends =>
      exact hserves.silent hserves.carried rfl (.refl _) fun _ htold => htold.append_envelope
  | exited message clientPeer context packet opening opened answer next _ decoded reaches exchanges
      answers =>
      obtain ⟨exitHandler, udpNat, contacted, effects, rfl, _, _, heffects⟩ := exchange_ok exchanges
      -- A dispatch tells no client anything.
      have hsilent : ∀ response, Told ext effects response → Told ext node.effects response := by
        intro response htold
        rcases heffects with rfl | rfl
        · exact htold
        · exact htold.append_other (by simp [dispatchOf])
      cases answer with
      | none =>
          obtain rfl := answers
          exact hserves.silent hserves.carried rfl (.refl _) hsilent
      | some response =>
          obtain ⟨_, _, _, _, rfl⟩ := answers
          exact hserves.silent hserves.carried rfl (.refl _) fun response htold =>
            hsilent response htold.append_forwarding

theorem Serves.mono (hserves : Serves setup completed node) (added : List SecureSession) :
    Serves setup (completed ++ added) node :=
  { hserves with carried := hserves.carried.imp fun _ _ _ hcarried => hcarried.mono }

/-- The handshake with an exit was completed, and its client is answered. -/
theorem Serves.established {response : HandshakeResponse} {pending : PendingRelayHandshake}
    {session : SecureSession} {entry exit : PeerId} {exitAddress : String}
    (hserves : Serves setup completed node) (hsound : Sound setup node)
    (hreads : ext.ReadsIdentities)
    (hfound : node.pendingRelayHandshakes.lookup response.sessionId = some pending)
    (hcompletes : pending.initiator.complete ext response = .ok session)
    (hroute : pending.route = .twoHop entry exit exitAddress) (hmem : session ∈ completed) :
    Serves setup completed { node.established inputs pending session entry exit with
      pendingRelayHandshakes := node.pendingRelayHandshakes.erase response.sessionId
      effects := node.effects ++ handshakeAnswer ext pending } := by
  have hawaits := hsound.pending _ _ hfound
  obtain ⟨hclient, hanswer⟩ := hserves.awaited _ _ hfound
  obtain ⟨exit', exitAddress', hroute', hpeer, _⟩ := hawaits.route
  obtain ⟨rfl, rfl, rfl⟩ := RouteBinding.twoHop.inj (hroute.symm.trans hroute')
  obtain ⟨_, _, _, rfl⟩ := SessionInitiator.complete_eq_ok.mp hcompletes
  refine ⟨hserves.carried.insert ⟨.inl rfl, rfl, _, hmem, rfl, hpeer, rfl⟩,
    hserves.awaited.erase _, fun told exit exitAddress htold htwo => ?_⟩
  have hcases : Told ext node.effects told ∨ pending.clientResponse = told := by
    unfold handshakeAnswer at htold
    cases hchannel : pending.clientResponseChannel with
    | none => exact .inl (by simpa [hchannel] using htold)
    | some channel =>
        rw [hchannel] at htold
        exact htold.append_handshake hreads
  rcases hcases with hold | rfl
  · obtain ⟨forwarding, hclientFound, hsame⟩ := hserves.told told exit exitAddress hold htwo
    have hother : told.sessionId ≠ pending.clientSessionId := by
      intro hsame
      rw [hsame, hawaits.fresh] at hclientFound
      cases hclientFound
    exact ⟨forwarding, by simpa [Node.established, hother] using hclientFound, hsame⟩
  · exact ⟨_, by rw [hclient]; exact AList.lookup_insert _, hanswer.symm⟩

theorem completes_established {requestId : RequestId} {response : HandshakeResponse}
    {pending : PendingRelayHandshake} {session : SecureSession} {entry : PeerId}
    {exitAddress : String}
    (hdecoded : ext.fromSlice (HandshakeResponse.fromJson ext) payload = some response)
    (hfound : node.pendingRelayHandshakes.lookup response.sessionId = some pending)
    (hcompletes : pending.initiator.complete ext response = .ok session)
    (hroute : pending.route = .twoHop entry peerId exitAddress) :
    completes ext (.network (.discoveryResponse peerId requestId payload)) node = some session := by
  simp [completes, hdecoded, hfound, hroute, hcompletes, RouteBinding.peers, Except.toOption]

/-- Every event keeps the clients served. -/
theorem Serves.step (hserves : Serves setup completed node) (hsound : Sound setup node)
    (hreads : ext.ReadsIdentities)
    (hplays : PlaysRole ext setup event) (hstep : Step ext setup inputs node event final) :
    Serves setup (completed ++ (completes ext event node).toList) final := by
  have hmono := hserves.mono (completes ext event node).toList
  cases hstep with
  | idle | listened | met | left | beat | unsent => exact { hmono with }
  | requested payload peerId channel state _ step =>
      have hnoted : Serves setup _ { node with state } := { hmono with }
      exact hnoted.request hreads hplays step
  | greeted peerId state pending waiting =>
      exact hmono.silent hmono.carried rfl (.refl _) fun _ htold => htold.append_other (by simp)
  | injected payload forwardingId forwarding relaySessionId frame sealed found active seals =>
      exact hmono.silent hmono.carried rfl (.refl _) fun _ htold => htold.append_other (by simp)
  | responded payload peerId requestId state _ step =>
      cases step with
      | ignored => exact { hmono with }
      | dropped sessionId => exact { hmono with awaited := hmono.awaited.erase sessionId }
      | established response pending session entry exit exitAddress decoded found completed route
          peer =>
          subst peer
          have hnoted : Serves setup _ { node with state } := { hmono with }
          refine hnoted.established { hsound with } hreads found completed route ?_
          have hwaited : node.pendingRelayHandshakes.lookup
            response.sessionId = some pending := found
          rw [completes_established decoded hwaited completed route]
          simp
      | returned pending response forwarding packet message opened frame sealed undecoded found
          decoded client belongs exit session opens seals =>
          refine hmono.silent (hmono.carried.insert ((hmono.carried _ _ client).begun _ _)) rfl
            (.insert fun found hsame => ?_) fun _ htold => htold.append_forwarding
          obtain rfl := Option.some.inj (client.symm.trans hsame)
          rfl

end Node

/-! ## Runs -/

/-- A relay together with the relay sessions that it completed. -/
structure Paths where
  node : Node
  completed : List SecureSession

namespace Paths

open Node

/-- The runs of a relay on events that are allowed. -/
def run (ext : Externals) (setup : Setup ext) (allowed : LoopEvent → Prop) : System Paths where
  init paths := Started ext setup paths.node ∧ paths.completed = []
  step paths next := ∃ inputs event, allowed event ∧
    handle ext setup inputs event paths.node = (.ok (), next.node) ∧
    next.completed = paths.completed ++ (completes ext event paths.node).toList

variable {setup : Setup ext} {allowed : LoopEvent → Prop} {paths : Paths}

theorem node_reachable (hreach : (run ext setup allowed).Reachable paths) :
    (loop ext setup).Reachable paths.node := by
  refine hreach.invariant (fun paths => (loop ext setup).Reachable paths.node) ?_ ?_
  · rintro paths ⟨hstarted, _⟩
    exact .of_init hstarted
  · rintro paths next _ hnode ⟨inputs, event, _, hrun, _⟩
    exact hnode.tail ⟨inputs, event, hrun⟩

theorem serves (hreads : ext.ReadsIdentities)
    (hreach : (run ext setup (PlaysRole ext setup)).Reachable paths) :
    Serves setup paths.completed paths.node := by
  refine hreach.invariant (fun paths => Serves setup paths.completed paths.node) ?_ ?_
  · rintro paths ⟨hstarted, _⟩
    refine ⟨?_, ?_, ?_⟩
    · rw [hstarted.clientForwarding]
      exact .empty
    · rw [hstarted.pendingRelayHandshakes]
      exact .empty
    · intro response exit exitAddress htold
      simp [hstarted.effects, Told] at htold
  · rintro paths next hbefore hserves ⟨inputs, event, hevent, hrun, hcompleted⟩
    rw [hcompleted]
    exact hserves.step (sound_of_reachable (node_reachable hbefore)) hreads
      hevent (handle_step hrun)

/-- There is a path for the client of a response: it is forwarded over a relay session that was
completed with the exit of its route. -/
def HasPath (paths : Paths) (response : HandshakeResponse) (exit : PeerId) : Prop :=
  ∃ forwarding, paths.node.clientForwarding.lookup response.sessionId = some forwarding ∧
    (forwarding.context.state = .established ∨ forwarding.context.state = .forwarding) ∧
    ∃ session ∈ paths.completed, forwarding.context.relaySessionId = some session.sessionId ∧
      session.peerId = exit ∧ session.state = .established

/-- Whoever is told that a two-hop session over this relay stands has a path to its exit, unless
the relay plays the role of an exit only and such a handshake was brought to it. -/
theorem told_hasPath (hreads : ext.ReadsIdentities)
    (hreach : (run ext setup (PlaysRole ext setup)).Reachable paths)
    {response : HandshakeResponse} {exit : PeerId} {exitAddress : String}
    (htold : Told ext paths.node.effects response)
    (hroute : response.routeContext = .twoHop setup.peerId exit exitAddress) :
    paths.HasPath response exit := by
  have hserves := serves hreads hreach
  have hsound := sound_of_reachable (node_reachable hreach)
  obtain ⟨forwarding, hfound, hsame⟩ := hserves.told response exit exitAddress htold hroute
  have hcarried := hserves.carried _ _ hfound
  obtain ⟨session, hmem, hsession, hpeer, hstate⟩ := hcarried.path
  obtain ⟨exitAddress', hown⟩ := (hsound.clients _ _ hfound).route
  obtain ⟨_, rfl, _⟩ := RouteBinding.twoHop.inj (hown.symm.trans (hsame.trans hroute))
  exact ⟨forwarding, hfound, hcarried.state, session, hmem,
    hsession ▸ hcarried.bound, hpeer, hstate⟩

/-! ## Runs over the reference instance -/

section Runs

open ReferenceRelay

variable {role : RelayRole}

/-- The relay listens. -/
noncomputable def listening (role : RelayRole) : Paths := ⟨ready role (bounds 8 8 8), []⟩

variable (role) in
theorem listening_reachable (allowed : LoopEvent → Prop)
    (hallowed : allowed (.network (.listening ""))) :
    (run reference (ReferenceRelay.setup role (bounds 8 8 8)) allowed).Reachable (listening role) :=
  have hstarted : (run reference (ReferenceRelay.setup role (bounds 8 8 8)) allowed).Reachable
      ⟨started role (bounds 8 8 8), []⟩ := .of_init ⟨isStarted role (bounds 8 8 8), rfl⟩
  hstarted.tail ⟨inputs 0, .network (.listening ""), hallowed, rfl, rfl⟩

/-- A client that wants to reach the peer [3] over this relay. -/
def client : SessionInitiator := initiator 1 5 (.twoHop ⟨[2]⟩ ⟨[3]⟩ "")

variable (role) in
theorem client_joins : Joins (ReferenceRelay.setup role (bounds 8 8 8))
    (ready role (bounds 8 8 8)) (inputs 0) client :=
  joins role (bounds 8 8 8) rfl (by simp [ready, started, SessionResponder.new])
    (by simp [RouteBinding.Valid]) (by simp [RouteBinding.peers]) rfl

theorem client_takes : (ready role (bounds 8 8 8)).core.TakesSession :=
  ⟨.inl rfl, show 0 < 8 by decide⟩

end Runs

open ReferenceRelay in
/-- A relay with the role of an exit answers a client that takes it for its entry. -/
theorem told_without_path :
    ¬ ∀ (ext : Externals) (setup : Setup ext) (paths : Paths) (response : HandshakeResponse)
        (exit : PeerId) (exitAddress : String),
      ext.ReadsIdentities → (run ext setup fun _ => True).Reachable paths →
      Told ext paths.node.effects response →
      response.routeContext = .twoHop setup.peerId exit exitAddress →
      paths.HasPath response exit := by
  intro hclaim
  obtain ⟨final, hrun, hjoined, _, heffects⟩ := (client_joins .exit).joined
    ⟨⟨[1]⟩, 0⟩ reference.parsesJson reference.readsIdentities
    reference.signaturesVerify client_takes rfl rfl
  have hreach : (run reference (ReferenceRelay.setup .exit (bounds 8 8 8)) fun _ => True).Reachable
      ⟨final, []⟩ := (listening_reachable .exit _ trivial).tail ⟨inputs 0, _, trivial, hrun, rfl⟩
  have htold : Told reference final.effects
    (joinedResponse (ReferenceRelay.setup .exit (bounds 8 8 8))
      (inputs 0) client) := ⟨⟨⟨[1]⟩, 0⟩, by rw [heffects]; simp⟩
  obtain ⟨forwarding, hfound, _⟩ := hclaim _ _ _ _ _ _ reference.readsIdentities hreach htold rfl
  rw [hjoined.clients] at hfound
  simp [ready, started] at hfound

open ReferenceRelay in
/-- A client of a relay with both roles is told after the exit answered. -/
theorem told_hasPath_served : ∃ paths : Paths,
    Told reference paths.node.effects (joinedResponse (ReferenceRelay.setup .both (bounds 8 8 8))
      (inputs 0) client) ∧
    paths.HasPath (joinedResponse (ReferenceRelay.setup .both (bounds 8 8 8)) (inputs 0) client)
      ⟨[3]⟩ := by
  have hrole : (ReferenceRelay.setup .both (bounds 8 8 8)).config.relayRole ≠ .exit := by
    simp [ReferenceRelay.setup, config]
  obtain ⟨first, hrun, hjoined, hpending, heffects⟩ := (client_joins .both).awaits
    ⟨⟨[1]⟩, 0⟩ reference.parsesJson reference.readsIdentities
    reference.signaturesVerify client_takes rfl hrole
  have hfirst : (run reference (ReferenceRelay.setup .both (bounds 8 8 8))
      (PlaysRole reference (ReferenceRelay.setup .both (bounds 8 8 8)))).Reachable ⟨first, []⟩ :=
    (listening_reachable .both _ (.inl hrole)).tail ⟨inputs 0, _, .inl hrole, hrun, rfl⟩
  have hbinds : ForwardingContext.Bindable client.route ⟨[1]⟩ ⟨[2]⟩ ⟨[3]⟩ :=
    ⟨⟨"", rfl⟩, by decide, by decide, by decide⟩
  have hfound := congrArg (AList.lookup (inputs 0).relaySessionId) hpending
  rw [AList.lookup_insert] at hfound
  obtain ⟨second, hserved, _, _, _, hanswer⟩ := served (ReferenceRelay.setup .both (bounds 8 8 8))
    (inputs 0) (inputs 0) ⟨[3]⟩ (Vector.replicate 32 3) 0 reference.parsesJson
    reference.readsIdentities reference.signaturesVerify (by decide +kernel) hfound rfl hbinds rfl
  have hsecond : (run reference (ReferenceRelay.setup .both (bounds 8 8 8))
      (PlaysRole reference (ReferenceRelay.setup .both (bounds 8 8 8)))).Reachable ⟨second, _⟩ :=
    hfirst.tail ⟨inputs 0, _, .inl hrole, hserved, rfl⟩
  have htold : Told reference second.effects (joinedResponse
      (ReferenceRelay.setup .both (bounds 8 8 8)) (inputs 0) client) :=
    ⟨⟨⟨[1]⟩, 0⟩, by rw [hanswer]; simp [handshakeAnswer]⟩
  exact ⟨_, htold, told_hasPath reference.readsIdentities hsecond htold rfl⟩

end Paths

end Relay
