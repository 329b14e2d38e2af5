import GhostLayer.Client.Endings
import GhostLayer.Client.Loops
import GhostLayer.Relay.Joining
import GhostLayer.Relay.Selection
import GhostLayer.Relay.StateLaws

/-! # The discovery of a relay

A client asks a relay for its metadata and holds the report against what it
requires. What a relay reports is well formed whatever has happened to it, so
that its configuration, its status and the clocks decide whether the client
takes it for a candidate.
-/

namespace Client

open Foundation Network Relay

variable {ext : Externals}

/-! ## Accepted reports -/

section Accepted

variable {parseMultiaddr : String → Option Multiaddr} {metadata : RelayMetadata}
  {requirements : CandidateRequirements} {now time : Int} {candidate : RelayCandidate}
  {freshness : Nat}

/-- A time that is past, and not longer than so. -/
def Recent (now : Int) (freshness : Nat) (time : Int) : Prop :=
  time ≤ now ∧ now - time ≤ freshness

theorem recent_iff : Recent now freshness time ↔
    ∃ age, durationSince now time = some age ∧ age ≤ freshness := by
  unfold durationSince Recent
  split_ifs with hpast
  · simp only [Option.some.injEq, exists_eq_left', Int.toNat_le, hpast, true_and]
  · simp [hpast]

/-- What a client requires of a report, with the address of the relay. -/
structure Acceptable (parseMultiaddr : String → Option Multiaddr)
    (requirements : CandidateRequirements) (now : Int) (metadata : RelayMetadata)
    (address : Multiaddr) : Prop where
  protocolVersion : metadata.protocolVersion = requirements.protocolVersion
  timestamp : Recent now requirements.heartbeatFreshness metadata.timestamp
  lastHeartbeat : ∀ heartbeat ∈ metadata.lastHeartbeat,
    Recent now requirements.heartbeatFreshness heartbeat
  address : metadata.address.bind parseMultiaddr = some address
  transports : ∀ transport ∈ metadata.supportedTransports, transport = "quic"
  known : ∀ capability ∈ metadata.capabilities, capability ∈ knownCapabilities
  online : metadata.status ≠ .offline
  transport : requirements.requiredTransport ∈ metadata.supportedTransports
  required : ∀ capability ∈ requirements.requiredCapabilities, capability ∈ metadata.capabilities

theorem validated_iff {result : Unit} :
    metadata.validate parseMultiaddr requirements.protocolVersion now
      requirements.heartbeatFreshness = .ok result ↔
    metadata.protocolVersion = requirements.protocolVersion ∧
    Recent now requirements.heartbeatFreshness metadata.timestamp ∧
    (∀ heartbeat ∈ metadata.lastHeartbeat, Recent now requirements.heartbeatFreshness heartbeat) ∧
    (∃ text ∈ metadata.address, (parseMultiaddr text).isSome = true) ∧
    (∀ transport ∈ metadata.supportedTransports, transport = "quic") ∧
    ∀ capability ∈ metadata.capabilities, capability ∈ knownCapabilities := by
  have hheartbeat : (¬ (metadata.lastHeartbeat.any fun timestamp =>
      (durationSince now timestamp).all fun age =>
        age > requirements.heartbeatFreshness) = true) ↔
      ∀ heartbeat ∈ metadata.lastHeartbeat,
        Recent now requirements.heartbeatFreshness heartbeat := by
    simp only [recent_iff]
    cases metadata.lastHeartbeat with
    | none => simp
    | some heartbeat => cases hage : durationSince now heartbeat <;> simp [hage]
  have htransports : (¬ (metadata.supportedTransports.any fun transport =>
      decide (transport ≠ "quic")) = true) ↔
      ∀ transport ∈ metadata.supportedTransports, transport = "quic" := by
    simp
  have hknown : (¬ (metadata.capabilities.any fun capability =>
      decide (capability ∉ knownCapabilities)) = true) ↔
      ∀ capability ∈ metadata.capabilities, capability ∈ knownCapabilities := by
    simp
  simp only [RelayMetadata.validate, Check.bind_eq_ok, Check.failWhen_eq_ok, Check.orThrow_eq_ok,
    hheartbeat, htransports, hknown, ne_eq, not_not, exists_const, gt_iff_lt, not_lt]
  constructor
  · rintro ⟨hversion, age, hage, hfresh, hbeat, text, htext, hparsed, hquic, hall⟩
    exact ⟨hversion, recent_iff.mpr ⟨age, hage, hfresh⟩, hbeat,
      ⟨text, htext, Option.isSome_iff_ne_none.mpr hparsed⟩, hquic, hall⟩
  · rintro ⟨hversion, hrecent, hbeat, ⟨text, htext, hparsed⟩, hquic, hall⟩
    obtain ⟨age, hage, hfresh⟩ := recent_iff.mp hrecent
    exact ⟨hversion, age, hage, hfresh, hbeat, text, htext, Option.isSome_iff_ne_none.mp hparsed,
      hquic, hall⟩

/-- What a client notes of a report. -/
def candidateOf (metadata : RelayMetadata) (address : Multiaddr) : RelayCandidate where
  peerId := metadata.peerId
  address
  status := metadata.status
  health := metadata.health
  latency := metadata.latencyMs.map fun milliseconds => milliseconds.toNat * 10 ^ 6
  capabilities := metadata.capabilities
  protocolVersion := metadata.protocolVersion
  softwareVersion := metadata.softwareVersion
  lastSeen := metadata.timestamp

theorem fromMetadata_acceptable
    (haccepted : RelayCandidate.fromMetadata parseMultiaddr metadata requirements now =
      .ok candidate) :
    ∃ address, Acceptable parseMultiaddr requirements now metadata address ∧
      candidateOf metadata address = candidate := by
  have hrequired := (RelayCandidate.fromMetadata_madeOf haccepted).required
  unfold RelayCandidate.fromMetadata at haccepted
  obtain ⟨_, hvalid, haccepted⟩ := Check.bind_eq_ok.mp haccepted
  obtain ⟨text, htext, haccepted⟩ := Check.bind_eq_ok.mp haccepted
  obtain ⟨address, haddress, haccepted⟩ := Check.bind_eq_ok.mp haccepted
  obtain ⟨_, honline, haccepted⟩ := Check.bind_eq_ok.mp haccepted
  obtain ⟨_, htransport, haccepted⟩ := Check.bind_eq_ok.mp haccepted
  obtain ⟨hversion, hrecent, hbeat, -, hquic, hknown⟩ :=
    validated_iff.mp (Check.mapError_eq_ok.mp hvalid)
  have hfound : metadata.address.bind parseMultiaddr = some address := by
    rw [Check.orThrow_eq_ok.mp htext, Option.bind_some, Check.orThrow_eq_ok.mp haddress]
  split at haccepted
  next missing hmissing => cases haccepted
  next hnone =>
      cases haccepted
      exact ⟨address, ⟨hversion, hrecent, hbeat, hfound, hquic, hknown,
        Check.failWhen_eq_ok.mp honline, not_not.mp (Check.failWhen_eq_ok.mp htransport),
        hrequired⟩, rfl⟩

theorem Acceptable.fromMetadata {address : Multiaddr}
    (hacceptable : Acceptable parseMultiaddr requirements now metadata address) :
    RelayCandidate.fromMetadata parseMultiaddr metadata requirements now =
      .ok (candidateOf metadata address) := by
  obtain ⟨text, htext, haddress⟩ := Option.bind_eq_some_iff.mp hacceptable.address
  have hvalid : metadata.validate parseMultiaddr requirements.protocolVersion now
      requirements.heartbeatFreshness = .ok () :=
    validated_iff.mpr ⟨hacceptable.protocolVersion, hacceptable.timestamp,
      hacceptable.lastHeartbeat, ⟨text, htext, Option.isSome_of_eq_some haddress⟩,
      hacceptable.transports, hacceptable.known⟩
  have hnone : requirements.requiredCapabilities.find?
      (fun capability => capability ∉ metadata.capabilities) = none := by
    simpa using hacceptable.required
  unfold RelayCandidate.fromMetadata
  refine Check.bind_eq_ok.mpr ⟨(), Check.mapError_eq_ok.mpr hvalid, ?_⟩
  refine Check.bind_eq_ok.mpr ⟨text, Check.orThrow_eq_ok.mpr htext, ?_⟩
  refine Check.bind_eq_ok.mpr ⟨address, Check.orThrow_eq_ok.mpr haddress, ?_⟩
  refine Check.bind_eq_ok.mpr ⟨(), Check.failWhen_eq_ok.mpr hacceptable.online, ?_⟩
  refine Check.bind_eq_ok.mpr
    ⟨(), Check.failWhen_eq_ok.mpr (not_not.mpr hacceptable.transport), ?_⟩
  rw [hnone]
  rfl

/-- A report is noted exactly when it is acceptable. -/
theorem acceptedBy_iff {setup : Setup} {inputs : Inputs} :
    Standing.acceptedBy setup metadata inputs = some candidate ↔
      ∃ address, Acceptable setup.parseMultiaddr setup.requirements inputs.checkedAt metadata
        address ∧ candidateOf metadata address = candidate := by
  refine Standing.acceptedBy_eq_some.trans ⟨fromMetadata_acceptable, ?_⟩
  rintro ⟨address, hacceptable, rfl⟩
  exact hacceptable.fromMetadata

end Accepted

/-! ## What a relay reports -/

section Reports

variable {relay : Relay.Setup ext} {node final : Node} {inputs : Relay.Inputs}
  {event : Node.LoopEvent}

theorem relayCapabilities_known (config : NodeConfig) :
    ∀ capability ∈ relayCapabilities config, capability ∈ knownCapabilities := by
  have hsubset : relayCapabilities config ⊆ knownCapabilities := by
    unfold relayCapabilities
    simp only [List.append_subset]
    refine ⟨⟨⟨⟨⟨⟨by decide, ?_⟩, ?_⟩, ?_⟩, ?_⟩, ?_⟩, ?_⟩
    · cases config.routeMode <;> decide
    · cases config.relayRole <;> decide
    all_goals split_ifs <;> decide
  exact fun _ hcapability => hsubset hcapability

/-- What a relay says of itself never changes. -/
structure Describes (relay : Relay.Setup ext) (state : RelayState) : Prop where
  peerId : state.peerId = relay.peerId
  advertisedAddress : state.advertisedAddress = relay.config.advertisedAddress
  softwareVersion : state.softwareVersion = relay.config.softwareVersion

theorem Describes.stateAfter {state : RelayState} (hdescribes : Describes relay state) :
    Describes relay (Node.stateAfter relay inputs event state) := by
  cases event with
  | tun | heartbeat => exact { hdescribes with }
  | network event =>
      cases event with
      | pingResult peerId result => cases result <;> exact { hdescribes with }
      | _ => exact { hdescribes with }

theorem describes_of_reachable (hreach : (Node.loop ext relay).Reachable node) :
    Describes relay node.state := by
  refine hreach.invariant (fun node => Describes relay node.state) ?_ ?_
  · intro node hstarted
    rw [hstarted.state]
    exact ⟨rfl, rfl, rfl⟩
  · rintro node next - hdescribes ⟨inputs, event, hrun⟩
    show Describes relay next.state
    rw [Node.handle_state hrun]
    exact hdescribes.stateAfter

/-- How a relay, its state and the clocks have to be for a client that speaks its protocol. -/
structure Suits (setup : Setup) (relay : Relay.Setup ext) (state : RelayState) (stamp now : Int)
    (address : Multiaddr) : Prop where
  timestamp : Recent now setup.heartbeatFreshness (wholeSeconds stamp)
  lastHeartbeat : ∀ heartbeat ∈ state.lastHeartbeat,
    Recent now setup.heartbeatFreshness (wholeSeconds heartbeat)
  address : (relay.config.advertisedAddress.or state.listeningAddress).bind setup.parseMultiaddr =
    some address
  online : state.status ≠ .offline
  transport : setup.discoveryRequiredTransport = "quic"
  required : ∀ capability ∈ setup.discoveryRequiredCapabilities,
    capability ∈ relayCapabilities relay.config

/-- What a relay reports is well formed. -/
theorem acceptable_iff {setup : Setup} {now : Int} {address : Multiaddr}
    (hdescribes : Describes relay node.state)
    (hversion : relay.config.protocolVersion = setup.protocolVersion) :
    Acceptable setup.parseMultiaddr setup.requirements now
        (Node.metadataOf relay inputs node).truncated address ↔
      Suits setup relay node.state inputs.stamp now address := by
  have haddress : (Node.metadataOf relay inputs node).truncated.address =
      relay.config.advertisedAddress.or node.state.listeningAddress := by
    rw [← hdescribes.advertisedAddress]
    rfl
  constructor
  · intro hacceptable
    refine ⟨hacceptable.timestamp, fun heartbeat hheartbeat => ?_, haddress ▸ hacceptable.address,
      hacceptable.online, ?_, hacceptable.required⟩
    · exact hacceptable.lastHeartbeat _ (Option.mem_map_of_mem wholeSeconds hheartbeat)
    · exact List.mem_singleton.mp hacceptable.transport
  · intro hsuits
    refine ⟨hversion, hsuits.timestamp, fun heartbeat hheartbeat => ?_,
      haddress ▸ hsuits.address, fun transport htransport => List.mem_singleton.mp htransport,
      relayCapabilities_known relay.config, hsuits.online,
      List.mem_singleton.mpr hsuits.transport, hsuits.required⟩
    obtain ⟨beat, hbeat, rfl⟩ := Option.mem_map.mp hheartbeat
    exact hsuits.lastHeartbeat beat hbeat

end Reports

/-! ## The conversation -/

section Conversation

variable {setup : Program.Setup} {relay : Relay.Setup ext} {node : Node}
  {relayInputs : Relay.Inputs} {asking : PeerId} {channel : ResponseChannel} {bytes : Bytes}

/-- What both loops of a client note of an answer, whatever they have noted before. -/
structure Notes (ext : Externals) (setup : Program.Setup) (inputs : Program.Inputs) (bytes : Bytes)
    (noted : Option RelayCandidate) : Prop where
  engine : ∀ source requestId engine, ∃ next,
    Engine.handle ext setup.toSetup inputs.toInputs
      (.network (.discoveryResponse source requestId bytes)) engine = (.ok (), next) ∧
    next.candidates = engine.candidates ++ noted.toList
  program : ∀ source requestId program, ∃ next,
    Program.handle ext setup inputs (.discoveryResponse source requestId bytes) program =
      (.ok (), next) ∧
    next.candidates = program.candidates ++ noted.toList

theorem notes_metadata {metadata : RelayMetadata}
    (hread : Program.readResponse ext bytes = .ok (.metadata metadata)) (inputs : Program.Inputs) :
    Notes ext setup inputs bytes (Standing.acceptedBy setup.toSetup metadata inputs.toInputs) where
  engine source requestId engine := by
    have hsame : Engine.readResponse ext bytes = .ok (.metadata metadata) :=
      readers_agree hread (by simp) _ (by simp)
    obtain ⟨next, hnext, hhandled⟩ : ∃ next,
        Engine.considerRelay ext setup.toSetup inputs.toInputs metadata engine = (.ok (), next) ∧
          Standing.Handled ext setup.toSetup true (.reported source metadata inputs.toInputs)
            engine.standing next.standing engine.effects next.effects :=
      Engine.considerRelay_handled source metadata
    refine ⟨next, ?_, congrArg Standing.candidates hhandled.standing⟩
    show Engine.handleResponse ext setup.toSetup inputs.toInputs bytes engine = _
    rw [Engine.handleResponse_readResponse, hsame]
    exact hnext
  program source requestId program := by
    obtain ⟨next, hnext, hhandled⟩ : ∃ next,
        Program.considerRelay ext setup inputs metadata program = (.ok (), next) ∧
          Standing.Handled ext setup.toSetup false (.reported source metadata inputs.toInputs)
            program.standing next.standing program.effects next.effects :=
      Program.considerRelay_handled source metadata
    refine ⟨next, ?_, congrArg Standing.candidates hhandled.standing⟩
    show Program.handleResponse ext setup inputs bytes program = _
    rw [Program.handleResponse, hread]
    exact hnext

variable (setup relayInputs asking channel) in
/-- A client notes a relay that it asks exactly when they speak the same protocol and the relay
suits it: whatever has happened to the relay before, its report is read and well formed, and a
client of another protocol gets no answer. -/
theorem discovered_iff (hparse : ext.ParsesJson) (hreads : ext.ReadsIdentities)
    (hreach : (Node.loop ext relay).Reachable node) (hopen : relayInputs.channelOpen = true)
    (hstamp : PostEpoch relayInputs.stamp)
    (hbeats : ∀ heartbeat ∈ node.state.lastHeartbeat, PostEpoch heartbeat) :
    ∃ effects, Node.handle ext relay relayInputs (.network (.discoveryRequest asking
        (RelayMetadataRequest.toJson ⟨"metadata", setup.protocolVersion⟩).render channel)) node =
          (.ok (), { node with effects := node.effects ++ effects }) ∧
      (relay.config.protocolVersion ≠ setup.protocolVersion → effects = []) ∧
      (relay.config.protocolVersion = setup.protocolVersion →
        ∃ bytes, effects = [.respond channel bytes] ∧ ∀ inputs, ∃ noted,
          Notes ext setup inputs bytes noted ∧ ∀ candidate, noted = some candidate ↔
            ∃ address, Suits setup.toSetup relay node.state relayInputs.stamp inputs.checkedAt
                address ∧
              candidateOf (Node.metadataOf relay relayInputs node).truncated address =
                candidate) := by
  have hrun : Node.handle ext relay relayInputs (.network (.discoveryRequest asking
      (RelayMetadataRequest.toJson ⟨"metadata", setup.protocolVersion⟩).render channel)) node =
        Node.answerMetadata ext relay relayInputs ⟨"metadata", setup.protocolVersion⟩ channel
          node := by
    show Node.handleRequest ext relay relayInputs _ asking channel node = _
    rw [Node.handleRequest_run, readRequest_metadata hparse]
  by_cases hversion : relay.config.protocolVersion = setup.protocolVersion
  · have hwritable : (Node.metadataOf relay relayInputs node).Writable := ⟨hstamp, hbeats⟩
    have hwritten : (Node.metadataOf relay relayInputs node).toJson ext = some _ :=
      hwritable.toJson
    have hanswers : Node.answerMetadata ext relay relayInputs ⟨"metadata", setup.protocolVersion⟩
        channel node = (.ok (), _) :=
      (Node.answerMetadata_eq_ok ⟨rfl, hversion.symm⟩).mpr ⟨_, hwritten, hopen, rfl⟩
    have hread := readResponse_metadata hparse hreads hwritable hwritten
    refine ⟨_, hrun.trans hanswers, fun hother => absurd hversion hother, fun _ => ⟨_, rfl, ?_⟩⟩
    refine fun inputs => ⟨_, notes_metadata hread inputs, fun candidate => ?_⟩
    rw [acceptedBy_iff]
    simp only [acceptable_iff (describes_of_reachable hreach) hversion]
  · refine ⟨[], ?_, fun _ => rfl, fun hsame => absurd hsame hversion⟩
    rw [hrun, Node.answerMetadata, if_neg fun hasked => hversion hasked.2.symm, List.append_nil]
    rfl

end Conversation

/-! ## A relay that suits a client -/

namespace ReferenceClient

/-- A relay without an address to advertise, which listens on one. -/
noncomputable def advertiser : Relay.Setup reference :=
  ReferenceRelay.setup .both (ReferenceRelay.bounds 8 8 8)

noncomputable def listener : Node := ReferenceRelay.ready .both (ReferenceRelay.bounds 8 8 8)

theorem listener_suits :
    Suits (programSetup .oneHop).toSetup advertiser listener.state 0 0 ⟨""⟩ where
  timestamp := ⟨le_rfl, by simp [wholeSeconds, programSetup, setup]⟩
  lastHeartbeat _ hheartbeat := by cases hheartbeat
  address := rfl
  online hoffline := by cases hoffline
  transport := rfl
  required := by
    simp [programSetup, setup, relayCapabilities]

/-- A client that has met nobody notes a relay that listens. -/
theorem discovered_iff_ready : ∃ bytes next candidate,
    Program.handle reference (programSetup .oneHop) programInputs
        (.discoveryResponse ⟨[2]⟩ 0 bytes) Program.new = (.ok (), next) ∧
      next.candidates = [candidate] ∧ candidate.peerId = advertiser.peerId := by
  obtain ⟨effects, -, -, hsame⟩ := discovered_iff (programSetup .oneHop) (ReferenceRelay.inputs 0)
    ⟨[1]⟩ ⟨⟨[1]⟩, 0⟩ reference.parsesJson reference.readsIdentities
    (ReferenceRelay.ready_reachable .both (ReferenceRelay.bounds 8 8 8)) rfl
    ⟨le_rfl, by simp [ReferenceRelay.inputs]⟩ fun _ hbeat => by cases hbeat
  obtain ⟨bytes, -, hnotes⟩ := hsame rfl
  obtain ⟨noted, hloops, hnoted⟩ := hnotes programInputs
  obtain ⟨next, hnext, hcandidates⟩ := hloops.program ⟨[2]⟩ 0 Program.new
  have hfound := (hnoted _).mpr ⟨_, listener_suits, rfl⟩
  rw [hfound] at hcandidates
  exact ⟨bytes, next, _, hnext, hcandidates, rfl⟩

end ReferenceClient

end Client
