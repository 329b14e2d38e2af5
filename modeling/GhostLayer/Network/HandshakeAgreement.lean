import GhostLayer.Network.Handshake

/-! # Who a completed handshake agrees with

Honest nodes start handshakes and answer them while everyone else puts together
messages of any kind. Signatures of honest nodes are not forged and the session
ids they draw are new. A node signs the terms of a handshake and its own
ephemeral key, and neither the identity of its partner nor the partner's
ephemeral key, so agreement holds as long as nobody else brings up the session
id of an honest node.
-/

namespace Network

open Foundation

variable {ext : Externals} {Node : Type}

/-! ## Transcripts are read one way -/

theorem RouteBinding.toJson_injective (hreads : ext.ReadsIdentities) :
    Function.Injective (RouteBinding.toJson ext) := by
  intro first second hjson
  have hread := congrArg (RouteBinding.fromJson ext) hjson
  rw [fromJson_toJson hreads, fromJson_toJson hreads] at hread
  exact Option.some.inj hread

theorem RouteBinding.render_append_inj (hreads : ext.ReadsIdentities) {first second : RouteBinding}
    {rest rest' : Bytes}
    (hbytes : (first.toJson ext).render ++ rest = (second.toJson ext).render ++ rest') :
    first = second ∧ rest = rest' := by
  have hobject : ∀ route : RouteBinding, ∃ fields, route.toJson ext = .obj fields := by
    rintro (_ | _) <;> exact ⟨_, rfl⟩
  obtain ⟨fields, hfields⟩ := hobject first
  obtain ⟨fields', hfields'⟩ := hobject second
  rw [hfields, hfields'] at hbytes
  obtain ⟨rfl, hrest⟩ := Json.render_obj_append_inj hbytes
  exact ⟨toJson_injective hreads (hfields.trans hfields'.symm), hrest⟩

/-- Versions of one length are all it takes to read a transcript back. -/
theorem transcript_inj (hreads : ext.ReadsIdentities) {protocol protocol' : String}
    {sessionId sessionId' : SessionId} {route route' : RouteBinding} {publicKey publicKey' : Bytes}
    {ephemeral ephemeral' : Bytes32}
    (hlength : (Bytes.ofText protocol).length = (Bytes.ofText protocol').length)
    (hbytes : transcript ext protocol sessionId route publicKey ephemeral =
      transcript ext protocol' sessionId' route' publicKey' ephemeral') :
    protocol = protocol' ∧ sessionId = sessionId' ∧ route = route' ∧ publicKey = publicKey' ∧
      ephemeral = ephemeral' := by
  simp only [transcript, List.append_assoc, List.append_cancel_left_eq] at hbytes
  obtain ⟨hprotocol, hrest⟩ := List.append_inj hbytes hlength
  obtain ⟨hsession, hrest⟩ := List.append_inj hrest (by simp)
  -- The route ends where its JSON text does, so the key begins at the same place.
  obtain ⟨hroute, hrest⟩ := RouteBinding.render_append_inj hreads hrest
  obtain ⟨hpublic, hephemeral⟩ := List.append_inj' hrest (by simp)
  refine ⟨Bytes.ofText_injective hprotocol, ?_, hroute, hpublic, Vector.toList_inj.mp hephemeral⟩
  cases sessionId
  cases sessionId'
  exact congrArg SessionId.mk (Vector.toList_inj.mp hsession)

/-- What a signature of a handshake is about, next to the protocol version. -/
structure HandshakeTerms where
  sessionId : SessionId
  route : RouteBinding
  publicKey : Bytes
  ephemeral : Bytes32
  deriving DecidableEq

variable (ext) in
def HandshakeTerms.transcript (terms : HandshakeTerms) (protocol : String) : Bytes :=
  Network.transcript ext protocol terms.sessionId terms.route terms.publicKey terms.ephemeral

/-- Under one protocol version a transcript is one of a single handshake, and so is a signature. -/
theorem transcript_injective (hreads : ext.ReadsIdentities) (protocol : String) :
    Function.Injective (fun terms : HandshakeTerms => terms.transcript ext protocol) ∧
    (ext.SignaturesBind → ∀ identity (terms read : HandshakeTerms),
      ext.verify (ext.publicKey identity) (read.transcript ext protocol)
        (ext.sign identity (terms.transcript ext protocol)) = true → read = terms) := by
  have hinjective : Function.Injective
      (fun terms : HandshakeTerms => terms.transcript ext protocol) := by
    intro first second hbytes
    obtain ⟨-, hsession, hroute, hpublic, hephemeral⟩ := transcript_inj hreads rfl hbytes
    cases first
    cases second
    congr
  refine ⟨hinjective, ?_⟩
  intro hbind identity terms read hverify
  exact hinjective (hbind identity _ _ hverify)

/-- A handshake with an exit at some address. -/
def termsWithExit (exitAddress : String) : HandshakeTerms where
  sessionId := ⟨Vector.replicate 16 7⟩
  route := .twoHop ⟨[1]⟩ ⟨[2]⟩ exitAddress
  publicKey := [3]
  ephemeral := Vector.replicate 32 1

/-- A quote in the address does not end it. -/
theorem transcript_injective_quote :
    (termsWithExit "\"").transcript reference "1.0" ≠
      (termsWithExit "").transcript reference "1.0" ∧
    reference.verify (reference.publicKey ⟨[3]⟩) ((termsWithExit "").transcript reference "1.0")
      (reference.sign ⟨[3]⟩ ((termsWithExit "\"").transcript reference "1.0")) = false := by
  obtain ⟨hinjective, hsigned⟩ := transcript_injective reference.readsIdentities "1.0"
  have hdistinct : termsWithExit "\"" ≠ termsWithExit "" := by decide
  refine ⟨fun hbytes => hdistinct (hinjective hbytes), ?_⟩
  rw [Bool.eq_false_iff]
  intro hverify
  exact hdistinct (hsigned reference.signaturesBind _ _ _ hverify).symm

/-! ## Runs of honest nodes among others -/

/-- What an honest node is configured with. -/
structure HonestNodes (ext : Externals) (Node : Type) where
  identity : Node → Keypair
  protocolVersion : Node → String
  distinct : ∀ first second,
    ext.peerOf (identity first) = ext.peerOf (identity second) → first = second

/-- The versions of all honest nodes take the same number of bytes. -/
def HonestNodes.SameLength (setup : HonestNodes ext Node) : Prop :=
  ∀ first second, (Bytes.ofText (setup.protocolVersion first)).length =
    (Bytes.ofText (setup.protocolVersion second)).length

/-- A handshake that a node started. -/
structure Attempt (Node : Type) where
  node : Node
  initiator : SessionInitiator

/-- A handshake that a node accepted, with the ephemeral key it drew. -/
structure Acceptance (Node : Type) where
  node : Node
  init : HandshakeInit
  transportPeer : PeerId
  protocolVersion : String
  secret : Bytes32
  session : SecureSession

/-- A handshake that a node completed, with the ephemeral key it was sent. -/
structure Completion (Node : Type) where
  node : Node
  initiator : SessionInitiator
  ephemeral : Bytes32
  session : SecureSession

/-- The honest nodes at some point of a run, with the history of their handshakes. -/
structure Handshakes (Node : Type) where
  responder : Node → SessionResponder
  pending : List (Attempt Node)
  started : List (Attempt Node)
  accepted : List (Acceptance Node)
  completed : List (Completion Node)

namespace Handshakes

variable {setup : HonestNodes ext Node} {handshakes next : Handshakes Node}

/-- The session ids that a node drew for its handshakes. -/
def Drawn (handshakes : Handshakes Node) (node : Node) (sessionId : SessionId) : Prop :=
  ∃ attempt ∈ handshakes.started, attempt.node = node ∧ attempt.initiator.sessionId = sessionId

/-- A node handed out its signature of a transcript, as an initiator or as a responder. -/
def Signed (setup : HonestNodes ext Node) (handshakes : Handshakes Node) (node : Node)
    (message : Bytes) : Prop :=
  (∃ attempt ∈ handshakes.started, attempt.node = node ∧
    transcript ext attempt.initiator.protocolVersion attempt.initiator.sessionId
      attempt.initiator.route (ext.encodePublic (ext.publicKey attempt.initiator.identity))
      (ext.ephemeralPublic attempt.initiator.secret) = message) ∨
  ∃ acceptance ∈ handshakes.accepted, acceptance.node = node ∧
    transcript ext acceptance.protocolVersion acceptance.init.sessionId
      acceptance.init.routeContext (ext.encodePublic (ext.publicKey (setup.identity node)))
      (ext.ephemeralPublic acceptance.secret) = message

/-- A signature that verifies under the key of an honest node is one the node handed out. -/
def Unforged (setup : HonestNodes ext Node) (handshakes : Handshakes Node) (signature : Bytes) :
    Prop :=
  ∀ node publicKey message, ext.toPeerId publicKey = ext.peerOf (setup.identity node) →
    ext.verify publicKey message signature = true → handshakes.Signed setup node message

/-- A session id that no honest node has drawn or seen. -/
def Fresh (handshakes : Handshakes Node) (sessionId : SessionId) : Prop :=
  ∀ node, ¬ handshakes.Drawn node sessionId ∧
    sessionId ∉ (handshakes.responder node).seenSessions

def accepts (node : Node) (init : HandshakeInit) (transportPeer : PeerId)
    (protocolVersion : String) (secret : Bytes32) :
    Outcome SessionError (HandshakeResponse × SecureSession) → List (Acceptance Node)
  | .ok (_, session) => [⟨node, init, transportPeer, protocolVersion, secret, session⟩]
  | _ => []

def completes (attempt : Attempt Node) (ephemeral : Bytes32) :
    Except SessionError SecureSession → List (Completion Node)
  | .ok session => [⟨attempt.node, attempt.initiator, ephemeral, session⟩]
  | .error _ => []

/-- A node starts a handshake, is presented with an initialization, or with a response to one of
its handshakes. `allowed` restricts the initializations. -/
inductive Step [DecidableEq Node] (setup : HonestNodes ext Node)
    (allowed : Handshakes Node → Node → HandshakeInit → PeerId → Prop) :
    Handshakes Node → Handshakes Node → Prop
  | start (handshakes : Handshakes Node) (node : Node) (expectedPeer : PeerId)
      (route : RouteBinding) (sessionId : SessionId) (secret : Bytes32)
      (initiator : SessionInitiator) (hfresh : handshakes.Fresh sessionId)
      (hnew : SessionInitiator.new (setup.identity node) expectedPeer route
        (setup.protocolVersion node) sessionId secret = .ok initiator) :
      Step setup allowed handshakes { handshakes with
        pending := handshakes.pending ++ [⟨node, initiator⟩]
        started := handshakes.started ++ [⟨node, initiator⟩] }
  | accept (handshakes : Handshakes Node) (node : Node) (init : HandshakeInit)
      (transportPeer : PeerId) (secret : Bytes32)
      (outcome : Outcome SessionError (HandshakeResponse × SecureSession))
      (responder : SessionResponder) (hunforged : handshakes.Unforged setup init.authentication)
      (hallowed : allowed handshakes node init transportPeer)
      (haccept : SessionResponder.acceptInit ext init transportPeer (setup.protocolVersion node)
        secret (handshakes.responder node) = (outcome, responder)) :
      Step setup allowed handshakes { handshakes with
        responder := Function.update handshakes.responder node responder
        accepted := handshakes.accepted ++
          accepts node init transportPeer (setup.protocolVersion node) secret outcome }
  | complete (handshakes : Handshakes Node) (earlier later : List (Attempt Node))
      (attempt : Attempt Node) (response : HandshakeResponse)
      (hpending : handshakes.pending = earlier ++ attempt :: later)
      (hunforged : handshakes.Unforged setup response.authentication) :
      Step setup allowed handshakes { handshakes with
        pending := earlier ++ later
        completed := handshakes.completed ++ completes attempt response.ephemeralPublicKey
          (attempt.initiator.complete ext response) }

/-- Nobody has started or seen a handshake. -/
structure Opened (setup : HonestNodes ext Node) (handshakes : Handshakes Node) : Prop where
  responder : ∀ node, handshakes.responder node = .new (setup.identity node)
  pending : handshakes.pending = []
  started : handshakes.started = []
  accepted : handshakes.accepted = []
  completed : handshakes.completed = []

def system [DecidableEq Node] (setup : HonestNodes ext Node)
    (allowed : Handshakes Node → Node → HandshakeInit → PeerId → Prop) :
    System (Handshakes Node) where
  init := Opened setup
  step := Step setup allowed

/-- A session id that an honest node drew is presented by that node, and to another node. -/
def OwnSessions (setup : HonestNodes ext Node) (handshakes : Handshakes Node) (node : Node)
    (init : HandshakeInit) (transportPeer : PeerId) : Prop :=
  ∀ owner, handshakes.Drawn owner init.sessionId →
    transportPeer = ext.peerOf (setup.identity owner) ∧ owner ≠ node

/-- The node that a completed handshake was meant for accepted it once, from the initiator, with
the same terms and with the same keys in the other direction. -/
def Agreed [DecidableEq Node] (setup : HonestNodes ext Node) (handshakes : Handshakes Node)
    (completion : Completion Node) (responder : Node) : Prop :=
  (handshakes.accepted.map (fun acceptance =>
    (acceptance.node, acceptance.init.sessionId))).count
      (responder, completion.session.sessionId) = 1 ∧
  ∃ acceptance ∈ handshakes.accepted, acceptance.node = responder ∧
    acceptance.init.sessionId = completion.session.sessionId ∧
    acceptance.transportPeer = ext.peerOf (setup.identity completion.node) ∧
    acceptance.init.routeContext = completion.session.route ∧
    acceptance.protocolVersion = completion.initiator.protocolVersion ∧
    acceptance.session.sessionId = completion.session.sessionId ∧
    acceptance.session.peerId = ext.peerOf (setup.identity completion.node) ∧
    acceptance.session.sendKey = completion.session.receiveKey ∧
    acceptance.session.receiveKey = completion.session.sendKey

/-! ## The invariant -/

/-- An accepted handshake is the one that was started under its session id. -/
structure Answers (setup : HonestNodes ext Node) (acceptance : Acceptance Node)
    (attempt : Attempt Node) : Prop where
  other : attempt.node ≠ acceptance.node
  peer : acceptance.transportPeer = ext.peerOf (setup.identity attempt.node)
  ephemeral : acceptance.init.ephemeralPublicKey = ext.ephemeralPublic attempt.initiator.secret

/-- A completed handshake has the terms of an accepted one and the ephemeral key drawn for it. -/
structure Answered (completion : Completion Node) (acceptance : Acceptance Node) (ext : Externals) :
    Prop where
  session : acceptance.init.sessionId = completion.initiator.sessionId
  route : acceptance.init.routeContext = completion.initiator.route
  version : acceptance.protocolVersion = completion.initiator.protocolVersion
  ephemeral : completion.ephemeral = ext.ephemeralPublic acceptance.secret

structure Sound (setup : HonestNodes ext Node) (handshakes : Handshakes Node) : Prop where
  identity : ∀ node, (handshakes.responder node).identity = setup.identity node
  pending : ∀ attempt ∈ handshakes.pending, attempt ∈ handshakes.started
  started : ∀ attempt ∈ handshakes.started,
    attempt.initiator.identity = setup.identity attempt.node ∧
    attempt.initiator.protocolVersion = setup.protocolVersion attempt.node
  drawnOnce : ∀ first ∈ handshakes.started, ∀ second ∈ handshakes.started,
    first.initiator.sessionId = second.initiator.sessionId → first = second
  seen : ∀ acceptance ∈ handshakes.accepted,
    acceptance.init.sessionId ∈ (handshakes.responder acceptance.node).seenSessions
  acceptedOnce : (handshakes.accepted.map (fun acceptance =>
    (acceptance.node, acceptance.init.sessionId))).Nodup
  accepted : ∀ acceptance ∈ handshakes.accepted,
    acceptance.protocolVersion = setup.protocolVersion acceptance.node ∧
    acceptance.session = deriveSession ext acceptance.init.sessionId acceptance.transportPeer
      acceptance.init.routeContext .responder
      (ext.diffieHellman acceptance.secret acceptance.init.ephemeralPublicKey)
      acceptance.protocolVersion
  answers : ∀ acceptance ∈ handshakes.accepted, ∀ attempt ∈ handshakes.started,
    attempt.initiator.sessionId = acceptance.init.sessionId → Answers setup acceptance attempt
  completed : ∀ completion ∈ handshakes.completed,
    ⟨completion.node, completion.initiator⟩ ∈ handshakes.started ∧
    completion.session = deriveSession ext completion.initiator.sessionId
      completion.initiator.expectedPeer completion.initiator.route .initiator
      (ext.diffieHellman completion.initiator.secret completion.ephemeral)
      completion.initiator.protocolVersion ∧
    ∀ responder ≠ completion.node,
      completion.initiator.expectedPeer = ext.peerOf (setup.identity responder) →
      ∃ acceptance ∈ handshakes.accepted, acceptance.node = responder ∧
        Answered completion acceptance ext

theorem Opened.sound (hopened : Opened setup handshakes) : Sound setup handshakes where
  identity node := by rw [hopened.responder]; rfl
  pending := by simp [hopened.pending]
  started := by simp [hopened.started]
  drawnOnce := by simp [hopened.started]
  seen := by simp [hopened.accepted]
  acceptedOnce := by simp [hopened.accepted]
  accepted := by simp [hopened.accepted]
  answers := by simp [hopened.accepted]
  completed := by simp [hopened.completed]

/-- What an honest node signed under a session id tells which of its handshakes that was. -/
theorem Sound.signed (hsound : Sound setup handshakes) (hreads : ext.ReadsIdentities)
    (hlength : setup.SameLength)
    {node other : Node} {sessionId : SessionId} {route : RouteBinding} {publicKey : Bytes}
    {ephemeral : Bytes32}
    (hsigned : handshakes.Signed setup node (transcript ext (setup.protocolVersion other) sessionId
      route publicKey ephemeral)) :
    (∃ attempt ∈ handshakes.started, attempt.node = node ∧
      attempt.initiator.sessionId = sessionId ∧
      ext.ephemeralPublic attempt.initiator.secret = ephemeral) ∨
    ∃ acceptance ∈ handshakes.accepted, acceptance.node = node ∧
      acceptance.init.sessionId = sessionId ∧ acceptance.init.routeContext = route ∧
      acceptance.protocolVersion = setup.protocolVersion other ∧
      ext.ephemeralPublic acceptance.secret = ephemeral := by
  rcases hsigned with ⟨attempt, hattempt, hnode, hbytes⟩ | ⟨acceptance, haccepted, hnode, hbytes⟩
  · rw [(hsound.started attempt hattempt).2] at hbytes
    obtain ⟨_, hsession, _, _, hephemeral⟩ := transcript_inj hreads (hlength _ _) hbytes
    exact .inl ⟨attempt, hattempt, hnode, hsession, hephemeral⟩
  · rw [(hsound.accepted acceptance haccepted).1] at hbytes
    obtain ⟨hversion, hsession, hroute, _, hephemeral⟩ := transcript_inj hreads (hlength _ _) hbytes
    exact .inr ⟨acceptance, haccepted, hnode, hsession, hroute,
      (hsound.accepted acceptance haccepted).1.trans hversion, hephemeral⟩

theorem Sound.start (hsound : Sound setup handshakes) {node : Node} {initiator : SessionInitiator}
    (hfresh : handshakes.Fresh initiator.sessionId)
    (hidentity : initiator.identity = setup.identity node)
    (hversion : initiator.protocolVersion = setup.protocolVersion node) :
    Sound setup { handshakes with
      pending := handshakes.pending ++ [⟨node, initiator⟩]
      started := handshakes.started ++ [⟨node, initiator⟩] } := by
  have hundrawn : ∀ attempt ∈ handshakes.started,
      attempt.initiator.sessionId ≠ initiator.sessionId :=
    fun attempt hattempt hsession => (hfresh attempt.node).1 ⟨attempt, hattempt, rfl, hsession⟩
  refine { hsound with
    pending := ?_
    started := ?_
    drawnOnce := ?_
    answers := ?_
    completed := ?_ }
  · intro attempt hattempt
    rw [List.mem_append] at hattempt ⊢
    exact hattempt.imp_left (hsound.pending attempt)
  · intro attempt hattempt
    rcases List.mem_append.mp hattempt with hold | hnew
    · exact hsound.started attempt hold
    · obtain rfl := List.mem_singleton.mp hnew
      exact ⟨hidentity, hversion⟩
  · intro first hfirst second hsecond hsession
    rcases List.mem_append.mp hfirst with hold | hnew <;>
      rcases List.mem_append.mp hsecond with hold' | hnew'
    · exact hsound.drawnOnce first hold second hold' hsession
    · obtain rfl := List.mem_singleton.mp hnew'
      exact absurd hsession (hundrawn first hold)
    · obtain rfl := List.mem_singleton.mp hnew
      exact absurd hsession.symm (hundrawn second hold')
    · rw [List.mem_singleton.mp hnew, List.mem_singleton.mp hnew']
  · intro acceptance haccepted attempt hattempt hsession
    rcases List.mem_append.mp hattempt with hold | hnew
    · exact hsound.answers acceptance haccepted attempt hold hsession
    · obtain rfl := List.mem_singleton.mp hnew
      refine absurd (hsound.seen acceptance haccepted) ?_
      rw [← hsession]
      exact (hfresh acceptance.node).2
  · intro completion hcompletion
    obtain ⟨hstarted, hrest⟩ := hsound.completed completion hcompletion
    exact ⟨List.mem_append_left _ hstarted, hrest⟩

theorem Sound.accept (hsound : Sound setup handshakes) (acceptance : Acceptance Node)
    (hseen : acceptance.init.sessionId ∈ (handshakes.responder acceptance.node).seenSessions)
    (hnew : ∀ earlier ∈ handshakes.accepted, earlier.node = acceptance.node →
      earlier.init.sessionId ≠ acceptance.init.sessionId)
    (hversion : acceptance.protocolVersion = setup.protocolVersion acceptance.node)
    (hsession : acceptance.session = deriveSession ext acceptance.init.sessionId
      acceptance.transportPeer acceptance.init.routeContext .responder
      (ext.diffieHellman acceptance.secret acceptance.init.ephemeralPublicKey)
      acceptance.protocolVersion)
    (hanswers : ∀ attempt ∈ handshakes.started,
      attempt.initiator.sessionId = acceptance.init.sessionId →
      Answers setup acceptance attempt) :
    Sound setup { handshakes with accepted := handshakes.accepted ++ [acceptance] } := by
  refine { hsound with
    seen := ?_
    acceptedOnce := ?_
    accepted := ?_
    answers := ?_
    completed := ?_ }
  · intro other hother
    rcases List.mem_append.mp hother with hold | hlast
    · exact hsound.seen other hold
    · rw [List.mem_singleton.mp hlast]
      exact hseen
  · rw [List.map_append, List.nodup_append]
    refine ⟨hsound.acceptedOnce, List.nodup_singleton _, ?_⟩
    intro pair hpair other hother
    obtain ⟨earlier, hearlier, rfl⟩ := List.mem_map.mp hpair
    rw [List.map_singleton, List.mem_singleton] at hother
    rw [hother]
    intro hsame
    obtain ⟨hnode, hid⟩ := Prod.mk.inj hsame
    exact hnew earlier hearlier hnode hid
  · intro other hother
    rcases List.mem_append.mp hother with hold | hlast
    · exact hsound.accepted other hold
    · rw [List.mem_singleton.mp hlast]
      exact ⟨hversion, hsession⟩
  · intro other hother
    rcases List.mem_append.mp hother with hold | hlast
    · exact hsound.answers other hold
    · rw [List.mem_singleton.mp hlast]
      exact hanswers
  · intro completion hcompletion
    obtain ⟨hstarted, hderived, hanswered⟩ := hsound.completed completion hcompletion
    refine ⟨hstarted, hderived, ?_⟩
    intro responder hother hexpected
    obtain ⟨earlier, hearlier, hrest⟩ := hanswered responder hother hexpected
    exact ⟨earlier, List.mem_append_left _ hearlier, hrest⟩

theorem Sound.complete (hsound : Sound setup handshakes) (completion : Completion Node)
    (hstarted : ⟨completion.node, completion.initiator⟩ ∈ handshakes.started)
    (hsession : completion.session = deriveSession ext completion.initiator.sessionId
      completion.initiator.expectedPeer completion.initiator.route .initiator
      (ext.diffieHellman completion.initiator.secret completion.ephemeral)
      completion.initiator.protocolVersion)
    (hanswered : ∀ responder ≠ completion.node,
      completion.initiator.expectedPeer = ext.peerOf (setup.identity responder) →
      ∃ acceptance ∈ handshakes.accepted, acceptance.node = responder ∧
        Answered completion acceptance ext) :
    Sound setup { handshakes with completed := handshakes.completed ++ [completion] } := by
  refine { hsound with completed := ?_ }
  intro other hother
  rcases List.mem_append.mp hother with hold | hlast
  · exact hsound.completed other hold
  · rw [List.mem_singleton.mp hlast]
    exact ⟨hstarted, hsession, hanswered⟩

/-- An initialization under a session id that an honest node drew is the one that node sent. -/
theorem Sound.answers_of_own (hsound : Sound setup handshakes) (hreads : ext.ReadsIdentities)
    (hlength : setup.SameLength)
    {node : Node} {init : HandshakeInit} {transportPeer : PeerId} {secret : Bytes32}
    {session : SecureSession} (hunforged : handshakes.Unforged setup init.authentication)
    (hown : OwnSessions setup handshakes node init transportPeer)
    (hvalid : validateInit ext init transportPeer
      (ext.peerOf (handshakes.responder node).identity) init.routeContext
      (setup.protocolVersion node) = .ok ())
    {attempt : Attempt Node} (hattempt : attempt ∈ handshakes.started)
    (hsession : attempt.initiator.sessionId = init.sessionId) :
    Answers setup ⟨node, init, transportPeer, setup.protocolVersion node, secret, session⟩
      attempt := by
  obtain ⟨hpeer, hother⟩ := hown attempt.node ⟨attempt, hattempt, rfl, hsession⟩
  obtain ⟨_, _, _, _, publicKey, _, _, hkey, hverify⟩ := validateInit_eq_ok.mp hvalid
  have hsigned := hunforged attempt.node publicKey _ (hkey.trans hpeer) hverify
  rcases hsound.signed hreads hlength hsigned with ⟨first, hfirst, hnode, hid, hephemeral⟩ |
    ⟨acceptance, haccepted, hnode, hid, _⟩
  · obtain rfl := hsound.drawnOnce first hfirst attempt hattempt (hid.trans hsession.symm)
    exact ⟨hother, hpeer, hephemeral.symm⟩
  · have hanswers := hsound.answers acceptance haccepted attempt hattempt (hsession.trans hid.symm)
    exact absurd hnode.symm hanswers.other

/-- A response that completes a handshake was made by the expected peer for that handshake. -/
theorem Sound.answered_of_complete (hsound : Sound setup handshakes) (hreads : ext.ReadsIdentities)
    (hlength : setup.SameLength)
    {attempt : Attempt Node} {response : HandshakeResponse} {session : SecureSession}
    (hattempt : attempt ∈ handshakes.started)
    (hunforged : handshakes.Unforged setup response.authentication)
    (hvalid : validateResponse ext response attempt.initiator.sessionId
      (ext.peerOf attempt.initiator.identity) attempt.initiator.expectedPeer
      attempt.initiator.route attempt.initiator.protocolVersion = .ok ())
    {responder : Node} (hother : responder ≠ attempt.node)
    (hexpected : attempt.initiator.expectedPeer = ext.peerOf (setup.identity responder)) :
    ∃ acceptance ∈ handshakes.accepted, acceptance.node = responder ∧ Answered
      ⟨attempt.node, attempt.initiator, response.ephemeralPublicKey, session⟩ acceptance ext := by
  obtain ⟨_, _, _, _, publicKey, _, hkey, hverify⟩ := validateResponse_eq_ok.mp hvalid
  have hversion := (hsound.started attempt hattempt).2
  have hsigned := hunforged responder publicKey _ (hkey.trans hexpected) hverify
  rw [hversion] at hsigned
  rcases hsound.signed hreads hlength hsigned with ⟨first, hfirst, hnode, hid, _⟩ |
    ⟨acceptance, haccepted, hnode, hid, hroute, hsame, hephemeral⟩
  · obtain rfl := hsound.drawnOnce first hfirst attempt hattempt hid
    exact absurd hnode.symm hother
  · exact ⟨acceptance, haccepted, hnode, hid, hroute, hsame.trans hversion.symm,
      hephemeral.symm⟩

variable [DecidableEq Node]

/-- A responder that does not accept only adds to its seen sessions. -/
theorem Sound.refuse (hsound : Sound setup handshakes) {node : Node} {responder : SessionResponder}
    (hidentity : responder.identity = (handshakes.responder node).identity)
    (hseen : (handshakes.responder node).seenSessions ⊆ responder.seenSessions) :
    Sound setup { handshakes with
      responder := Function.update handshakes.responder node responder } := by
  refine { hsound with
    identity := ?_
    seen := ?_ }
  · intro other
    by_cases hother : other = node
    · subst hother
      simpa [hidentity] using hsound.identity other
    · simpa [hother] using hsound.identity other
  · intro acceptance haccepted
    by_cases hother : acceptance.node = node
    · rw [← hother] at hseen ⊢
      simpa using hseen (hsound.seen acceptance haccepted)
    · simpa [hother] using hsound.seen acceptance haccepted

theorem Sound.step (hsound : Sound setup handshakes) (hreads : ext.ReadsIdentities)
    (hlength : setup.SameLength)
    (hstep : Step setup (OwnSessions setup) handshakes next) : Sound setup next := by
  cases hstep with
  | start node expectedPeer route sessionId secret initiator hfresh hnew =>
      obtain ⟨_, _, rfl⟩ := SessionInitiator.new_eq_ok.mp hnew
      exact hsound.start hfresh rfl rfl
  | accept node init transportPeer secret outcome responder hunforged hown haccept =>
      have hkeeps := SessionResponder.acceptInit_keeps ext init transportPeer
        (setup.protocolVersion node) secret (handshakes.responder node)
      rw [haccept] at hkeeps
      have hrefused : Sound setup { handshakes with
          responder := Function.update handshakes.responder node responder } := by
        rcases hkeeps with rfl | rfl
        · exact hsound.refuse rfl (Finset.Subset.refl _)
        · exact hsound.refuse rfl (Finset.subset_insert _ _)
      match outcome, haccept with
      | .error _, _ | .panic, _ => simpa [accepts] using hrefused
      | .ok (response, session), haccept =>
          obtain ⟨hunseen, hvalid, _, _, _, hsession, rfl⟩ :=
            SessionResponder.acceptInit_eq_ok.mp haccept
          refine hrefused.accept ⟨node, init, transportPeer,
            setup.protocolVersion node, secret, session⟩ (by simp) ?_ rfl hsession ?_
          · rintro earlier hearlier hnode hid
            refine hunseen (hid ▸ ?_)
            have hseen := hsound.seen earlier hearlier
            rwa [show earlier.node = node from hnode] at hseen
          · intro attempt hattempt hid
            exact hsound.answers_of_own hreads hlength hunforged hown hvalid hattempt hid
  | complete earlier later attempt response hpending hunforged =>
      have hattempt := hsound.pending attempt (by simp [hpending])
      have hfewer : Sound setup { handshakes with pending := earlier ++ later } := by
        refine { hsound with pending := fun other hother => hsound.pending other ?_ }
        rw [hpending]
        exact List.mem_append.mpr ((List.mem_append.mp hother).imp_right (List.mem_cons_of_mem _))
      cases hcomplete : attempt.initiator.complete ext response with
      | error reason => simpa [completes] using hfewer
      | ok session =>
          obtain ⟨_, hvalid, _, hsession⟩ := SessionInitiator.complete_eq_ok.mp hcomplete
          exact hfewer.complete ⟨attempt.node, attempt.initiator,
            response.ephemeralPublicKey, session⟩ hattempt hsession.symm
            (fun responder hother hexpected => hsound.answered_of_complete hreads hlength hattempt
              hunforged hvalid hother hexpected)

/-- Among nodes with versions of one length, in a run where the session ids that honest nodes drew
are only presented by these nodes and to others, a completed handshake agrees with the node it was
meant for. -/
theorem completed_agrees (hreads : ext.ReadsIdentities) (hcommutes : ext.DiffieHellmanCommutes)
    (hlength : setup.SameLength)
    (hreach : (system setup (OwnSessions setup)).Reachable handshakes)
    {completion : Completion Node} (hcompleted : completion ∈ handshakes.completed)
    {responder : Node} (hother : responder ≠ completion.node)
    (hexpected : completion.initiator.expectedPeer = ext.peerOf (setup.identity responder)) :
    Agreed setup handshakes completion responder := by
  have hsound : Sound setup handshakes :=
    hreach.invariant (Sound setup) (fun _ hopened => Opened.sound hopened)
      (fun _ _ _ hsound hstep => hsound.step hreads hlength hstep)
  obtain ⟨hstarted, hderived, hanswered⟩ := hsound.completed completion hcompleted
  obtain ⟨acceptance, haccepted, hnode, hmatch⟩ := hanswered responder hother hexpected
  have hanswers := hsound.answers acceptance haccepted _ hstarted hmatch.session.symm
  have hsession := (hsound.accepted acceptance haccepted).2
  -- Each side has the public key of the other, so both compute one secret.
  have hshared : ext.diffieHellman acceptance.secret acceptance.init.ephemeralPublicKey =
      ext.diffieHellman completion.initiator.secret completion.ephemeral := by
    rw [hanswers.ephemeral, hmatch.ephemeral, hcommutes]
  rw [hshared, hmatch.session, hmatch.route, hmatch.version, hanswers.peer] at hsession
  refine ⟨?_, acceptance, haccepted, hnode, ?_, hanswers.peer, ?_, hmatch.version, ?_, ?_, ?_, ?_⟩
  · refine List.count_eq_one_of_mem hsound.acceptedOnce
      (List.mem_map.mpr ⟨acceptance, haccepted, ?_⟩)
    rw [hderived, hnode, hmatch.session]
    rfl
  · rw [hderived]
    exact hmatch.session
  · rw [hderived]
    exact hmatch.route
  · rw [hsession, hderived]
    rfl
  · rw [hsession]
    rfl
  · rw [hsession, hderived]
    rfl
  · rw [hsession, hderived]
    rfl

/-! ## Runs over the reference instance -/

/-- A client and a relay. -/
noncomputable def clientAndRelay : HonestNodes reference SessionRole where
  identity
    | .initiator => ⟨[1]⟩
    | .responder => ⟨[2]⟩
  protocolVersion _ := "1.0"
  distinct first second hpeer := by
    cases first <;> cases second <;> simp_all [Externals.peerOf, reference]

/-- A handshake with the relay under one session id and one ephemeral key, by any identity. -/
def towardsRelay (sender : Keypair) : SessionInitiator :=
  ⟨sender, ⟨[2]⟩, .oneHop ⟨[2]⟩, "1.0", ⟨Vector.replicate 16 7⟩,
    Vector.replicate 32 1, .negotiating⟩

theorem towardsRelay_new (sender : Keypair) :
    SessionInitiator.new sender (reference.peerOf ⟨[2]⟩) (.oneHop ⟨[2]⟩) "1.0"
      ⟨Vector.replicate 16 7⟩ (Vector.replicate 32 1) = .ok (towardsRelay sender) :=
  SessionInitiator.new_eq_ok.mpr
    ⟨trivial, by simp [RouteBinding.peers, Externals.peerOf, reference],
    rfl⟩

/-- The initialization that a sender presents to the relay. -/
noncomputable def presented (sender : Keypair) : HandshakeInit where
  kind := "secure_session_init"
  protocolVersion := "1.0"
  sessionId := ⟨Vector.replicate 16 7⟩
  initiatorIdentity := reference.peerText (reference.peerOf sender)
  responderIdentity := reference.peerText ⟨[2]⟩
  initiatorPublicKey := reference.encodePublic (reference.publicKey sender)
  ephemeralPublicKey := Vector.replicate 32 1
  routeContext := .oneHop ⟨[2]⟩
  authentication := reference.sign sender (transcript reference "1.0" ⟨Vector.replicate 16 7⟩
    (.oneHop ⟨[2]⟩) (reference.encodePublic (reference.publicKey sender)) (Vector.replicate 32 1))

/-- The client has started its handshake. -/
noncomputable def begun : Handshakes SessionRole where
  responder node := .new (clientAndRelay.identity node)
  pending := [⟨.initiator, towardsRelay ⟨[1]⟩⟩]
  started := [⟨.initiator, towardsRelay ⟨[1]⟩⟩]
  accepted := []
  completed := []

/-- The relay has accepted what a sender presented. -/
noncomputable def answered (sender : Keypair) : Handshakes SessionRole :=
  { begun with
    responder := Function.update begun.responder .responder
      ⟨⟨[2]⟩, insert ⟨Vector.replicate 16 7⟩ ∅⟩
    accepted := [⟨.responder, presented sender, reference.peerOf sender, "1.0",
      Vector.replicate 32 2, deriveSession reference ⟨Vector.replicate 16 7⟩
        (reference.peerOf sender) (.oneHop ⟨[2]⟩) .responder
        (reference.diffieHellman (Vector.replicate 32 2) (Vector.replicate 32 1)) "1.0"⟩] }

/-- The client has completed its handshake. -/
noncomputable def settled (sender : Keypair) : Handshakes SessionRole :=
  { answered sender with
    pending := []
    completed := [⟨.initiator, towardsRelay ⟨[1]⟩, Vector.replicate 32 2,
      deriveSession reference ⟨Vector.replicate 16 7⟩ ⟨[2]⟩ (.oneHop ⟨[2]⟩) .initiator
        (reference.diffieHellman (Vector.replicate 32 1) (Vector.replicate 32 2)) "1.0"⟩] }

/-- A signature over the reference instance shows the identity it was made with. -/
theorem unforged_sign {handshakes : Handshakes SessionRole} {signer : Keypair} {message : Bytes}
    (hone : signer.secret.length = 1)
    (hsigned : ∀ node, (clientAndRelay.identity node).secret = signer.secret →
      handshakes.Signed clientAndRelay node message) :
    handshakes.Unforged clientAndRelay (reference.sign signer message) := by
  intro node publicKey claimed hpeer hverify
  have hbytes : publicKey.bytes = (clientAndRelay.identity node).secret :=
    congrArg PeerId.bytes hpeer
  have hsame : signer.secret ++ message = publicKey.bytes ++ claimed := by
    simpa [reference] using hverify
  have hlength : signer.secret.length = publicKey.bytes.length := by
    rw [hone, hbytes]
    cases node <;> rfl
  obtain ⟨hsecret, rfl⟩ := List.append_inj hsame hlength
  exact hsigned node (hbytes.symm.trans hsecret.symm)

section Settled

variable {allowed : Handshakes SessionRole → SessionRole → HandshakeInit → PeerId → Prop}
  {sender : Keypair}

theorem begun_reachable : (system clientAndRelay allowed).Reachable begun := by
  have hopened : Opened clientAndRelay { begun with pending := [], started := [] } :=
    ⟨fun _ => rfl, rfl, rfl, rfl, rfl⟩
  have hstep : Step clientAndRelay allowed { begun with pending := [], started := [] } begun :=
    Step.start _ SessionRole.initiator _ _ _ _ _
      (by simp [Fresh, Drawn, begun, SessionResponder.new]) (towardsRelay_new ⟨[1]⟩)
  exact (System.Reachable.of_init hopened).tail hstep

variable (allowed sender) in
theorem answered_step (hsender : sender.secret = [1] ∨ sender.secret = [3])
    (hallowed : allowed begun .responder (presented sender) (reference.peerOf sender)) :
    Step clientAndRelay allowed begun (answered sender) := by
  have hbuilt : (towardsRelay sender).buildInit reference = .ok (presented sender) := rfl
  have hvalid := validateInit_buildInit reference.readsIdentities reference.signaturesVerify
    (towardsRelay_new sender) hbuilt
  have haccept : SessionResponder.acceptInit reference (presented sender)
      (reference.peerOf sender) "1.0" (Vector.replicate 32 2) (begun.responder .responder) = _ :=
    SessionResponder.acceptInit_eq_ok.mpr ⟨Finset.notMem_empty _, hvalid,
      List.mem_singleton_self _, by simp [presented, reference, allZero], rfl, rfl, rfl⟩
  have hstep := fun hunforged : begun.Unforged clientAndRelay (presented sender).authentication =>
    Step.accept begun SessionRole.responder (presented sender) (reference.peerOf sender)
      (Vector.replicate 32 2) _ _ hunforged hallowed
    haccept
  refine hstep ?_
  refine unforged_sign (by rcases hsender with hone | hone <;> rw [hone] <;> rfl) ?_
  intro node hsecret
  obtain ⟨secret⟩ := sender
  rcases hsender with rfl | rfl <;> cases node <;> simp [clientAndRelay] at hsecret
  exact .inl ⟨_, List.mem_singleton_self _, rfl, rfl⟩

theorem settled_step : Step clientAndRelay allowed (answered sender) (settled sender) := by
  have hclaimed : (presented ⟨[1]⟩).initiatorIdentity =
      reference.peerText (reference.peerOf ⟨[1]⟩) := rfl
  have hvalid := validateResponse_handshakeResponse ⟨[1]⟩ ⟨[2]⟩ "1.0" (Vector.replicate 32 2)
    reference.readsIdentities reference.signaturesVerify hclaimed
  have hcomplete : (towardsRelay ⟨[1]⟩).complete reference
      (handshakeResponse reference ⟨[2]⟩ (presented ⟨[1]⟩) (Vector.replicate 32 2) "1.0") = .ok _ :=
    SessionInitiator.complete_eq_ok.mpr ⟨rfl, hvalid, by decide +kernel, rfl⟩
  have hstep := @Step.complete _ _ _ clientAndRelay allowed (answered sender) [] []
    ⟨.initiator, towardsRelay ⟨[1]⟩⟩
    (handshakeResponse reference ⟨[2]⟩ (presented ⟨[1]⟩) (Vector.replicate 32 2) "1.0") rfl
    (unforged_sign rfl ?_)
  · rw [hcomplete] at hstep
    exact hstep
  · intro node hsecret
    cases node <;> simp [clientAndRelay] at hsecret
    exact .inr ⟨_, List.mem_singleton_self _, rfl, rfl⟩

end Settled

/-- The client and the relay agree when the client itself presents its session id. -/
theorem completed_agrees_client :
    ∃ handshakes completion, (system clientAndRelay (OwnSessions clientAndRelay)).Reachable
        handshakes ∧ completion ∈ handshakes.completed ∧
      Agreed clientAndRelay handshakes completion .responder := by
  have hown : OwnSessions clientAndRelay begun .responder (presented ⟨[1]⟩)
      (reference.peerOf ⟨[1]⟩) := by
    rintro owner ⟨attempt, hattempt, rfl, _⟩
    obtain rfl := List.mem_singleton.mp hattempt
    exact ⟨rfl, by decide⟩
  have hreach := (begun_reachable.tail (answered_step _ _ (.inl rfl) hown)).tail settled_step
  refine ⟨_, _, hreach, List.mem_singleton_self _, completed_agrees reference.readsIdentities
    reference.diffieHellmanCommutes (fun _ _ => rfl) hreach (List.mem_singleton_self _) (by decide)
    rfl⟩

/-- Without the restriction the client completes a handshake with the relay that the relay has
accepted from somebody else. -/
theorem completed_disagrees :
    ¬ ∀ handshakes, (system clientAndRelay (fun _ _ _ _ => True)).Reachable handshakes →
      ∀ completion ∈ handshakes.completed, ∀ partner ≠ completion.node,
        completion.initiator.expectedPeer =
          reference.peerOf (clientAndRelay.identity partner) →
        Agreed clientAndRelay handshakes completion partner := by
  intro hagrees
  have hreach := (begun_reachable.tail (answered_step (fun _ _ _ _ => True) ⟨[3]⟩
    (.inr rfl) trivial)).tail settled_step
  obtain ⟨_, acceptance, haccepted, _, _, hpeer, _⟩ :=
    hagrees _ hreach _ (List.mem_singleton_self _) .responder (by decide) rfl
  rw [List.mem_singleton.mp haccepted] at hpeer
  simp [Externals.peerOf, reference, clientAndRelay] at hpeer

end Handshakes

end Network
