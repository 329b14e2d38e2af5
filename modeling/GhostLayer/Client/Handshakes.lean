import GhostLayer.Client.Joining
import GhostLayer.Client.Loops

/-! # Handshakes that are awaited

A handshake is awaited from the moment its init is sent until its peer completes
it or leaves. A loop keeps the handshake that it awaits, but it gives it up on
every response, whoever sent it and whether or not it completes the handshake, and
it does not give it up when the peer leaves. It also begins a new handshake when
it has a session already. Each of the laws below says in which runs this does not
show.
-/

namespace Client

open Foundation Network Relay

variable {ext : Externals}

/-! ## What is awaited -/

/-- A handshake began in a pass: it uses what was drawn then, and its init was sent to its peer. -/
structure Entry.Begins (ext : Externals) (setup : Setup) (entry : Entry)
    (initiator : SessionInitiator) : Prop where
  drawn : ∃ peer metadata inputs, entry.turn = .reported peer metadata inputs ∧
    initiator.sessionId = inputs.sessionId ∧ initiator.secret = inputs.secret
  identity : initiator.identity = setup.identity
  protocolVersion : initiator.protocolVersion = setup.protocolVersion
  state : initiator.state = .negotiating
  sent : .opens ext initiator ∈ entry.sent

/-- The peer of a handshake leaves, or it completes the handshake. -/
def Turn.Ends (ext : Externals) (initiator : SessionInitiator) : Turn → Prop
  | .left peer => peer = initiator.expectedPeer
  | .responded peer response =>
      peer = initiator.expectedPeer ∧ ∃ session, initiator.complete ext response = .ok session
  | _ => False

/-- The init of a handshake was sent, and its peer has neither left nor completed it since. -/
def Awaited (ext : Externals) (setup : Setup) (past : List Entry) (initiator : SessionInitiator) :
    Prop :=
  ∃ before entry later, past = before ++ entry :: later ∧ entry.Begins ext setup initiator ∧
    ∀ after ∈ later, ¬ after.turn.Ends ext initiator

section Awaiting

variable {setup : Setup} {past : List Entry} {entry : Entry} {initiator : SessionInitiator}

theorem not_awaited_nil : ¬ Awaited ext setup [] initiator := by
  rintro ⟨before, entry, later, hpast, -⟩
  simp at hpast

theorem awaited_append :
    Awaited ext setup (past ++ [entry]) initiator ↔
      Awaited ext setup past initiator ∧ ¬ entry.turn.Ends ext initiator ∨
        entry.Begins ext setup initiator := by
  constructor
  · rintro ⟨before, first, later, hpast, hbegins, hlater⟩
    rcases List.eq_nil_or_concat later with rfl | ⟨rest, last, rfl⟩
    · obtain ⟨-, hlast⟩ := List.append_inj' hpast rfl
      cases hlast
      exact .inr hbegins
    · have hsplit : past ++ [entry] = (before ++ first :: rest) ++ [last] := by simpa using hpast
      obtain ⟨rfl, hlast⟩ := List.append_inj' hsplit rfl
      cases hlast
      refine .inl ⟨⟨before, first, rest, rfl, hbegins, ?_⟩, hlater entry (by simp)⟩
      exact fun after hafter => hlater after (by simp [hafter])
  · rintro (⟨⟨before, first, later, rfl, hbegins, hlater⟩, hends⟩ | hbegins)
    · refine ⟨before, first, later ++ [entry], by simp, hbegins, ?_⟩
      intro after hafter
      rcases List.mem_append.mp hafter with hmem | hmem
      · exact hlater after hmem
      · obtain rfl := List.mem_singleton.mp hmem
        exact hends
    · exact ⟨past, entry, [], rfl, hbegins, by simp⟩

/-! ## Runs in which the pending handshake is the one awaited -/

/-- The pending handshake is the one that is awaited. -/
def PendingExact (ext : Externals) (setup : Setup) (past : List Entry)
    (standing : Standing) : Prop :=
  ∀ initiator, standing.pendingSession = some initiator ↔ Awaited ext setup past initiator

/-- The turn brings a response only from the peer of the pending handshake, which it completes, and
that peer does not leave. -/
def Undisturbed (ext : Externals) (standing : Standing) (turn : Turn) : Prop :=
  ∀ initiator ∈ standing.pendingSession, match turn with
    | .responded peer response =>
        peer = initiator.expectedPeer ∧ ∃ session, initiator.complete ext response = .ok session
    | .left peer => peer ≠ initiator.expectedPeer
    | _ => True

namespace Loop

variable {loop : Loop ext} {state next : loop.State}

theorem begins_eq_some {standing : Standing} {turn : Turn} :
    standing.begins ext setup turn = some initiator ↔
      ∃ peer metadata inputs route, turn = .reported peer metadata inputs ∧
        standing.pendingSession = none ∧ standing.selects ext setup turn = some route ∧
        initiator = Standing.initiatorFor setup route inputs := by
  cases turn with
  | reported peer metadata inputs =>
      by_cases hfree : standing.pendingSession = none
      · simp [Standing.begins, hfree, eq_comm]
      · simp [Standing.begins, hfree]
  | responded | left | other => simp [Standing.begins]

/-- An init names the route of its handshake. -/
theorem initOf_route {first second : SessionInitiator} (hreads : ext.ReadsIdentities)
    (hrender : ((first.initOf ext).toJson ext).render = ((second.initOf ext).toJson ext).render) :
    first.route = second.route := by
  have hinit := congrArg (HandshakeInit.fromJson ext) (Json.render_injective hrender)
  rw [HandshakeInit.fromJson_toJson hreads, HandshakeInit.fromJson_toJson hreads] at hinit
  exact congrArg HandshakeInit.routeContext (Option.some.inj hinit)

/-- A handshake begins exactly when its init is sent. -/
theorem Pass.begins_iff (hreads : ext.ReadsIdentities) (hpass : loop.Pass past state entry next) :
    entry.Begins ext loop.setup initiator ↔
      (loop.standing state).begins ext loop.setup entry.turn = some initiator := by
  constructor
  · intro hbegins
    obtain ⟨actual, hactual, hsame⟩ := (hpass.sent _ _).mp hbegins.sent
    obtain ⟨peer, metadata, inputs, hturn, hsession, hsecret⟩ := hbegins.drawn
    obtain ⟨_, _, _, route, hturn', -, -, rfl⟩ := begins_eq_some.mp hactual
    rw [hturn] at hturn'
    cases hturn'
    obtain ⟨hpeer, hrender⟩ := Effect.request.inj hsame
    have hroute := initOf_route hreads hrender
    obtain ⟨identity, expectedPeer, binding, version, sessionId, secret, status⟩ := initiator
    have hidentity : identity = loop.setup.identity := hbegins.identity
    have hversion : version = loop.setup.protocolVersion := hbegins.protocolVersion
    have hstatus : status = .negotiating := hbegins.state
    simp only at hsession hsecret hroute hpeer
    subst hidentity hversion hstatus hsession hsecret hroute hpeer
    exact hactual
  · intro hbegins
    obtain ⟨peer, metadata, inputs, route, hturn, -, -, hinitiator⟩ := begins_eq_some.mp hbegins
    have hsent := (hpass.sent initiator.expectedPeer (initiator.initOf ext)).mpr
      ⟨initiator, hbegins, rfl⟩
    subst hinitiator
    exact ⟨⟨peer, metadata, inputs, hturn, rfl, rfl⟩, rfl, rfl, rfl, hsent⟩

/-- As long as the pending handshake is the one awaited, it stays so exactly in the turns that do
not disturb it. -/
theorem Pass.pendingExact_iff (hreads : ext.ReadsIdentities)
    (hpass : loop.Pass past state entry next)
    (hexact : PendingExact ext loop.setup past (loop.standing state)) :
    PendingExact ext loop.setup (past ++ [entry]) (loop.standing next) ↔
      Undisturbed ext (loop.standing state) entry.turn := by
  have hawaited : ∀ initiator, Awaited ext loop.setup (past ++ [entry]) initiator ↔
      (loop.standing state).pendingSession = some initiator ∧ ¬ entry.turn.Ends ext initiator ∨
        (loop.standing state).begins ext loop.setup entry.turn = some initiator := by
    intro initiator
    rw [awaited_append, ← hexact initiator, hpass.begins_iff hreads]
  simp only [PendingExact, hawaited, hpass.standing, Standing.after, Undisturbed]
  generalize loop.standing state = standing
  cases hturn : entry.turn with
  | reported peer metadata inputs =>
      -- a handshake begins only when none is pending
      cases hbegins : standing.begins ext loop.setup (.reported peer metadata inputs) with
      | none => simp [Turn.Ends]
      | some begun =>
          obtain ⟨_, _, _, _, _, hfree, -, -⟩ := begins_eq_some.mp hbegins
          simp [hfree]
  | responded peer response =>
      simp only [Standing.begins, Turn.Ends, Option.mem_def]
      constructor
      · intro hnone initiator hpending
        by_contra hends
        exact absurd ((hnone initiator).mpr (.inl ⟨hpending, hends⟩)) (by simp)
      · intro hends initiator
        constructor
        · intro hnone
          cases hnone
        · rintro (⟨hpending, hother⟩ | hbegins)
          · exact absurd (hends initiator hpending) hother
          · cases hbegins
  | left peer =>
      simp only [Standing.begins, Turn.Ends, Option.mem_def, Option.none_or]
      constructor
      · intro hstays initiator hpending
        rcases (hstays initiator).mp hpending with ⟨-, hother⟩ | hbegins
        · exact hother
        · cases hbegins
      · intro hother initiator
        constructor
        · exact fun hpending => .inl ⟨hpending, hother initiator hpending⟩
        · rintro (⟨hpending, -⟩ | hbegins)
          · exact hpending
          · cases hbegins
  | other => simp [Standing.begins, Turn.Ends]

/-- A run awaits its pending handshakes exactly when none of its turns disturbs one. -/
theorem pendingExact_throughout_iff (hreads : ext.ReadsIdentities) (past : List Entry) :
    loop.Throughout (fun before state => PendingExact ext loop.setup before (loop.standing state))
        past ↔
      loop.Always (fun _ state entry _ =>
        Undisturbed ext (loop.standing state) entry.turn) past := by
  constructor
  · intro hthroughout before state entry next hpass hbegun
    refine (hpass.pendingExact_iff hreads ?_).mp (hthroughout hpass.after hbegun)
    exact hthroughout hpass.before ((List.prefix_append _ _).trans hbegun)
  · intro halways
    refine Run.throughout ?_ ?_ halways
    · intro initiator
      simp [loop.start_standing, Standing.new, not_awaited_nil]
    · intro before state entry next hpass hexact hundisturbed
      exact (hpass.pendingExact_iff hreads hexact).mpr hundisturbed

/-- When no handshake is pending, a route that is selected begins one. -/
theorem Run.begins {happening : loop.Happening} {route : Route} (hrun : loop.Run past state)
    (hfree : (loop.standing state).pendingSession = none)
    (hselects : (loop.standing state).selects ext loop.setup (loop.turn happening) = some route) :
    ∃ next sent initiator, loop.handle happening state = some next ∧
      loop.effects next = loop.effects state ++ sent ∧
      (loop.standing next).pendingSession = some initiator ∧
      initiator.expectedPeer = (Engine.bindingOf route).1 ∧ .opens ext initiator ∈ sent := by
  cases hturn : loop.turn happening with
  | reported peer metadata inputs =>
      obtain ⟨next, hnext⟩ := loop.considers hrun.sound hturn
      obtain ⟨sent, hsent, hinits⟩ := loop.sends hrun.sound hnext
      have hbegins : (loop.standing state).begins ext loop.setup (loop.turn happening) =
          some (Standing.initiatorFor loop.setup route inputs) :=
        begins_eq_some.mpr ⟨peer, metadata, inputs, route, hturn, hfree, hselects, rfl⟩
      refine ⟨next, sent, _, hnext, hsent, ?_, rfl, (hinits _ _).mpr ⟨_, hbegins, rfl⟩⟩
      rw [loop.follows hrun.sound hnext, hturn]
      rw [hturn] at hbegins
      simp [Standing.after, hbegins]
  | responded | left | other =>
      rw [hturn] at hselects
      cases hselects

end Loop

end Awaiting

/-- In both loops, the pending handshake is the one awaited in every state of a run exactly when no
turn of the run disturbs a pending handshake; and a route that is selected while none is pending
begins one. -/
theorem pending_awaited_iff (hreads : ext.ReadsIdentities) (client : Binary) {past : List Entry}
    {state : (client.loop ext).State} (hrun : (client.loop ext).Run past state) :
    ((client.loop ext).Throughout (fun before middle =>
        PendingExact ext (client.loop ext).setup before ((client.loop ext).standing middle)) past ↔
      (client.loop ext).Always (fun _ middle entry _ =>
        Undisturbed ext ((client.loop ext).standing middle) entry.turn) past) ∧
    ∀ happening route, ((client.loop ext).standing state).pendingSession = none →
      ((client.loop ext).standing state).selects ext (client.loop ext).setup
        ((client.loop ext).turn happening) = some route →
      ∃ next sent initiator, (client.loop ext).handle happening state = some next ∧
        (client.loop ext).effects next = (client.loop ext).effects state ++ sent ∧
        ((client.loop ext).standing next).pendingSession = some initiator ∧
        initiator.expectedPeer = (Engine.bindingOf route).1 ∧ .opens ext initiator ∈ sent :=
  ⟨Loop.pendingExact_throughout_iff hreads past, fun _ _ => hrun.begins⟩

/-! ## A client that meets one relay -/

namespace ReferenceClient

/-- A response of a peer that holds a report. -/
def hears (source : UInt8) (json : Json) : Inputs × Engine.LoopEvent :=
  (inputs, .network (.discoveryResponse ⟨[source]⟩ 0 json.render))

theorem turn_hears (source : UInt8) {report : RelayMetadata} {json : Json}
    (hwritable : report.Writable) (hwritten : report.toJson reference = some json) :
    Engine.turn reference (hears source json) = .reported ⟨[source]⟩ report.truncated inputs := by
  have hread := readResponse_metadata reference.parsesJson reference.readsIdentities hwritable
    hwritten
  exact Response.turn_eq_reported.mpr ⟨readers_agree hread nofun _ (by simp), rfl, rfl⟩

/-- What the client knows once it has met relay 2. -/
def meeting : Standing := ⟨[candidate 2], some (initiator .oneHop), none⟩

theorem accepted (mode : RouteMode) (peer : UInt8) :
    Standing.acceptedBy (setup mode) (metadata peer) inputs = some (candidate peer) :=
  Standing.acceptedBy_eq_some.mpr (accepts mode peer)

theorem selects_meeting (source : UInt8) :
    Standing.new.selects reference (setup .oneHop) (.reported ⟨[source]⟩ (metadata 2) inputs) =
      some (.oneHop (.ofCandidate (candidate 2))) := by
  simp only [Standing.selects, accepted, Option.bind_eq_bind, Option.bind_some]
  exact Standing.selectedFrom_eq_some.mpr selects_oneHop

theorem after_meeting (source : UInt8) :
    Standing.new.after reference (setup .oneHop) true (.reported ⟨[source]⟩ (metadata 2) inputs) =
      meeting := by
  have hbegins : Standing.new.begins reference (setup .oneHop)
      (.reported ⟨[source]⟩ (metadata 2) inputs) = some (initiator .oneHop) :=
    Loop.begins_eq_some.mpr ⟨_, _, _, _, rfl, rfl, selects_meeting source, rfl⟩
  simp only [Standing.after, hbegins, Standing.gained, accepted, meeting]
  rfl

/-- The client has met relay 2 and begun a handshake with it. -/
theorem met (source : UInt8) : ∃ sent engine,
    (Engine.toLoop reference (setup .oneHop)).Pass [] Engine.new
      ⟨.reported ⟨[source]⟩ (metadata 2) inputs, sent⟩ engine ∧ engine.standing = meeting := by
  have hstart : (Engine.toLoop reference (setup .oneHop)).Run [] Engine.new := .start
  have hturn : (Engine.toLoop reference (setup .oneHop)).turn (hears source (report 2)) = _ :=
    turn_hears source (metadata_writable 2) (report_eq 2)
  obtain ⟨sent, engine, hpass⟩ := hstart.considered hturn
  exact ⟨sent, engine, hpass, hpass.standing.trans (after_meeting source)⟩

end ReferenceClient

/-- The handshake with the relay that was met is the one awaited. -/
theorem pending_awaited_iff_met : ∃ past engine,
    ((Binary.tunnel (ReferenceClient.setup .oneHop)).loop reference).Run past engine ∧
      reference.ReadsIdentities ∧
      Awaited reference (ReferenceClient.setup .oneHop) past
        (ReferenceClient.initiator .oneHop) := by
  obtain ⟨sent, engine, hpass, hstanding⟩ := ReferenceClient.met 2
  refine ⟨_, engine, hpass.after, reference.readsIdentities, ?_⟩
  have hexact := (pending_awaited_iff reference.readsIdentities
    (.tunnel (ReferenceClient.setup .oneHop)) hpass.after).1.mpr ?_
  · refine (hexact hpass.after List.prefix_rfl _).mp ?_
    exact congrArg Standing.pendingSession hstanding
  · intro before state entry next hfirst hbegun initiator hpending
    obtain rfl : before = [] := by
      have hlength := hbegun.length_le
      simpa using hlength
    rw [hfirst.before.standing_eq] at hpending
    cases hpending

/-- The relay leaves before it has answered: its handshake stays pending and is not awaited. -/
theorem left_still_pending : ∃ past engine,
    ((Binary.tunnel (ReferenceClient.setup .oneHop)).loop reference).Run past engine ∧
      ¬ PendingExact reference (ReferenceClient.setup .oneHop) past engine.standing := by
  obtain ⟨sent, engine, hpass, hstanding⟩ := ReferenceClient.met 2
  have hstart : PendingExact reference (ReferenceClient.setup .oneHop) [] Engine.new.standing :=
    fun initiator => iff_of_false nofun not_awaited_nil
  have hmet := (hpass.pendingExact_iff reference.readsIdentities hstart).mpr nofun
  have hleaves : (Engine.toLoop reference (ReferenceClient.setup .oneHop)).handle
      (ReferenceClient.inputs, .network (.peerDisconnected ⟨[2]⟩)) engine = some _ := rfl
  obtain ⟨sent', hleft⟩ := hpass.after.handled hleaves
  refine ⟨_, _, hleft.after, fun hexact => ?_⟩
  have hundisturbed := (hleft.pendingExact_iff reference.readsIdentities hmet).mp hexact
  refine hundisturbed (ReferenceClient.initiator .oneHop) ?_ rfl
  exact congrArg Standing.pendingSession hstanding

/-! ## Runs in which a session is left alone -/

/-- No init is sent while a session is active, and the session stays until a relay of its route
leaves. -/
structure LeavesSession (ext : Externals) (before : Standing) (entry : Entry) (after : Standing) :
    Prop where
  quiet : ∀ peer init, .request peer (HandshakeInit.toJson ext init).render ∈ entry.sent →
    before.activeSession = none
  stays : ∀ session ∈ before.activeSession, after.activeSession = some session ∨
    ∃ peer ∈ session.route.peers, entry.turn = .left peer

/-- A route is selected while no handshake is pending only when no session is active. -/
def Unrivalled (ext : Externals) (setup : Setup) (standing : Standing) (turn : Turn) : Prop :=
  ∀ route, standing.selects ext setup turn = some route → standing.pendingSession = none →
    standing.activeSession = none

/-- A handshake is pending only when no session is active. -/
def Exclusive (standing : Standing) : Prop :=
  standing.pendingSession ≠ none → standing.activeSession = none

namespace Loop

variable {loop : Loop ext} {past : List Entry} {entry : Entry} {state next : loop.State}

theorem Pass.exclusive (hpass : loop.Pass past state entry next)
    (hexclusive : Exclusive (loop.standing state))
    (hunrivalled : Unrivalled ext loop.setup (loop.standing state) entry.turn) :
    Exclusive (loop.standing next) := by
  intro hpending
  rw [hpass.standing] at hpending ⊢
  generalize loop.standing state = standing at *
  cases hturn : entry.turn with
  | reported peer metadata inputs =>
      rw [hturn] at hpending hunrivalled
      change standing.activeSession = none
      cases hbegins : standing.begins ext loop.setup (.reported peer metadata inputs) with
      | none => exact hexclusive (by simpa [Standing.after, hbegins] using hpending)
      | some begun =>
          obtain ⟨_, _, _, route, _, hfree, hselects, -⟩ := begins_eq_some.mp hbegins
          exact hunrivalled route hselects hfree
  | responded peer response =>
      rw [hturn] at hpending
      exact absurd rfl hpending
  | left peer =>
      rw [hturn] at hpending
      have hactive := hexclusive (by simpa [Standing.after, Standing.begins] using hpending)
      simp [Standing.after, Standing.without, hactive]
  | other =>
      rw [hturn, Standing.after_other] at hpending
      rw [Standing.after_other]
      exact hexclusive hpending

theorem Pass.leavesSession (hpass : loop.Pass past state entry next)
    (hexclusive : Exclusive (loop.standing state))
    (hunrivalled : Unrivalled ext loop.setup (loop.standing state) entry.turn) :
    LeavesSession ext (loop.standing state) entry (loop.standing next) where
  quiet peer init hsent := by
    obtain ⟨initiator, hbegins, -⟩ := (hpass.sent peer init).mp hsent
    obtain ⟨_, _, _, route, _, hfree, hselects, -⟩ := begins_eq_some.mp hbegins
    exact hunrivalled route hselects hfree
  stays session hactive := by
    rw [hpass.standing]
    generalize loop.standing state = standing at *
    cases hturn : entry.turn with
    | reported | other => exact .inl hactive
    | responded peer response =>
        -- a response completes nothing, since no handshake is pending
        have hfree : standing.pendingSession = none := by
          by_contra hpending
          rw [hexclusive hpending] at hactive
          cases hactive
        exact .inl (by simpa [Standing.after, Standing.completes, hfree] using hactive)
    | left peer =>
        by_cases hcontains : peer ∈ session.route.peers
        · exact .inr ⟨peer, hcontains, rfl⟩
        · refine .inl ?_
          rw [Option.mem_def] at hactive
          simp [Standing.after, Standing.without, hactive, Option.filter, RouteBinding.contains,
            hcontains]

theorem exclusive_throughout
    (halways : loop.Always (fun _ state entry _ =>
      Unrivalled ext loop.setup (loop.standing state) entry.turn) past) :
    loop.Throughout (fun _ state => Exclusive (loop.standing state)) past := by
  refine Run.throughout ?_ ?_ halways
  · rw [loop.start_standing]
    exact fun hpending => absurd rfl hpending
  · intro before state entry next hpass hexclusive hunrivalled
    exact hpass.exclusive hexclusive hunrivalled

end Loop

/-- In both loops, sessions are left alone in every pass of a run exactly when no route is selected
beside an active session. -/
theorem session_kept_iff (client : Binary) (past : List Entry) :
    (client.loop ext).Always (fun _ state entry next =>
        LeavesSession ext ((client.loop ext).standing state) entry
          ((client.loop ext).standing next)) past ↔
      (client.loop ext).Always (fun _ state entry _ =>
        Unrivalled ext (client.loop ext).setup
          ((client.loop ext).standing state) entry.turn) past := by
  constructor
  · intro halways before state entry next hpass hbegun route hselects hfree
    cases hturn : entry.turn with
    | reported peer metadata inputs =>
        have hbegins := Loop.begins_eq_some.mpr
          ⟨peer, metadata, inputs, route, hturn, hfree, hselects, rfl⟩
        refine (halways hpass hbegun).quiet _ _ ((hpass.sent _ _).mpr ⟨_, hbegins, rfl⟩)
    | responded | left | other =>
        rw [hturn] at hselects
        cases hselects
  · intro halways before state entry next hpass hbegun
    refine hpass.leavesSession ?_ (halways hpass hbegun)
    exact Loop.exclusive_throughout halways hpass.before
      ((List.prefix_append _ _).trans hbegun)

namespace ReferenceClient

theorem selects_beside : RouteSelector.select reference (reference.peerOf (setup .oneHop).identity)
    (RelayRanking.rank reference [candidate 2, candidate 3] inputs.rankedAt)
    (setup .oneHop).routePolicy inputs.selectedAt = .ok (.oneHop (.ofCandidate (candidate 2))) := by
  rw [rank_pair, RouteSelector.select]
  simp [rank_pair, eligible]
  rfl

/-- A report of relay 3 makes the client that knows relay 2 select relay 2 again. -/
theorem selects_again (source : UInt8) {standing : Standing}
    (hcandidates : standing.candidates = [candidate 2]) :
    standing.selects reference (setup .oneHop) (.reported ⟨[source]⟩ (metadata 3) inputs) =
      some (.oneHop (.ofCandidate (candidate 2))) := by
  simp only [Standing.selects, accepted, Option.bind_eq_bind, Option.bind_some, hcandidates]
  exact Standing.selectedFrom_eq_some.mpr selects_beside

/-- The client has a session with relay 2. -/
theorem answered : ∃ past engine, (Engine.toLoop reference (setup .oneHop)).Run past engine ∧
    engine.standing = ⟨[candidate 2], none, some (.ofSession (session .oneHop))⟩ := by
  obtain ⟨sent, engine, hpass, hstanding⟩ := met 2
  have hshared : allZero (reference.diffieHellman (Vector.replicate 32 1) (Vector.replicate 32 2)) =
      false := by decide +kernel
  have hpending : engine.pendingSession = some (initiator .oneHop) :=
    congrArg Standing.pendingSession hstanding
  have hcandidates : engine.candidates = [candidate 2] := congrArg Standing.candidates hstanding
  have hanswer := Engine.handle_answer (setup .oneHop) inputs ⟨[2]⟩ 0 ⟨[2]⟩ (Vector.replicate 32 2)
    reference.parsesJson reference.readsIdentities reference.signaturesVerify hpending rfl rfl
    hshared
  obtain ⟨sent', hpassed⟩ := hpass.after.handled (Engine.toLoop_handle hanswer)
  refine ⟨_, _, hpassed.after, ?_⟩
  change Standing.mk engine.candidates none (some (sessionOf (Node.freshChannel _))) = _
  rw [hcandidates]
  rfl

end ReferenceClient

/-- A report of another relay makes the client begin a handshake beside its session. -/
theorem begun_beside_session : ∃ past engine,
    ((Binary.tunnel (ReferenceClient.setup .oneHop)).loop reference).Run past engine ∧
      ¬ ((Binary.tunnel (ReferenceClient.setup .oneHop)).loop reference).Always
        (fun _ state entry next => LeavesSession reference
          (((Binary.tunnel (ReferenceClient.setup .oneHop)).loop reference).standing state) entry
          (((Binary.tunnel (ReferenceClient.setup .oneHop)).loop reference).standing
            next)) past := by
  obtain ⟨past, engine, hrun, hstanding⟩ := ReferenceClient.answered
  have hturn : (Engine.toLoop reference (ReferenceClient.setup .oneHop)).turn
      (ReferenceClient.hears 3 (ReferenceClient.report 3)) = _ :=
    ReferenceClient.turn_hears 3 (ReferenceClient.metadata_writable 3) (ReferenceClient.report_eq 3)
  obtain ⟨sent, next, hpass⟩ := hrun.considered hturn
  refine ⟨_, next, hpass.after, fun halways => ?_⟩
  have hbegins : Standing.begins reference (ReferenceClient.setup .oneHop) engine.standing
      (.reported ⟨[3]⟩ (ReferenceClient.metadata 3) ReferenceClient.inputs) =
        some (ReferenceClient.initiator .oneHop) := by
    rw [hstanding]
    exact Loop.begins_eq_some.mpr ⟨_, _, _, _, rfl, rfl, ReferenceClient.selects_again 3 rfl, rfl⟩
  have hquiet := (halways hpass List.prefix_rfl).quiet _ _
    ((hpass.sent _ _).mpr ⟨_, hbegins, rfl⟩)
  have hactive := congrArg Standing.activeSession hstanding
  exact absurd (hquiet.symm.trans hactive) nofun

end Client
