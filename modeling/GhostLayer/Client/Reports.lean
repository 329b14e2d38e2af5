import GhostLayer.Client.Handshakes
import GhostLayer.Relay.Selection

/-! # Candidates and the reports they come from

Every candidate comes from a report that named its relay and passed the check of
its arrival. Nothing removes or changes a candidate afterwards, so that a route
can be selected on the strength of a report that a later one contradicts, or that
has gone stale. The peer that sent a report is not compared with the relay that
the report names.
-/

namespace Client

open Foundation Network Relay

variable {ext : Externals}

/-! ## Where candidates come from -/

/-- A report with what the client read of its clock when it came. -/
structure Report where
  metadata : RelayMetadata
  inputs : Inputs

/-- A candidate was made of a report that a pass brought. -/
def Entry.Brings (setup : Setup) (entry : Entry) (candidate : RelayCandidate) : Prop :=
  ∃ source metadata inputs, entry.turn = .reported source metadata inputs ∧
    metadata.peerId = candidate.peerId ∧
    RelayCandidate.fromMetadata setup.parseMultiaddr metadata setup.requirements
      inputs.checkedAt = .ok candidate

theorem gained_eq_some {setup : Setup} {entry : Entry} {candidate : RelayCandidate} :
    Standing.gained setup entry.turn = some candidate ↔ entry.Brings setup candidate := by
  cases hturn : entry.turn with
  | reported source metadata inputs =>
      simp only [Standing.gained, Standing.acceptedBy_eq_some, Entry.Brings, hturn]
      constructor
      · intro haccepted
        exact ⟨source, metadata, inputs, rfl,
          (RelayCandidate.fromMetadata_madeOf haccepted).peerId.symm, haccepted⟩
      · rintro ⟨_, _, _, hsame, -, haccepted⟩
        cases hsame
        exact haccepted
  | responded | left | other => simp [Standing.gained, Entry.Brings, hturn]

namespace Loop

variable {loop : Loop ext} {past : List Entry} {entry : Entry} {state next : loop.State}

theorem Pass.candidates (hpass : loop.Pass past state entry next) :
    (loop.standing next).candidates =
      (loop.standing state).candidates ++ (Standing.gained loop.setup entry.turn).toList := by
  rw [hpass.standing]
  rfl

theorem Run.candidates_brought (hrun : loop.Run past state) :
    ∀ candidate ∈ (loop.standing state).candidates, ∃ entry ∈ past,
      entry.Brings loop.setup candidate := by
  induction hrun with
  | start => simp [loop.start_standing, Standing.new]
  | step hbefore handles sends ih =>
      intro candidate hmem
      rw [(hbefore.pass handles sends).candidates, List.mem_append, Option.mem_toList] at hmem
      rcases hmem with hold | hnew
      · obtain ⟨entry, hentry, hbrings⟩ := ih candidate hold
        exact ⟨entry, by simp [hentry], hbrings⟩
      · exact ⟨_, by simp, gained_eq_some.mp hnew⟩

/-- The list of candidates only grows. -/
theorem Run.candidates_grow {before : List Entry} {middle : loop.State}
    (hrun : loop.Run past state) (hbefore : loop.Run before middle) (hbegun : before <+: past) :
    (loop.standing middle).candidates <+: (loop.standing state).candidates := by
  induction hrun with
  | start =>
      obtain rfl := List.prefix_nil.mp hbegun
      rw [hbefore.standing_unique .start]
  | step hearlier handles sends ih =>
      rcases List.prefix_concat_iff.mp hbegun with rfl | hshorter
      · rw [hbefore.standing_unique (.step hearlier handles sends)]
      · rw [(hearlier.pass handles sends).candidates]
        exact (ih hshorter).trans (List.prefix_append _ _)

end Loop

/-- In both loops, every candidate was made of a report that some peer sent, that named the relay of
the candidate and that passed the check when it came; no candidate is changed or removed later. -/
theorem candidates_reported (client : Binary) {past : List Entry}
    {state : (client.loop ext).State} (hrun : (client.loop ext).Run past state) :
    (∀ candidate ∈ ((client.loop ext).standing state).candidates, ∃ entry ∈ past,
      entry.Brings (client.loop ext).setup candidate) ∧
    ∀ before middle, (client.loop ext).Run before middle → before <+: past →
      ((client.loop ext).standing middle).candidates <+:
        ((client.loop ext).standing state).candidates :=
  ⟨hrun.candidates_brought, fun _ _ hbefore hbegun => hrun.candidates_grow hbefore hbegun⟩

theorem candidates_reported_met : ∃ past engine,
    ((Binary.tunnel (ReferenceClient.setup .oneHop)).loop reference).Run past engine ∧
      ∃ entry ∈ past, entry.Brings (ReferenceClient.setup .oneHop)
        (ReferenceClient.candidate 2) := by
  obtain ⟨sent, engine, hpass, hstanding⟩ := ReferenceClient.met 2
  refine ⟨_, engine, hpass.after, ?_⟩
  have hmem : ReferenceClient.candidate 2 ∈ engine.standing.candidates := by
    rw [hstanding]
    exact List.mem_singleton_self _
  exact (candidates_reported (.tunnel (ReferenceClient.setup .oneHop)) hpass.after).1 _ hmem

/-- Relay 3 reports in the name of relay 2, which has sent nothing: the client lists relay 2. -/
theorem listed_by_another : ∃ past engine,
    ((Binary.tunnel (ReferenceClient.setup .oneHop)).loop reference).Run past engine ∧
      ¬ ∀ candidate ∈ engine.standing.candidates, ∃ entry ∈ past, ∃ metadata inputs,
        entry.turn = .reported candidate.peerId metadata inputs := by
  obtain ⟨sent, engine, hpass, hstanding⟩ := ReferenceClient.met 3
  refine ⟨_, engine, hpass.after, fun hall => ?_⟩
  have hmem : ReferenceClient.candidate 2 ∈ engine.standing.candidates := by
    rw [hstanding]
    exact List.mem_singleton_self _
  obtain ⟨entry, hentry, _, _, hturn⟩ := hall _ hmem
  obtain rfl := List.mem_singleton.mp hentry
  cases hturn

/-! ## The latest report of a relay -/

/-- The report of a pass that names a relay. -/
def Entry.reportOf (peer : PeerId) (entry : Entry) : Option Report :=
  match entry.turn with
  | .reported _ metadata inputs => if metadata.peerId = peer then some ⟨metadata, inputs⟩ else none
  | _ => none

/-- The last report that names a relay. -/
def latest (past : List Entry) (peer : PeerId) : Option Report :=
  (past.filterMap (Entry.reportOf peer)).getLast?

theorem latest_append (past : List Entry) (entry : Entry) (peer : PeerId) :
    latest (past ++ [entry]) peer = (entry.reportOf peer).or (latest past peer) := by
  unfold latest
  rw [List.filterMap_append]
  cases hreport : entry.reportOf peer with
  | none => simp [hreport]
  | some report => simp [hreport]

namespace Report

/-- The report was accepted when it came, as a candidate that routes may be made of. -/
def Eligible (ext : Externals) (setup : Setup) (report : Report) : Prop :=
  ∃ candidate, Standing.acceptedBy setup report.metadata report.inputs = some candidate ∧
    RouteSelector.eligible (ext.peerOf setup.identity) setup.routePolicy candidate = true

/-- None of the times of the report is older than allowed. -/
def Fresh (setup : Setup) (report : Report) (now : Int) : Prop :=
  ∀ time ∈ report.metadata.timestamp :: report.metadata.lastHeartbeat.toList,
    ∃ age, durationSince now time = some age ∧ age ≤ setup.heartbeatFreshness

end Report

/-- The latest report of a relay was eligible and is still fresh. -/
def Current (ext : Externals) (setup : Setup) (past : List Entry)
    (peer : PeerId) (now : Int) : Prop :=
  ∃ report, latest past peer = some report ∧ report.Eligible ext setup ∧ report.Fresh setup now

/-- Every hop of a route that is selected in a pass is of a relay that is current. -/
def SelectsCurrent (ext : Externals) (setup : Setup) (past : List Entry) (standing : Standing)
    (entry : Entry) : Prop :=
  ∀ source metadata inputs route, entry.turn = .reported source metadata inputs →
    standing.selects ext setup entry.turn = some route →
      ∀ hop ∈ route.hops, Current ext setup (past ++ [entry]) hop.peerId inputs.selectedAt

/-- A candidate that a route could be made of. -/
def Standing.Offers (ext : Externals) (setup : Setup) (standing : Standing)
    (candidate : RelayCandidate) : Prop :=
  candidate ∈ standing.candidates ∧
    RouteSelector.eligible (ext.peerOf setup.identity) setup.routePolicy candidate = true

/-- A pass leaves no candidate behind that its relay has outlived: a report of a relay with an
eligible candidate is itself accepted and eligible, and when a route is selected, the latest report
of every relay with an eligible candidate is fresh. -/
structure Renews (ext : Externals) (setup : Setup) (past : List Entry) (before : Standing)
    (entry : Entry) (after : Standing) : Prop where
  confirms : ∀ source metadata inputs candidate, entry.turn = .reported source metadata inputs →
    before.Offers ext setup candidate → candidate.peerId = metadata.peerId →
      Report.Eligible ext setup ⟨metadata, inputs⟩
  lasts : ∀ source metadata inputs route, entry.turn = .reported source metadata inputs →
    before.selects ext setup entry.turn = some route → ∀ candidate,
      after.Offers ext setup candidate →
      ∀ report ∈ latest (past ++ [entry]) candidate.peerId, report.Fresh setup inputs.selectedAt

/-- The latest report of every relay with an eligible candidate was itself eligible. -/
def Upheld (ext : Externals) (setup : Setup) (past : List Entry) (standing : Standing) : Prop :=
  ∀ candidate, standing.Offers ext setup candidate →
    ∃ report, latest past candidate.peerId = some report ∧ report.Eligible ext setup

theorem Entry.reportOf_eq_some {entry : Entry} {peer : PeerId} {report : Report} :
    entry.reportOf peer = some report ↔
      ∃ source, entry.turn = .reported source report.metadata report.inputs ∧
        report.metadata.peerId = peer := by
  unfold Entry.reportOf
  cases entry.turn with
  | reported source metadata inputs =>
      simp only [Option.ite_none_right_eq_some, Option.some.injEq, Turn.reported.injEq]
      constructor
      · rintro ⟨hpeer, rfl⟩
        exact ⟨source, ⟨rfl, rfl, rfl⟩, hpeer⟩
      · rintro ⟨_, ⟨-, rfl, rfl⟩, hpeer⟩
        exact ⟨hpeer, rfl⟩
  | responded | left | other => simp

namespace Loop

variable {loop : Loop ext} {past : List Entry} {entry : Entry} {state next : loop.State}

theorem Pass.upheld (hpass : loop.Pass past state entry next)
    (hupheld : Upheld ext loop.setup past (loop.standing state))
    (hrenews : Renews ext loop.setup past (loop.standing state) entry (loop.standing next)) :
    Upheld ext loop.setup (past ++ [entry]) (loop.standing next) := by
  rintro candidate ⟨hmem, heligible⟩
  rw [hpass.candidates, List.mem_append, Option.mem_toList] at hmem
  rw [latest_append]
  rcases hmem with hold | hnew
  · cases hreport : entry.reportOf candidate.peerId with
    | none => exact hupheld candidate ⟨hold, heligible⟩
    | some report =>
        obtain ⟨source, hturn, hpeer⟩ := Entry.reportOf_eq_some.mp hreport
        exact ⟨report, rfl, hrenews.confirms _ _ _ candidate hturn ⟨hold, heligible⟩ hpeer.symm⟩
  · obtain ⟨source, metadata, inputs, hturn, hpeer, haccepted⟩ := gained_eq_some.mp hnew
    have hreport : entry.reportOf candidate.peerId = some ⟨metadata, inputs⟩ :=
      Entry.reportOf_eq_some.mpr ⟨source, hturn, hpeer⟩
    rw [hreport]
    exact ⟨_, rfl, candidate, Standing.acceptedBy_eq_some.mpr haccepted, heligible⟩

/-- The hops of a selected route are candidates of the list as it is then. -/
theorem Pass.hops_offered {route : Route} (hpass : loop.Pass past state entry next)
    (hselects : (loop.standing state).selects ext loop.setup entry.turn = some route) :
    ∀ hop ∈ route.hops, ∃ candidate, (loop.standing next).Offers ext loop.setup candidate ∧
      hop = .ofCandidate candidate := by
  intro hop hhop
  cases hturn : entry.turn with
  | reported source metadata inputs =>
      rw [hturn] at hselects
      obtain ⟨gained, haccepted, hselected⟩ := Option.bind_eq_some_iff.mp hselects
      have hroute := Standing.selectedFrom_eq_some.mp hselected
      obtain ⟨candidate, hmem, heligible, rfl⟩ := (RouteSelector.select_hops hroute).1 hop hhop
      refine ⟨candidate, ⟨?_, heligible⟩, rfl⟩
      rw [hpass.candidates, hturn, Standing.gained, haccepted]
      exact List.mem_mergeSort.mp hmem
  | responded | left | other =>
      rw [hturn] at hselects
      cases hselects

theorem Pass.selectsCurrent (hpass : loop.Pass past state entry next)
    (hupheld : Upheld ext loop.setup (past ++ [entry]) (loop.standing next))
    (hrenews : Renews ext loop.setup past (loop.standing state) entry (loop.standing next)) :
    SelectsCurrent ext loop.setup past (loop.standing state) entry := by
  intro source metadata inputs route hturn hselects hop hhop
  obtain ⟨candidate, hoffers, rfl⟩ := hpass.hops_offered hselects hop hhop
  obtain ⟨report, hlatest, heligible⟩ := hupheld candidate hoffers
  exact ⟨report, hlatest, heligible,
    hrenews.lasts source metadata inputs route hturn hselects candidate hoffers report hlatest⟩

theorem upheld_throughout
    (halways : loop.Always (fun before state entry next =>
      Renews ext loop.setup before (loop.standing state) entry (loop.standing next)) past) :
    loop.Throughout (fun before state =>
      Upheld ext loop.setup before (loop.standing state)) past := by
  refine Run.throughout ?_ ?_ halways
  · rintro candidate ⟨hmem, -⟩
    rw [loop.start_standing] at hmem
    exact absurd hmem List.not_mem_nil
  · intro before state entry next hpass hupheld hrenews
    exact hpass.upheld hupheld hrenews

end Loop

/-- In both loops, every hop of every route that is selected in a run is of a relay that is current,
when every pass of the run leaves no outlived candidate behind. -/
theorem selected_current (client : Binary) {past : List Entry}
    (halways : (client.loop ext).Always (fun before state entry next =>
      Renews ext (client.loop ext).setup before ((client.loop ext).standing state) entry
        ((client.loop ext).standing next)) past) :
    (client.loop ext).Always (fun before state entry _ =>
      SelectsCurrent ext (client.loop ext).setup before ((client.loop ext).standing state) entry)
      past := by
  intro before state entry next hpass hbegun
  refine hpass.selectsCurrent ?_ (halways hpass hbegun)
  exact Loop.upheld_throughout halways hpass.after hbegun

theorem selected_current_met : ∃ past engine,
    ((Binary.tunnel (ReferenceClient.setup .oneHop)).loop reference).Run past engine ∧
      Current reference (ReferenceClient.setup .oneHop) past ⟨[2]⟩ 0 := by
  obtain ⟨sent, engine, hpass, -⟩ := ReferenceClient.met 2
  refine ⟨_, engine, hpass.after, ?_⟩
  have hrenews : ((Binary.tunnel (ReferenceClient.setup .oneHop)).loop reference).Always
      (fun before state entry next => Renews reference (ReferenceClient.setup .oneHop) before
        (((Binary.tunnel (ReferenceClient.setup .oneHop)).loop reference).standing state) entry
        (((Binary.tunnel (ReferenceClient.setup .oneHop)).loop reference).standing next))
      ([] ++ [⟨.reported ⟨[2]⟩ (ReferenceClient.metadata 2) ReferenceClient.inputs, sent⟩]) := by
    intro before state entry next hfirst hbegun
    obtain rfl : before = [] := by
      have hlength := hbegun.length_le
      simpa using hlength
    obtain rfl := List.mem_singleton.mp (hbegun.subset (List.mem_singleton_self entry))
    constructor
    · rintro _ _ _ candidate - ⟨hmem, -⟩ -
      rw [hfirst.before.standing_eq] at hmem
      exact absurd hmem List.not_mem_nil
    · intro source metadata inputs route hturn _ candidate _ report hreport
      cases hturn
      rw [latest_append] at hreport
      rcases Option.or_eq_some_iff.mp hreport with hnew | ⟨-, hold⟩
      · obtain ⟨_, hsame, -⟩ := Entry.reportOf_eq_some.mp hnew
        obtain ⟨-, hmetadata, -⟩ := Turn.reported.inj hsame
        rw [Report.Fresh, ← hmetadata]
        rintro time htime
        obtain rfl := List.mem_singleton.mp htime
        exact ⟨0, by decide, Nat.zero_le _⟩
      · cases hold
  exact selected_current (.tunnel (ReferenceClient.setup .oneHop)) hrenews hpass List.prefix_rfl
    _ _ _ _ rfl (ReferenceClient.selects_meeting 2) _ (List.mem_singleton_self _)

namespace ReferenceClient

/-- What relay 2 reports when it shuts down. -/
def offline : RelayMetadata := { metadata 2 with status := .offline }

theorem offline_writable : offline.Writable := ⟨(metadata_writable 2).timestamp, nofun⟩

theorem after_offline :
    meeting.after reference (setup .oneHop) true (.reported ⟨[2]⟩ offline inputs) = meeting := by
  have hrejected : Standing.acceptedBy (setup .oneHop) offline inputs = none := rfl
  simp [Standing.after, Standing.gained, Standing.begins, Standing.selects, hrejected]

end ReferenceClient

/-- Relay 2 reports that it is offline, and the client selects it for what it reported before. -/
theorem offline_selected : ∃ past engine,
    ((Binary.tunnel (ReferenceClient.setup .oneHop)).loop reference).Run past engine ∧
      ¬ ((Binary.tunnel (ReferenceClient.setup .oneHop)).loop reference).Always
        (fun before state entry _ => SelectsCurrent reference (ReferenceClient.setup .oneHop) before
          (((Binary.tunnel (ReferenceClient.setup .oneHop)).loop reference).standing state) entry)
        past := by
  obtain ⟨sent, engine, hpass, hstanding⟩ := ReferenceClient.met 2
  have hoffline : (Engine.toLoop reference (ReferenceClient.setup .oneHop)).turn
      (ReferenceClient.hears 2 (.obj (RelayMetadata.fieldNames.zip
        (ReferenceClient.offline.values reference)))) = _ :=
    ReferenceClient.turn_hears 2 ReferenceClient.offline_writable
      ReferenceClient.offline_writable.toJson
  obtain ⟨sent₂, engine₂, hpass₂⟩ := hpass.after.considered hoffline
  have hstanding₂ : engine₂.standing = ReferenceClient.meeting := by
    refine hpass₂.standing.trans ?_
    change engine.standing.after reference (ReferenceClient.setup .oneHop) true _ = _
    rw [hstanding]
    exact ReferenceClient.after_offline
  have hthird : (Engine.toLoop reference (ReferenceClient.setup .oneHop)).turn
      (ReferenceClient.hears 3 (ReferenceClient.report 3)) = _ :=
    ReferenceClient.turn_hears 3 (ReferenceClient.metadata_writable 3) (ReferenceClient.report_eq 3)
  obtain ⟨sent₃, engine₃, hpass₃⟩ := hpass₂.after.considered hthird
  refine ⟨_, engine₃, hpass₃.after, fun halways => ?_⟩
  have hselects := ReferenceClient.selects_again 3 (congrArg Standing.candidates hstanding₂)
  obtain ⟨report, hlatest, ⟨_, haccepted, -⟩, -⟩ := halways hpass₃ List.prefix_rfl _ _ _ _ rfl
    hselects _ (List.mem_singleton_self _)
  -- the report of relay 3 does not name relay 2, so that its latest report is the one offline
  have hreport : some (⟨ReferenceClient.offline, ReferenceClient.inputs⟩ : Report) =
      some report := by
    rw [← hlatest]
    rfl
  obtain rfl := Option.some.inj hreport
  cases haccepted

end Client
