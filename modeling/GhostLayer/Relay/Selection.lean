import GhostLayer.Network.Production
import GhostLayer.Relay.RoutingLaws

/-! # What a selection depends on

Candidates are compared by a key, so a ranking is the only sorted arrangement of
reports of different relays, in whatever order they came in. A route is made of
the best of the candidates that pass the filters. The filter for QUIC reads the
printed address, in which a value can stand for a protocol; discovery and
selection look for the required transport in different places.
-/

namespace Relay

open Foundation Network

variable {ext : Externals} {now : Int}

namespace RelayRanking

/-! ## The order of candidates -/

theorem compareOfLessAndEq_eq_eq {α : Type} [LinearOrder α] (left right : α) :
    compareOfLessAndEq left right = .eq ↔ left = right := by
  unfold compareOfLessAndEq
  split
  next hlt => simp [hlt.ne]
  next hge => simp

theorem compare_eq_iff (left right : RelayCandidate) :
    compare ext left right now = .eq ↔ key ext now left = key ext now right := by
  unfold compare key
  simp only [Ordering.then_eq_eq, compareTexts, compareOfLessAndEq_eq_eq,
    EmbeddingLike.apply_eq_iff_eq,
    Prod.mk.injEq]
  simp only [eq_comm]

theorem rank_perm (candidates : List RelayCandidate) :
    (rank ext candidates now).Perm candidates :=
  List.mergeSort_perm _ _

theorem rank_sorted (candidates : List RelayCandidate) :
    (rank ext candidates now).Pairwise (fun left right => compare ext left right now ≠ .gt) := by
  simp only [compare_ne_gt_iff]
  rw [rank_pairwise_iff]
  refine List.pairwise_of_forall fun left right => ?_
  split
  next hle => exact hle
  next hgt => exact (le_total _ _).resolve_left hgt

theorem peerId_of_key_eq (hpeers : Function.Injective ext.peerText) {left right : RelayCandidate}
    (hkey : key ext now left = key ext now right) : left.peerId = right.peerId := by
  simp only [key, EmbeddingLike.apply_eq_iff_eq, Prod.mk.injEq] at hkey
  exact hpeers hkey.2.2.2.2

/-- Reports of different relays have one ranking. -/
theorem rank_eq_of_perm (hpeers : Function.Injective ext.peerText)
    {first second : List RelayCandidate} (hperm : first.Perm second)
    (hdistinct : (first.map RelayCandidate.peerId).Nodup) :
    rank ext first now = rank ext second now := by
  refine List.Perm.eq_of_pairwise ?_ (rank_sorted first) (rank_sorted second)
    ((rank_perm first).trans (hperm.trans (rank_perm second).symm))
  intro left right hleft hright hle hge
  have hkey := le_antisymm ((compare_ne_gt_iff left right now).mp hle)
    ((compare_ne_gt_iff right left now).mp hge)
  have hfirst : left ∈ first := (rank_perm first).mem_iff.mp hleft
  have hsecond : right ∈ first := hperm.mem_iff.mpr ((rank_perm second).mem_iff.mp hright)
  exact List.inj_on_of_nodup_map hdistinct hfirst hsecond (peerId_of_key_eq hpeers hkey)

end RelayRanking

/-! ## Eligible candidates -/

namespace RouteSelector

variable {clientPeerId : PeerId} {candidates : List RelayCandidate} {policy : RouteSelectionPolicy}
  {components : Multiaddr → List Multiaddr.Component}

/-- What a relay must report to be a hop, apart from its address. -/
structure Admissible (clientPeerId : PeerId) (policy : RouteSelectionPolicy)
    (candidate : RelayCandidate) : Prop where
  other : candidate.peerId ≠ clientPeerId
  online : candidate.status = .online
  healthy : candidate.health = .healthy
  transport : policy.requiredTransport ∈ candidate.capabilities
  capabilities : ∀ required ∈ policy.requiredCapabilities, required ∈ candidate.capabilities

/-- A relay that can be a hop, where the components of every address are given. -/
structure Eligible (clientPeerId : PeerId) (policy : RouteSelectionPolicy)
    (components : Multiaddr → List Multiaddr.Component) (candidate : RelayCandidate) : Prop
    extends Admissible clientPeerId policy candidate where
  quic : .quicV1 ∈ components candidate.address

theorem eligible_iff {candidate : RelayCandidate} :
    eligible clientPeerId policy candidate = true ↔ Admissible clientPeerId policy candidate ∧
      contains candidate.address.text "/quic-v1" = true := by
  simp only [eligible, decide_eq_true_eq]
  constructor
  · rintro ⟨hother, honline, hhealthy, hquic, htransport, hcapabilities⟩
    exact ⟨⟨hother, honline, hhealthy, htransport, hcapabilities⟩, hquic⟩
  · rintro ⟨⟨hother, honline, hhealthy, htransport, hcapabilities⟩, hquic⟩
    exact ⟨hother, honline, hhealthy, hquic, htransport, hcapabilities⟩

theorem select_eq_noEligibleRelay :
    select ext clientPeerId candidates policy now = .error .noEligibleRelay ↔
      ranked ext clientPeerId candidates policy now = [] := by
  unfold select
  rw [← ranked]
  rcases ranked ext clientPeerId candidates policy now with _ | ⟨entry, _ | ⟨exit, rest⟩⟩ <;>
    cases policy.mode
  · simp [throw, throwThe, MonadExceptOf.throw]
  · simp [throw, throwThe, MonadExceptOf.throw]
  · simp [pure, Except.pure]
  · simp [throw, throwThe, MonadExceptOf.throw]
  · simp [pure, Except.pure]
  · by_cases hsame : entry.peerId = exit.peerId
    · simp [hsame, Check.failWhen, bind, Except.bind]
    · simp [hsame, Check.failWhen, pure, Except.pure, bind, Except.bind]

/-- The best of the ranked candidates is minimal among those that pass the filters. -/
theorem head_ranked_minimal {best : RelayCandidate} {rest : List RelayCandidate}
    (hranked : ranked ext clientPeerId candidates policy now = best :: rest)
    {other : RelayCandidate} (hother : other ∈ ranked ext clientPeerId candidates policy now) :
    RelayRanking.compare ext best other now ≠ .gt := by
  have hsorted := @RelayRanking.rank_sorted ext now
    (candidates.filter (eligible clientPeerId policy))
  rw [← ranked, hranked, List.pairwise_cons] at hsorted
  rw [hranked, List.mem_cons] at hother
  obtain rfl | hlater := hother
  · rw [RelayRanking.compare_ne_gt_iff]
  · exact hsorted.1 other hlater

/-- The order in which reports of different relays came in does not matter. -/
theorem select_eq_of_perm (hpeers : Function.Injective ext.peerText)
    {first second : List RelayCandidate} (hperm : first.Perm second)
    (hdistinct : (first.map RelayCandidate.peerId).Nodup) :
    select ext clientPeerId first policy now = select ext clientPeerId second policy now := by
  have hsame := @RelayRanking.rank_eq_of_perm ext now hpeers _ _
    (hperm.filter (eligible clientPeerId policy)) (hdistinct.sublist (List.filter_sublist.map _))
  unfold select
  rw [hsame]

/-- Comparison is a total order up to equal keys, a ranking sorts by it, and neither the ranking nor
the route depends on the order of reports of different relays. -/
theorem ranking_laws (hpeers : Function.Injective ext.peerText) (now : Int) :
    (∀ candidate, RelayRanking.compare ext candidate candidate now = .eq) ∧
    (∀ left right, RelayRanking.compare ext left right now ≠ .gt →
      RelayRanking.compare ext right left now ≠ .gt →
      RelayRanking.key ext now left = RelayRanking.key ext now right) ∧
    (∀ first second third, RelayRanking.compare ext first second now ≠ .gt →
      RelayRanking.compare ext second third now ≠ .gt →
      RelayRanking.compare ext first third now ≠ .gt) ∧
    (∀ left right, RelayRanking.compare ext left right now ≠ .gt ∨
      RelayRanking.compare ext right left now ≠ .gt) ∧
    (∀ candidates, (RelayRanking.rank ext candidates now).Perm candidates ∧
      (RelayRanking.rank ext candidates now).Pairwise
        (fun left right => RelayRanking.compare ext left right now ≠ .gt)) ∧
    (∀ first second : List RelayCandidate, first.Perm second →
      (first.map RelayCandidate.peerId).Nodup →
      RelayRanking.rank ext first now = RelayRanking.rank ext second now ∧
      ∀ clientPeerId policy, select ext clientPeerId first policy now =
        select ext clientPeerId second policy now) := by
  refine ⟨fun candidate => ?_, ?_, ?_, ?_, fun candidates => ?_, fun first second => ?_⟩
  · exact (RelayRanking.compare_eq_iff _ _).mpr rfl
  · simp only [RelayRanking.compare_ne_gt_iff]
    exact fun left right hle hge => le_antisymm hle hge
  · simp only [RelayRanking.compare_ne_gt_iff]
    exact fun first second third hfirst hsecond => hfirst.trans hsecond
  · simp only [RelayRanking.compare_ne_gt_iff]
    exact fun left right => le_total _ _
  · exact ⟨RelayRanking.rank_perm candidates, RelayRanking.rank_sorted candidates⟩
  · intro hperm hdistinct
    exact ⟨RelayRanking.rank_eq_of_perm hpeers hperm hdistinct,
      fun _ _ => select_eq_of_perm hpeers hperm hdistinct⟩

/-- Two reports that differ in their latency are ranked alike in both orders. -/
theorem ranking_laws_swapped :
    RelayRanking.rank reference
        [RelayRanking.sampleReport 1 (some 5) 0, RelayRanking.sampleReport 2 (some 3) 0] 0 =
      RelayRanking.rank reference
        [RelayRanking.sampleReport 2 (some 3) 0, RelayRanking.sampleReport 1 (some 5) 0] 0 := by
  have hinjective : Function.Injective reference.peerText := fun left right hsame =>
    Option.some.inj ((reference.readsIdentities.peer left).symm.trans
      ((congrArg reference.parsePeer hsame).trans (reference.readsIdentities.peer right)))
  obtain ⟨-, -, -, -, -, hperm⟩ := ranking_laws hinjective 0
  exact (hperm _ _ (.swap _ _ _) (by decide)).1

/-! ## Hops with a QUIC address -/

/-- The components are those that the addresses of the candidates are printed from. -/
def Printed (components : Multiaddr → List Multiaddr.Component)
    (candidates : List RelayCandidate) : Prop :=
  ∀ candidate ∈ candidates, Multiaddr.ofComponents (components candidate.address) =
    candidate.address

/-- The hops of a route are eligible and of different relays, the only hop is the best of all that
are eligible, and nobody is found exactly when nobody is eligible. -/
structure SelectsEligible (ext : Externals) (components : Multiaddr → List Multiaddr.Component)
    (clientPeerId : PeerId) (candidates : List RelayCandidate) (policy : RouteSelectionPolicy)
    (now : Int) : Prop where
  hops : ∀ route, select ext clientPeerId candidates policy now = .ok route →
    ∀ hop ∈ route.hops, ∃ candidate ∈ candidates,
      Eligible clientPeerId policy components candidate ∧ hop = .ofCandidate candidate
  distinct : ∀ entry exit, select ext clientPeerId candidates policy now =
    .ok (.twoHop entry exit) → entry.peerId ≠ exit.peerId
  minimal : policy.mode = .oneHop → ∀ route,
    select ext clientPeerId candidates policy now = .ok route → ∃ best ∈ candidates,
      Eligible clientPeerId policy components best ∧ route = .oneHop (.ofCandidate best) ∧
        ∀ other ∈ candidates, Eligible clientPeerId policy components other →
          RelayRanking.compare ext best other now ≠ .gt
  nobody : select ext clientPeerId candidates policy now = .error .noEligibleRelay ↔
    ∀ candidate ∈ candidates, ¬ Eligible clientPeerId policy components candidate

/-- The address of a candidate shows whether it has a QUIC component. -/
def Shows (components : Multiaddr → List Multiaddr.Component) (candidate : RelayCandidate) : Prop :=
  Multiaddr.ShowsQuic (components candidate.address)

/-- The candidates that a selection looks at have no value that stands for a QUIC component: the
first one, in two-hop mode the first two when they are of different relays, and otherwise one that
passed the filters. -/
def ShownQuic (components : Multiaddr → List Multiaddr.Component) :
    RouteMode → List RelayCandidate → Prop
  | _, [] => True
  | .oneHop, relay :: _ => Shows components relay
  | .twoHop, [relay] => Shows components relay
  | .twoHop, entry :: exit :: rest =>
      if entry.peerId = exit.peerId then ∃ relay ∈ entry :: exit :: rest, Shows components relay
      else Shows components entry ∧ Shows components exit

theorem mem_ranked_of_eligible (hprinted : Printed components candidates)
    {candidate : RelayCandidate} (hmem : candidate ∈ candidates)
    (heligible : Eligible clientPeerId policy components candidate) :
    candidate ∈ ranked ext clientPeerId candidates policy now := by
  refine mem_ranked.mpr ⟨hmem, eligible_iff.mpr ⟨heligible.toAdmissible, ?_⟩⟩
  rw [← hprinted candidate hmem]
  exact Multiaddr.contains_quic heligible.quic

/-- A candidate that passed the filters is eligible when its address shows that. -/
theorem eligible_of_ranked (hprinted : Printed components candidates) {relay : RelayCandidate}
    (hrelay : relay ∈ ranked ext clientPeerId candidates policy now) :
    Eligible clientPeerId policy components relay ↔ Shows components relay := by
  obtain ⟨hmem, hpasses⟩ := mem_ranked.mp hrelay
  obtain ⟨hadmissible, hfound⟩ := eligible_iff.mp hpasses
  rw [← hprinted relay hmem] at hfound
  rw [Shows, Multiaddr.showsQuic_iff hfound]
  exact ⟨Eligible.quic, fun hquic => ⟨hadmissible, hquic⟩⟩

/-- A hop keeps the address, so no other candidate makes it eligible. -/
theorem hop_eligible_iff (hprinted : Printed components candidates) {relay : RelayCandidate}
    (hrelay : relay ∈ ranked ext clientPeerId candidates policy now) :
    (∃ candidate ∈ candidates, Eligible clientPeerId policy components candidate ∧
      RelayHop.ofCandidate relay = .ofCandidate candidate) ↔ Shows components relay := by
  constructor
  · rintro ⟨candidate, -, heligible, hsame⟩ -
    have haddress : relay.address = candidate.address := congrArg RelayHop.address hsame
    exact haddress ▸ heligible.quic
  · intro hshows
    exact ⟨relay, (mem_ranked.mp hrelay).1, (eligible_of_ranked hprinted hrelay).mpr hshows, rfl⟩

theorem exists_eligible_iff (ext : Externals) (now : Int)
    (hprinted : Printed components candidates) :
    (∃ candidate ∈ candidates, Eligible clientPeerId policy components candidate) ↔
      ∃ relay ∈ ranked ext clientPeerId candidates policy now, Shows components relay := by
  constructor
  · rintro ⟨candidate, hmem, heligible⟩
    have hrelay : candidate ∈ ranked ext clientPeerId candidates policy now :=
      mem_ranked_of_eligible hprinted hmem heligible
    exact ⟨candidate, hrelay, (eligible_of_ranked hprinted hrelay).mp heligible⟩
  · rintro ⟨relay, hrelay, hshows⟩
    exact ⟨relay, (mem_ranked.mp hrelay).1, (eligible_of_ranked hprinted hrelay).mpr hshows⟩

/-- A route is right when its hops are. -/
theorem selectsEligible_of_ok (hprinted : Printed components candidates) {route : Route}
    (hselected : select ext clientPeerId candidates policy now = .ok route) :
    SelectsEligible ext components clientPeerId candidates policy now ↔
      ∀ hop ∈ route.hops, ∃ candidate ∈ candidates,
        Eligible clientPeerId policy components candidate ∧ hop = .ofCandidate candidate := by
  refine ⟨fun hselects => hselects.hops route hselected, fun hhops => ?_⟩
  constructor
  · intro other hother
    obtain rfl := Except.ok.inj (hselected.symm.trans hother)
    exact hhops
  · intro entry exit hother
    simpa [Route.hops] using (select_hops hother).2
  · intro hmode other hother
    obtain ⟨best, rest, hranked, rfl⟩ := (select_oneHop_eq_ok hmode).mp hother
    have hbest : best ∈ ranked ext clientPeerId candidates policy now := by simp [hranked]
    obtain rfl := Except.ok.inj (hselected.symm.trans hother)
    have hshows := (hop_eligible_iff hprinted hbest).mp (hhops _ (List.mem_singleton_self _))
    exact ⟨best, (mem_ranked.mp hbest).1, (eligible_of_ranked hprinted hbest).mpr hshows, rfl,
      fun other hmem heligible =>
        head_ranked_minimal hranked (mem_ranked_of_eligible hprinted hmem heligible)⟩
  · rw [hselected]
    constructor
    · intro hrefused
      cases hrefused
    intro hnone
    obtain ⟨hop, hhop⟩ : ∃ hop, hop ∈ route.hops := by
      cases route with
      | oneHop relay => exact ⟨relay, List.mem_singleton_self _⟩
      | twoHop entry exit => exact ⟨entry, List.mem_cons_self⟩
    obtain ⟨candidate, hmem, heligible, -⟩ := hhops hop hhop
    exact absurd heligible (hnone candidate hmem)

/-- A refusal is right when it says whether somebody is eligible. -/
theorem selectsEligible_of_error {reason : RouteSelectionError}
    (hrefused : select ext clientPeerId candidates policy now = .error reason) :
    SelectsEligible ext components clientPeerId candidates policy now ↔
      (reason = .noEligibleRelay ↔
        ∀ candidate ∈ candidates, ¬ Eligible clientPeerId policy components candidate) := by
  constructor
  · intro hselects
    have hnobody := hselects.nobody
    rwa [hrefused, Except.error.injEq] at hnobody
  · intro hnobody
    constructor
    · intro route hroute
      cases hrefused.symm.trans hroute
    · intro entry exit hroute
      cases hrefused.symm.trans hroute
    · intro _ route hroute
      cases hrefused.symm.trans hroute
    · rw [hrefused, Except.error.injEq]
      exact hnobody

theorem select_insufficient (hmode : policy.mode = .twoHop) {relay : RelayCandidate}
    (hranked : ranked ext clientPeerId candidates policy now = [relay]) :
    select ext clientPeerId candidates policy now = .error (.insufficientRelays 1) := by
  unfold select
  rw [← ranked, hranked, hmode]
  rfl

theorem select_same (hmode : policy.mode = .twoHop) {entry exit : RelayCandidate}
    {rest : List RelayCandidate}
    (hranked : ranked ext clientPeerId candidates policy now = entry :: exit :: rest)
    (hsame : entry.peerId = exit.peerId) :
    select ext clientPeerId candidates policy now =
      .error (.insufficientRelays (rest.length + 2)) := by
  unfold select
  rw [← ranked, hranked, hmode]
  simp [hsame, Check.failWhen, bind, Except.bind]

/-- A selection is right exactly when the addresses that it looks at show whether they have a QUIC
component. -/
theorem selectsEligible_iff (hprinted : Printed components candidates) :
    SelectsEligible ext components clientPeerId candidates policy now ↔
      ShownQuic components policy.mode (ranked ext clientPeerId candidates policy now) := by
  have hsome := @exists_eligible_iff clientPeerId candidates policy components ext now hprinted
  rcases hranked : ranked ext clientPeerId candidates policy now with _ | ⟨entry, rest⟩
  · rw [selectsEligible_of_error (select_eq_noEligibleRelay.mpr hranked)]
    simpa [ShownQuic, hranked] using hsome
  have hentry : entry ∈ ranked ext clientPeerId candidates policy now := by simp [hranked]
  cases hmode : policy.mode with
  | oneHop =>
      have hselected := (select_oneHop_eq_ok hmode).mpr ⟨entry, rest, hranked, rfl⟩
      rw [selectsEligible_of_ok hprinted hselected]
      simpa [ShownQuic, Route.hops] using hop_eligible_iff hprinted hentry
  | twoHop =>
      rcases rest with _ | ⟨exit, rest⟩
      · rw [selectsEligible_of_error (select_insufficient hmode hranked)]
        simpa [ShownQuic, hranked] using hsome
      have hexit : exit ∈ ranked ext clientPeerId candidates policy now := by simp [hranked]
      by_cases hsame : entry.peerId = exit.peerId
      · rw [selectsEligible_of_error (select_same hmode hranked hsame)]
        simpa [ShownQuic, hranked, hsame] using hsome
      · have hselected := (select_twoHop_eq_ok hmode).mpr ⟨entry, exit, rest, hranked, hsame, rfl⟩
        rw [selectsEligible_of_ok hprinted hselected]
        simp only [ShownQuic, if_neg hsame, Route.hops, List.forall_mem_cons, List.not_mem_nil,
          IsEmpty.forall_iff, implies_true, and_true]
        exact and_congr (hop_eligible_iff hprinted hentry) (hop_eligible_iff hprinted hexit)

theorem shownQuic_of_forall {mode : RouteMode} {relays : List RelayCandidate}
    (hshow : ∀ relay ∈ relays, Shows components relay) : ShownQuic components mode relays := by
  rcases relays with _ | ⟨entry, _ | ⟨exit, rest⟩⟩
  · exact True.intro
  · cases mode <;> exact hshow entry List.mem_cons_self
  · cases mode
    · exact hshow entry List.mem_cons_self
    · rw [ShownQuic]
      split_ifs
      · exact ⟨entry, List.mem_cons_self, hshow entry List.mem_cons_self⟩
      · have hexit : exit ∈ entry :: exit :: rest := List.mem_cons_of_mem _ List.mem_cons_self
        exact ⟨hshow entry List.mem_cons_self, hshow exit hexit⟩

/-- A relay that reports an address. -/
def reportAt (peer : UInt8) (address : List Multiaddr.Component) : RelayCandidate :=
  { RelayRanking.sampleReport peer none 0 with address := .ofComponents address }

theorem selectsEligible_quic :
    SelectsEligible reference (fun _ => quicOn (Ipv4Addr.new 10 0 0 1)) ⟨[9]⟩
      [reportAt 1 (quicOn (Ipv4Addr.new 10 0 0 1)), reportAt 2 (quicOn (Ipv4Addr.new 10 0 0 1))]
      ⟨.twoHop, "quic", []⟩ 0 := by
  refine (selectsEligible_iff ?_).mpr (shownQuic_of_forall fun _ _ _ => ?_)
  · rintro candidate hcandidate
    rcases List.mem_pair.mp hcandidate with rfl | rfl <;> rfl
  · simp [quicOn]

/-- A host whose name begins like the protocol, reached over TCP. -/
def namedAddress : List Multiaddr.Component :=
  [.other ⟨"dns4", some "quic-v1.example", by decide, by decide⟩,
    .other ⟨"tcp", some "443", by decide, by decide⟩]

/-- The host is selected, and has no QUIC address. -/
theorem named_selected :
    (Multiaddr.ofComponents namedAddress).text = "/dns4/quic-v1.example/tcp/443" ∧
      Printed (fun _ => namedAddress) [reportAt 1 namedAddress] ∧
      .quicV1 ∉ namedAddress ∧
      select reference ⟨[9]⟩ [reportAt 1 namedAddress] ⟨.oneHop, "quic", []⟩ 0 =
        .ok (.oneHop (.ofCandidate (reportAt 1 namedAddress))) ∧
      ¬ SelectsEligible reference (fun _ => namedAddress) ⟨[9]⟩ [reportAt 1 namedAddress]
        ⟨.oneHop, "quic", []⟩ 0 := by
  have htext : (Multiaddr.ofComponents namedAddress).text = "/dns4/quic-v1.example/tcp/443" := by
    decide +kernel
  have hmissing : .quicV1 ∉ namedAddress := by simp [namedAddress]
  have heligible : eligible ⟨[9]⟩ ⟨.oneHop, "quic", []⟩ (reportAt 1 namedAddress) = true := by
    refine eligible_iff.mpr
      ⟨⟨by decide, rfl, rfl, List.mem_singleton_self _, List.forall_mem_nil _⟩, ?_⟩
    show contains (Multiaddr.ofComponents namedAddress).text "/quic-v1" = true
    rw [htext]
    decide
  have hranked : ranked reference ⟨[9]⟩ [reportAt 1 namedAddress] ⟨.oneHop, "quic", []⟩ 0 =
      [reportAt 1 namedAddress] := by
    rw [ranked, List.filter_cons_of_pos heligible, List.filter_nil]
    exact List.mergeSort_singleton _
  have hselected := (select_oneHop_eq_ok rfl).mpr ⟨_, _, hranked, rfl⟩
  refine ⟨htext, ?_, hmissing, hselected, ?_⟩
  · rintro candidate hcandidate
    obtain rfl := List.mem_singleton.mp hcandidate
    rfl
  · intro hselects
    obtain ⟨candidate, -, hhop, -⟩ := hselects.hops _ hselected _ (List.mem_singleton_self _)
    exact hmissing hhop.quic

end RouteSelector

/-! ## Discovery and selection -/

namespace RelayCandidate

variable {parseMultiaddr : String → Option Multiaddr} {metadata : RelayMetadata}
  {requirements : CandidateRequirements} {candidate : RelayCandidate}

/-- What an accepted report says about its candidate. -/
structure MadeOf (requirements : CandidateRequirements) (metadata : RelayMetadata)
    (candidate : RelayCandidate) : Prop where
  peerId : candidate.peerId = metadata.peerId
  capabilities : candidate.capabilities = metadata.capabilities
  required : ∀ capability ∈ requirements.requiredCapabilities, capability ∈ candidate.capabilities

theorem fromMetadata_madeOf
    (haccepted : fromMetadata parseMultiaddr metadata requirements now = .ok candidate) :
    MadeOf requirements metadata candidate := by
  unfold fromMetadata at haccepted
  obtain ⟨_, -, haccepted⟩ := Check.bind_eq_ok.mp haccepted
  obtain ⟨_, -, haccepted⟩ := Check.bind_eq_ok.mp haccepted
  obtain ⟨_, -, haccepted⟩ := Check.bind_eq_ok.mp haccepted
  obtain ⟨_, -, haccepted⟩ := Check.bind_eq_ok.mp haccepted
  obtain ⟨_, -, haccepted⟩ := Check.bind_eq_ok.mp haccepted
  split at haccepted
  next missing hmissing => cases haccepted
  next hnone =>
      cases haccepted
      refine ⟨rfl, rfl, fun capability hcapability => ?_⟩
      simpa using List.find?_eq_none.mp hnone capability hcapability

end RelayCandidate

/-- The policy of a client asks for what its discovery asks for. -/
def CandidateRequirements.policy (requirements : CandidateRequirements) (mode : RouteMode) :
    RouteSelectionPolicy :=
  ⟨mode, requirements.requiredTransport, requirements.requiredCapabilities⟩

namespace RouteSelector

/-- A candidate that was accepted, is up and is not the client becomes the hop exactly when its
relay lists the required transport among its capabilities too. -/
theorem accepted_selected_iff {parseMultiaddr : String → Option Multiaddr}
    {metadata : RelayMetadata} {requirements : CandidateRequirements} {candidate : RelayCandidate}
    {clientPeerId : PeerId}
    (haccepted : RelayCandidate.fromMetadata parseMultiaddr metadata requirements now =
      .ok candidate)
    (honline : candidate.status = .online) (hhealthy : candidate.health = .healthy)
    (hquic : contains candidate.address.text "/quic-v1" = true)
    (hother : candidate.peerId ≠ clientPeerId) :
    (∃ route, select ext clientPeerId [candidate] (requirements.policy .oneHop) now = .ok route) ↔
      requirements.requiredTransport ∈ metadata.capabilities := by
  have hmade := RelayCandidate.fromMetadata_madeOf haccepted
  constructor
  · rintro ⟨route, hselected⟩
    obtain ⟨relay, rest, hranked, -⟩ := (select_oneHop_eq_ok rfl).mp hselected
    have hrelay : relay ∈ ranked ext clientPeerId [candidate]
      (requirements.policy .oneHop) now := by
      simp [hranked]
    obtain ⟨hmem, heligible⟩ := mem_ranked.mp hrelay
    rw [← hmade.capabilities, ← List.mem_singleton.mp hmem]
    exact (eligible_iff.mp heligible).1.transport
  · intro htransport
    rw [← hmade.capabilities] at htransport
    have hcandidate : candidate ∈
        ranked ext clientPeerId [candidate] (requirements.policy .oneHop) now :=
      mem_ranked.mpr ⟨List.mem_singleton_self _, eligible_iff.mpr
        ⟨⟨hother, honline, hhealthy, htransport, hmade.required⟩, hquic⟩⟩
    obtain ⟨relay, rest, hranked⟩ := List.exists_cons_of_ne_nil (List.ne_nil_of_mem hcandidate)
    exact ⟨_, (select_oneHop_eq_ok rfl).mpr ⟨relay, rest, hranked, rfl⟩⟩

/-- The metadata of a relay with the transport quic and some capabilities. -/
def sampleMetadata (capabilities : List String) : RelayMetadata where
  peerId := ⟨[1]⟩
  protocolVersion := "1.0"
  softwareVersion := "test"
  supportedTransports := ["quic"]
  capabilities
  listeningAddress := some "/ip4/127.0.0.1/udp/9000/quic-v1"
  advertisedAddress := none
  status := .online
  health := .healthy
  latencyMs := none
  timestamp := 0
  lastHeartbeat := some 0

def sampleRequirements : CandidateRequirements := ⟨"1.0", "quic", ["relay"], 30⟩

def sampleCandidate (capabilities : List String) : RelayCandidate where
  peerId := ⟨[1]⟩
  address := ⟨"/ip4/127.0.0.1/udp/9000/quic-v1"⟩
  status := .online
  health := .healthy
  latency := none
  capabilities
  protocolVersion := "1.0"
  softwareVersion := "test"
  lastSeen := 0

theorem accepted_selected_listed :
    ∃ route, select reference ⟨[9]⟩ [sampleCandidate ["quic", "relay"]]
      (sampleRequirements.policy .oneHop) 0 = .ok route :=
  have haccepted : RelayCandidate.fromMetadata (fun text => some ⟨text⟩)
      (sampleMetadata ["quic", "relay"]) sampleRequirements 0 =
        .ok (sampleCandidate ["quic", "relay"]) := rfl
  (accepted_selected_iff haccepted rfl rfl (by decide) (by decide)).mpr (by decide)

/-- The relay offers quic as a transport and does not repeat it as a capability. -/
theorem accepted_not_selected :
    RelayCandidate.fromMetadata (fun text => some ⟨text⟩) (sampleMetadata ["relay"])
        sampleRequirements 0 = .ok (sampleCandidate ["relay"]) ∧
      (sampleCandidate ["relay"]).status = .online ∧
      (sampleCandidate ["relay"]).health = .healthy ∧
      contains (sampleCandidate ["relay"]).address.text "/quic-v1" = true ∧
      (sampleCandidate ["relay"]).peerId ≠ ⟨[9]⟩ ∧
      ¬ ∃ route, select reference ⟨[9]⟩ [sampleCandidate ["relay"]]
        (sampleRequirements.policy .oneHop) 0 = .ok route := by
  refine ⟨rfl, rfl, rfl, by decide, by decide, ?_⟩
  rintro ⟨route, hselected⟩
  obtain ⟨relay, rest, hranked, -⟩ := (select_oneHop_eq_ok rfl).mp hselected
  have hnone : ranked reference ⟨[9]⟩ [sampleCandidate ["relay"]]
      (sampleRequirements.policy .oneHop) 0 = [] := by
    refine List.eq_nil_iff_forall_not_mem.mpr fun candidate hcandidate => ?_
    obtain ⟨hmember, heligible⟩ := mem_ranked.mp hcandidate
    obtain rfl := List.mem_singleton.mp hmember
    exact absurd (eligible_iff.mp heligible).1.transport (by decide)
  rw [hnone] at hranked
  cases hranked

end RouteSelector

end Relay
