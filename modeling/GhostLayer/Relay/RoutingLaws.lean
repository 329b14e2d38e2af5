import GhostLayer.Foundation.Sorting
import GhostLayer.Network.Reference
import GhostLayer.Relay.Routing
import Mathlib.Data.Prod.Lex
import Mathlib.Order.WithBot
import Mathlib.Data.String.Basic

/-! # Laws of ranking and selection

The ranking follows its documented key except in the fourth criterion, where it
puts the older report first. A two-hop selection looks at the two best-ranked
reports only.
-/

namespace Relay

open Foundation Network

namespace RelayRanking

variable {ext : Externals}

/-! ## The key of the code -/

theorem compareOfLessAndEq_then_ne_gt {α : Type} [LinearOrder α] (left right : α)
    (rest : Ordering) :
    (compareOfLessAndEq left right).then rest ≠ .gt ↔
      left < right ∨ left = right ∧ rest ≠ .gt := by
  unfold compareOfLessAndEq
  split
  next hlt => simp [hlt]
  next hge =>
      split
      next heq => simp [heq]
      next hne => simp [hge, hne]

/-- The key that candidates are compared by. -/
def key (ext : Externals) (now : Int) (candidate : RelayCandidate) :
    Natᵒᵈ ×ₗ Natᵒᵈ ×ₗ Nat ×ₗ Natᵒᵈ ×ₗ String :=
  toLex (OrderDual.toDual (healthRank candidate.health),
    toLex (OrderDual.toDual (statusRank candidate.status),
      toLex (latencyRank candidate.latency,
        toLex (OrderDual.toDual (freshnessRank candidate.lastSeen now),
          ext.peerText candidate.peerId))))

theorem compare_ne_gt_iff (left right : RelayCandidate) (now : Int) :
    compare ext left right now ≠ .gt ↔ key ext now left ≤ key ext now right := by
  have htext : compareTexts (ext.peerText left.peerId) (ext.peerText right.peerId) ≠ .gt ↔
      ext.peerText left.peerId ≤ ext.peerText right.peerId := by
    have h := compareOfLessAndEq_then_ne_gt (ext.peerText left.peerId)
      (ext.peerText right.peerId) .eq
    rw [le_iff_lt_or_eq]
    simpa [compareTexts] using h
  unfold compare key
  simp only [compareOfLessAndEq_then_ne_gt, htext, Prod.Lex.toLex_le_toLex,
    OrderDual.toDual_lt_toDual, OrderDual.toDual_inj]
  simp only [eq_comm]

theorem rank_eq (candidates : List RelayCandidate) (now : Int) :
    rank ext candidates now =
      candidates.mergeSort (fun left right => key ext now left ≤ key ext now right) := by
  unfold rank
  congr 1
  funext left right
  exact decide_eq_decide.mpr (compare_ne_gt_iff left right now)

/-- Where a ranking puts candidates into an order of their own. -/
theorem rank_pairwise_iff {R : RelayCandidate → RelayCandidate → Prop}
    (candidates : List RelayCandidate) (now : Int) :
    (rank ext candidates now).Pairwise R ↔
      candidates.Pairwise fun left right =>
        if key ext now left ≤ key ext now right then R left right else R right left := by
  rw [rank_eq, Sorting.pairwise_mergeSort_iff]
  · simp only [decide_eq_true_eq]
  · intro a b c hab hbc
    simp only [decide_eq_true_eq] at hab hbc ⊢
    exact hab.trans hbc
  · intro a b
    simp only [Bool.or_eq_true, decide_eq_true_eq]
    exact le_total _ _

/-! ## The documented key -/

def documentedHealth : HealthClass → Nat
  | .healthy => 0
  | .degraded => 1
  | .unhealthy => 2

def documentedStatus (status : RelayStatus) : Nat := if status = .online then 0 else 1

/-- Healthy before Degraded before Unhealthy, Online before other statuses, the lower latency
first and a missing one last, the newer report first, the order of the peer texts. -/
def documentedKey (ext : Externals) (candidate : RelayCandidate) :
    Nat ×ₗ Nat ×ₗ WithTop Nat ×ₗ Intᵒᵈ ×ₗ String :=
  toLex (documentedHealth candidate.health,
    toLex (documentedStatus candidate.status,
      toLex (match candidate.latency with
          | some latency => (latency : WithTop Nat)
          | none => ⊤,
        toLex (OrderDual.toDual candidate.lastSeen, ext.peerText candidate.peerId))))

/-- `first` stands before `second` by its peer text, or else by its place in the list. -/
def NamedBefore (ext : Externals) (first second : RelayCandidate) (placed : Prop) : Prop :=
  ext.peerText first.peerId < ext.peerText second.peerId ∨
    ext.peerText first.peerId = ext.peerText second.peerId ∧ placed

/-- The two later criteria of the code, the older report first. -/
def AgedBefore (ext : Externals) (now : Int) (first second : RelayCandidate) (placed : Prop) :
    Prop :=
  freshnessRank second.lastSeen now < freshnessRank first.lastSeen now ∨
    freshnessRank second.lastSeen now = freshnessRank first.lastSeen now ∧
      NamedBefore ext first second placed

/-- Two candidates of one health and both Online or not. A known latency stands before a missing one
unless it reaches the longest duration. Where the latencies agree, the newer report stands first
only if it comes from the future, the older one is not yet that old, and, where both come from the
future, its peer text or its place puts it first. -/
def Respected (ext : Externals) (now : Int) (better worse : RelayCandidate) (placed : Prop) :
    Prop :=
  better.health = worse.health → (better.status = .online ↔ worse.status = .online) →
    (∀ latency, better.latency = some latency → worse.latency = none →
      latency < longestDuration ∨
        latency = longestDuration ∧ AgedBefore ext now better worse placed) ∧
    (better.latency = worse.latency → worse.lastSeen < better.lastSeen →
      now < better.lastSeen ∧
        (worse.lastSeen ≤ now ∧ now - worse.lastSeen < longestDuration ∨
          (now < worse.lastSeen ∨ now - worse.lastSeen = longestDuration) ∧
            NamedBefore ext better worse placed))

theorem agedBefore_newer_iff {now : Int} {newer older : RelayCandidate} {placed : Prop}
    (hnewer : older.lastSeen < newer.lastSeen) :
    AgedBefore ext now newer older placed ↔
      now < newer.lastSeen ∧
        (older.lastSeen ≤ now ∧ now - older.lastSeen < longestDuration ∨
          (now < older.lastSeen ∨ now - older.lastSeen = longestDuration) ∧
            NamedBefore ext newer older placed) := by
  unfold AgedBefore freshnessRank durationSince
  by_cases hfuture : now < newer.lastSeen
  · rw [if_neg (by omega : ¬ newer.lastSeen ≤ now)]
    by_cases hpast : older.lastSeen ≤ now
    · simp only [if_pos hpast, Option.getD_some, Option.getD_none]
      have hlt : (now - older.lastSeen).toNat < longestDuration ↔
          now - older.lastSeen < longestDuration := by omega
      have heq : (now - older.lastSeen).toNat = longestDuration ↔
          now - older.lastSeen = longestDuration := by omega
      have hnot : ¬ now < older.lastSeen := by omega
      simp [hlt, heq, hfuture, hpast, hnot]
    · simp only [if_neg hpast, Option.getD_none]
      have hnot : now < older.lastSeen := by omega
      simp [hfuture, hpast, hnot]
  · -- The newer report is not from the future, and the code puts the older one first.
    have hpast : older.lastSeen ≤ now := by omega
    rw [if_pos (by omega : newer.lastSeen ≤ now), if_pos hpast]
    simp only [Option.getD_some]
    have hlt : ¬ (now - older.lastSeen).toNat < (now - newer.lastSeen).toNat := by omega
    have heq : (now - older.lastSeen).toNat ≠ (now - newer.lastSeen).toNat := by omega
    simp [hlt, heq, hfuture]

/-- The code puts `first` before `second`, if need be by its place in the list. -/
def RankedBefore (ext : Externals) (now : Int) (first second : RelayCandidate) (placed : Prop) :
    Prop :=
  key ext now first < key ext now second ∨ key ext now first = key ext now second ∧ placed

theorem rankedBefore_iff {now : Int} {first second : RelayCandidate} {placed : Prop} :
    RankedBefore ext now first second placed ↔
      healthRank second.health < healthRank first.health ∨
      healthRank second.health = healthRank first.health ∧
        (statusRank second.status < statusRank first.status ∨
        statusRank second.status = statusRank first.status ∧
          (latencyRank first.latency < latencyRank second.latency ∨
          latencyRank first.latency = latencyRank second.latency ∧
            AgedBefore ext now first second placed)) := by
  unfold RankedBefore AgedBefore NamedBefore key
  simp only [Prod.Lex.toLex_lt_toLex, OrderDual.toDual_lt_toDual, OrderDual.toDual_inj,
    toLex_inj, Prod.mk.injEq]
  grind

theorem documentedKey_lt_iff {better worse : RelayCandidate} :
    documentedKey ext better < documentedKey ext worse ↔
      healthRank worse.health < healthRank better.health ∨
      worse.health = better.health ∧
        (statusRank worse.status < statusRank better.status ∨
        (worse.status = .online ↔ better.status = .online) ∧
          ((∃ latency, better.latency = some latency ∧
              ∀ other, worse.latency = some other → latency < other) ∨
          better.latency = worse.latency ∧
            (worse.lastSeen < better.lastSeen ∨ better.lastSeen = worse.lastSeen ∧
              ext.peerText better.peerId < ext.peerText worse.peerId))) := by
  have hhealth (left right : HealthClass) :
      documentedHealth left < documentedHealth right ↔ healthRank right < healthRank left := by
    cases left <;> cases right <;> simp [documentedHealth, healthRank]
  have hclass (left right : HealthClass) :
      documentedHealth left = documentedHealth right ↔ right = left := by
    cases left <;> cases right <;> simp [documentedHealth]
  have hstatus (left right : RelayStatus) :
      documentedStatus left < documentedStatus right ↔ statusRank right < statusRank left := by
    cases left <;> cases right <;> simp [documentedStatus, statusRank]
  have honline (left right : RelayStatus) :
      documentedStatus left = documentedStatus right ↔ (right = .online ↔ left = .online) := by
    cases left <;> cases right <;> simp [documentedStatus]
  unfold documentedKey
  simp only [Prod.Lex.toLex_lt_toLex, OrderDual.toDual_lt_toDual, OrderDual.toDual_inj, hhealth,
    hclass, hstatus, honline]
  cases better.latency <;> cases worse.latency <;> simp

theorem statusRank_eq_iff {left right : RelayStatus} :
    statusRank left = statusRank right ↔ (left = .online ↔ right = .online) := by
  cases left <;> cases right <;> simp [statusRank]

/-- The code agrees with the documented key on two candidates exactly as said. -/
theorem respected_iff {now : Int} {better worse : RelayCandidate} {placed : Prop} :
    Respected ext now better worse placed ↔
      (documentedKey ext better < documentedKey ext worse →
        RankedBefore ext now better worse placed) := by
  rw [documentedKey_lt_iff, rankedBefore_iff]
  constructor
  · rintro hrespected (hhealth | ⟨hhealth, hstatus | ⟨honline, hrest⟩⟩)
    · exact .inl hhealth
    · exact .inr ⟨congrArg healthRank hhealth, .inl hstatus⟩
    · refine .inr ⟨congrArg healthRank hhealth, .inr ⟨statusRank_eq_iff.mpr honline, ?_⟩⟩
      obtain ⟨hmissing, hnewer⟩ := hrespected hhealth.symm honline.symm
      obtain ⟨latency, hlatency, hlower⟩ | ⟨hlatency, hrest⟩ := hrest
      · cases hworse : worse.latency with
        | none =>
            simpa only [hlatency, latencyRank, Option.getD_some, Option.getD_none]
              using hmissing latency hlatency hworse
        | some other =>
            rw [hlatency]
            exact .inl (hlower other hworse)
      · refine .inr ⟨congrArg latencyRank hlatency, ?_⟩
        obtain hseen | ⟨hseen, htext⟩ := hrest
        · exact (agedBefore_newer_iff hseen).mpr (hnewer hlatency hseen)
        · exact .inr ⟨by rw [hseen], .inl htext⟩
  · intro hagrees hhealth honline
    -- With equal health and status only latency and age are left to rank by.
    have hlater (h : (∃ latency, better.latency = some latency ∧
          ∀ other, worse.latency = some other → latency < other) ∨
        better.latency = worse.latency ∧ worse.lastSeen < better.lastSeen) :
        latencyRank better.latency < latencyRank worse.latency ∨
          latencyRank better.latency = latencyRank worse.latency ∧
            AgedBefore ext now better worse placed := by
      have hranked := hagrees (.inr ⟨hhealth.symm, .inr ⟨honline.symm,
        h.imp id fun hnewer => ⟨hnewer.1, .inl hnewer.2⟩⟩⟩)
      have hstatus := statusRank_eq_iff.mpr honline.symm
      rw [hhealth, hstatus] at hranked
      simpa only [Nat.lt_irrefl, false_or, true_and] using hranked
    constructor
    · intro latency hlatency hworse
      have hranked := hlater (.inl ⟨latency, hlatency, by simp [hworse]⟩)
      simpa only [hlatency, hworse, latencyRank, Option.getD_some, Option.getD_none] using hranked
    · intro hlatency hseen
      have hranked := hlater (.inr ⟨hlatency, hseen⟩)
      rw [hlatency] at hranked
      simp only [Nat.lt_irrefl, false_or, true_and] at hranked
      exact (agedBefore_newer_iff hseen).mp hranked

theorem documented_pair_iff {now : Int} {left right : RelayCandidate} :
    (if key ext now left ≤ key ext now right
      then documentedKey ext left ≤ documentedKey ext right
      else documentedKey ext right ≤ documentedKey ext left) ↔
      Respected ext now left right True ∧ Respected ext now right left False := by
  rw [respected_iff, respected_iff]
  simp only [RankedBefore, and_true, and_false, or_false, ← le_iff_lt_or_eq]
  split
  next hle =>
      simp only [hle, implies_true, true_and, ← not_le, not_true, imp_false, not_not]
  next hgt =>
      simp only [hgt, imp_false, not_lt, lt_of_not_ge hgt, implies_true, and_true]

/-- A ranking follows the documented key exactly when each two candidates of the list do, in the
order they come in. -/
theorem rank_documented_iff (candidates : List RelayCandidate) (now : Int) :
    (rank ext candidates now).Pairwise
        (fun left right => documentedKey ext left ≤ documentedKey ext right) ↔
      candidates.Pairwise fun left right =>
        Respected ext now left right True ∧ Respected ext now right left False := by
  rw [rank_pairwise_iff]
  exact List.Pairwise.iff fun left right => documented_pair_iff

/-- A report of a healthy relay. -/
def sampleReport (peer : UInt8) (latency : Option Nat) (lastSeen : Int) : RelayCandidate where
  peerId := ⟨[peer]⟩
  address := ⟨"/ip4/127.0.0.1/udp/9000/quic-v1"⟩
  status := .online
  health := .healthy
  latency
  capabilities := ["quic"]
  protocolVersion := "1.0"
  softwareVersion := "test"
  lastSeen

theorem rank_older_first :
    ¬ (rank reference [sampleReport 1 none (2 * 10 ^ 9), sampleReport 2 none (10 ^ 9)]
      (3 * 10 ^ 9)).Pairwise
      (fun left right => documentedKey reference left ≤ documentedKey reference right) := by
  rw [rank_pairwise_iff, List.pairwise_pair, documented_pair_iff]
  rintro ⟨hrespected, -⟩
  obtain ⟨-, hnewer⟩ := hrespected rfl Iff.rfl
  have hfuture := (hnewer rfl (by decide)).1
  exact absurd hfuture (by decide)

end RelayRanking

/-! ## Two hops -/

def Route.hops : Route → List RelayHop
  | .oneHop relay => [relay]
  | .twoHop entry exit => [entry, exit]

namespace RouteSelector

variable {ext : Externals} {clientPeerId : PeerId} {candidates : List RelayCandidate}
  {policy : RouteSelectionPolicy} {now : Int}

/-- The eligible candidates, the best first. -/
def ranked (ext : Externals) (clientPeerId : PeerId) (candidates : List RelayCandidate)
    (policy : RouteSelectionPolicy) (now : Int) : List RelayCandidate :=
  RelayRanking.rank ext (candidates.filter (eligible clientPeerId policy)) now

theorem mem_ranked {candidate : RelayCandidate} :
    candidate ∈ ranked ext clientPeerId candidates policy now ↔
      candidate ∈ candidates ∧ eligible clientPeerId policy candidate = true :=
  List.mem_mergeSort.trans List.mem_filter

/-- A selection succeeds exactly when two eligible candidates are of different relays, and returns
the best-ranked one and the best-ranked one of another relay. -/
def SelectsBestTwo (ext : Externals) (clientPeerId : PeerId) (candidates : List RelayCandidate)
    (policy : RouteSelectionPolicy) (now : Int) : Prop :=
  ((∃ route, select ext clientPeerId candidates policy now = .ok route) ↔
    ∃ first ∈ candidates, ∃ second ∈ candidates, eligible clientPeerId policy first = true ∧
      eligible clientPeerId policy second = true ∧ first.peerId ≠ second.peerId) ∧
  ∀ route, select ext clientPeerId candidates policy now = .ok route →
    ∃ entry exit, (ranked ext clientPeerId candidates policy now).head? = some entry ∧
      (ranked ext clientPeerId candidates policy now).find?
        (fun candidate => candidate.peerId ≠ entry.peerId) = some exit ∧
      route = .twoHop (.ofCandidate entry) (.ofCandidate exit)

/-- The two best-ranked candidates are of one relay only if all are. -/
def LeadersDiffer : List RelayCandidate → Prop
  | first :: second :: rest =>
      first.peerId = second.peerId → ∀ candidate ∈ rest, candidate.peerId = first.peerId
  | _ => True

theorem leadersDiffer_of_length_le {list : List RelayCandidate} (hlength : list.length ≤ 2) :
    LeadersDiffer list := by
  rcases list with _ | ⟨first, _ | ⟨second, _ | ⟨third, rest⟩⟩⟩
  · trivial
  · trivial
  · exact fun _ _ hmem => absurd hmem List.not_mem_nil
  · simp at hlength

theorem exists_distinct_iff (ext : Externals) (now : Int) :
    (∃ first ∈ candidates, ∃ second ∈ candidates, eligible clientPeerId policy first = true ∧
      eligible clientPeerId policy second = true ∧ first.peerId ≠ second.peerId) ↔
    ∃ first ∈ ranked ext clientPeerId candidates policy now,
      ∃ second ∈ ranked ext clientPeerId candidates policy now, first.peerId ≠ second.peerId := by
  simp only [mem_ranked]
  constructor
  · rintro ⟨first, hfirst, second, hsecond, hright, hleft, hne⟩
    exact ⟨first, ⟨hfirst, hright⟩, second, ⟨hsecond, hleft⟩, hne⟩
  · rintro ⟨first, ⟨hfirst, hright⟩, second, ⟨hsecond, hleft⟩, hne⟩
    exact ⟨first, hfirst, second, hsecond, hright, hleft, hne⟩

theorem select_twoHop_eq_ok (hmode : policy.mode = .twoHop) {route : Route} :
    select ext clientPeerId candidates policy now = .ok route ↔
      ∃ entry exit rest, ranked ext clientPeerId candidates policy now = entry :: exit :: rest ∧
        entry.peerId ≠ exit.peerId ∧ route = .twoHop (.ofCandidate entry) (.ofCandidate exit) := by
  unfold select
  rw [← ranked]
  cases ranked ext clientPeerId candidates policy now with
  | nil => simp [throw, throwThe, MonadExceptOf.throw]
  | cons entry rest =>
      cases rest with
      | nil => simp [hmode, throw, throwThe, MonadExceptOf.throw]
      | cons exit rest =>
          simp only [hmode, Check.bind_eq_ok, Check.failWhen_eq_ok]
          constructor
          · rintro ⟨_, hne, hroute⟩
            cases hroute
            exact ⟨entry, exit, rest, rfl, hne, rfl⟩
          · rintro ⟨_, _, _, hlist, hne, rfl⟩
            cases hlist
            exact ⟨(), hne, rfl⟩

theorem select_oneHop_eq_ok (hmode : policy.mode = .oneHop) {route : Route} :
    select ext clientPeerId candidates policy now = .ok route ↔
      ∃ relay rest, ranked ext clientPeerId candidates policy now = relay :: rest ∧
        route = .oneHop (.ofCandidate relay) := by
  unfold select
  rw [← ranked]
  cases ranked ext clientPeerId candidates policy now with
  | nil => simp [throw, throwThe, MonadExceptOf.throw]
  | cons relay rest =>
      simp only [hmode]
      constructor
      · intro hroute
        cases hroute
        exact ⟨relay, rest, rfl, rfl⟩
      · rintro ⟨_, _, hlist, rfl⟩
        cases hlist
        rfl

/-- The hops of a selected route are eligible candidates, of relays that differ. -/
theorem select_hops {route : Route}
    (hselected : select ext clientPeerId candidates policy now = .ok route) :
    (∀ hop ∈ route.hops, ∃ candidate ∈ candidates, eligible clientPeerId policy candidate = true ∧
      hop = .ofCandidate candidate) ∧ (route.hops.map RelayHop.peerId).Nodup := by
  cases hmode : policy.mode with
  | oneHop =>
      obtain ⟨relay, rest, hranked, rfl⟩ := (select_oneHop_eq_ok hmode).mp hselected
      have hrelay : relay ∈ ranked ext clientPeerId candidates policy now := by simp [hranked]
      obtain ⟨hmem, heligible⟩ := mem_ranked.mp hrelay
      simpa [Route.hops] using ⟨relay, hmem, heligible, rfl⟩
  | twoHop =>
      obtain ⟨entry, exit, rest, hranked, hne, rfl⟩ := (select_twoHop_eq_ok hmode).mp hselected
      have hentry : entry ∈ ranked ext clientPeerId candidates policy now := by simp [hranked]
      have hexit : exit ∈ ranked ext clientPeerId candidates policy now := by simp [hranked]
      obtain ⟨hentryMem, hentryEligible⟩ := mem_ranked.mp hentry
      obtain ⟨hexitMem, hexitEligible⟩ := mem_ranked.mp hexit
      refine ⟨?_, by simpa [Route.hops, RelayHop.ofCandidate] using hne⟩
      intro hop hhop
      rcases List.mem_pair.mp hhop with rfl | rfl
      · exact ⟨entry, hentryMem, hentryEligible, rfl⟩
      · exact ⟨exit, hexitMem, hexitEligible, rfl⟩

/-- The two best reports decide whether a two-hop selection is the documented one. -/
theorem selectsBestTwo_iff (hmode : policy.mode = .twoHop) :
    SelectsBestTwo ext clientPeerId candidates policy now ↔
      LeadersDiffer (ranked ext clientPeerId candidates policy now) := by
  unfold SelectsBestTwo
  rw [exists_distinct_iff ext now]
  simp only [select_twoHop_eq_ok hmode]
  rcases ranked ext clientPeerId candidates policy now with _ | ⟨entry, _ | ⟨exit, rest⟩⟩
  · simp [LeadersDiffer]
  · simp [LeadersDiffer]
  by_cases hsame : entry.peerId = exit.peerId
  · -- Nothing is selected, which is right if there is no other relay.
    have hnone (route : Route) : ¬ ∃ first second others,
        entry :: exit :: rest = first :: second :: others ∧ first.peerId ≠ second.peerId ∧
          route = .twoHop (.ofCandidate first) (.ofCandidate second) := by
      rintro ⟨_, _, _, hlist, hne, -⟩
      cases hlist
      exact hne hsame
    simp only [hnone, exists_false, false_iff, false_implies, implies_true, and_true]
    constructor
    · intro hdistinct _ candidate hmem
      by_contra hne
      exact hdistinct ⟨candidate, by simp [hmem], entry, by simp, hne⟩
    · intro hleaders
      rintro ⟨first, hfirst, second, hsecond, hne⟩
      have hall : ∀ candidate ∈ entry :: exit :: rest, candidate.peerId = entry.peerId := by
        intro candidate hmem
        simp only [List.mem_cons] at hmem
        obtain rfl | rfl | hmem := hmem
        · rfl
        · exact hsame.symm
        · exact hleaders hsame candidate hmem
      exact hne ((hall first hfirst).trans (hall second hsecond).symm)
  -- The two leaders are two relays, and they are selected.
  · have hroute : ∃ route first second others,
        entry :: exit :: rest = first :: second :: others ∧ first.peerId ≠ second.peerId ∧
          route = Route.twoHop (.ofCandidate first) (.ofCandidate second) :=
      ⟨_, entry, exit, rest, rfl, hsame, rfl⟩
    have hdistinct : ∃ first ∈ entry :: exit :: rest, ∃ second ∈ entry :: exit :: rest,
        first.peerId ≠ second.peerId := ⟨entry, by simp, exit, by simp, hsame⟩
    refine iff_of_true ⟨iff_of_true hroute hdistinct, ?_⟩ fun heq => absurd heq hsame
    rintro route ⟨_, _, _, hlist, hne, rfl⟩
    cases hlist
    exact ⟨entry, exit, rfl, by simp [Ne.symm hne], rfl⟩

theorem selectsBestTwo_two_relays :
    SelectsBestTwo reference ⟨[9]⟩
      [RelayRanking.sampleReport 1 none 0, RelayRanking.sampleReport 2 none 0]
      ⟨.twoHop, "quic", []⟩ 0 := by
  refine (selectsBestTwo_iff rfl).mpr ?_
  apply leadersDiffer_of_length_le
  rw [ranked, RelayRanking.rank, List.length_mergeSort]
  decide

/-- Two reports of the better relay come first. -/
def crowdedReports : List RelayCandidate :=
  [RelayRanking.sampleReport 1 (some 1) 0, RelayRanking.sampleReport 1 (some 1) 0,
    RelayRanking.sampleReport 2 (some 5) 0]

theorem ranked_crowdedReports :
    ranked reference ⟨[9]⟩ crowdedReports ⟨.twoHop, "quic", []⟩ 0 = crowdedReports := by
  have hfilter : crowdedReports.filter (eligible ⟨[9]⟩ ⟨.twoHop, "quic", []⟩) = crowdedReports := by
    decide
  rw [ranked, hfilter, RelayRanking.rank_eq]
  apply List.mergeSort_of_pairwise
  have hfaster : RelayRanking.key reference 0 (RelayRanking.sampleReport 1 (some 1) 0) ≤
      RelayRanking.key reference 0 (RelayRanking.sampleReport 2 (some 5) 0) := by
    rw [← RelayRanking.compare_ne_gt_iff]
    simp [RelayRanking.compare, compareOfLessAndEq, RelayRanking.sampleReport, latencyRank]
  simp [crowdedReports, hfaster]

theorem crowded_not_selected :
    ¬ SelectsBestTwo reference ⟨[9]⟩ crowdedReports ⟨.twoHop, "quic", []⟩ 0 := by
  rintro ⟨hselects, -⟩
  obtain ⟨route, hroute⟩ := hselects.mpr ⟨RelayRanking.sampleReport 1 (some 1) 0, by decide,
    RelayRanking.sampleReport 2 (some 5) 0, by decide, by decide, by decide, by decide⟩
  obtain ⟨entry, exit, rest, hranked, hne, -⟩ := (select_twoHop_eq_ok rfl).mp hroute
  rw [ranked_crowdedReports] at hranked
  cases hranked
  exact hne rfl

end RouteSelector

end Relay
