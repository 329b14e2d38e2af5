import GhostLayer.Foundation.Transition
import GhostLayer.Network.ReturnPath

/-! # Runs of a table of returning packets

Every operation of a table under a clock that does not go back. A packet can be
consumed once after each time it was inserted, and is remembered for a lifetime
after that.
-/

namespace Network

open Foundation

namespace ReturnPathTable

variable {table : ReturnPathTable} {now stamp : Nat} {packetId : SessionId}
  {key expected : ReturnPathKey} {mapping : ReturnPathMapping}

/-! ## One call -/

theorem cleanup_entries :
    (table.cleanup now).entries.lookup packetId = some mapping ↔
      table.entries.lookup packetId = some mapping ∧ now < mapping.expiresAt := by
  rw [cleanup, lookup_retain_eq_some, decide_eq_true_iff]

theorem cleanup_consumed {expiresAt : Nat} :
    (table.cleanup now).consumed.lookup packetId = some expiresAt ↔
      table.consumed.lookup packetId = some expiresAt ∧ now < expiresAt := by
  rw [cleanup, lookup_retain_eq_some, decide_eq_true_iff]

theorem removeSession_entries {sessionId : SessionId} :
    (table.removeSession sessionId).entries.lookup packetId = some mapping ↔
      table.entries.lookup packetId = some mapping ∧ mapping.key.sessionId ≠ sessionId := by
  rw [removeSession, lookup_retain_eq_some, decide_eq_true_iff]

/-- The table in which a packet was noted. -/
def note (key : ReturnPathKey) (stamp : Nat) (table : ReturnPathTable) : ReturnPathTable :=
  { table with entries := table.entries.insert key.packetId ⟨key, stamp + table.lifetime⟩ }

/-- An insertion drops what has expired, and then notes a packet that is neither waited for nor
consumed if there is room. -/
theorem insert_cases (now stamp : Nat) (key : ReturnPathKey) (table : ReturnPathTable) :
    ((key.packetId ∈ (table.cleanup now).entries ∨ key.packetId ∈ (table.cleanup now).consumed) ∧
      insert now stamp key table = (.error .duplicate, table.cleanup now)) ∨
    (insert now stamp key table = (.error .capacity, table.cleanup now)) ∨
    (key.packetId ∉ (table.cleanup now).entries ∧ key.packetId ∉ (table.cleanup now).consumed ∧
      (table.cleanup now).entries.entries.length < table.capacity ∧
      insert now stamp key table = (.ok (), (table.cleanup now).note key stamp)) := by
  simp only [insert, Fallible.modify_bind_run, Fallible.get_bind_run, Fallible.failWhen_bind_run]
  split_ifs with hknown hfull
  · exact .inl ⟨hknown, rfl⟩
  · exact .inr (.inl rfl)
  · obtain ⟨hentries, hconsumed⟩ := not_or.mp hknown
    exact .inr (.inr ⟨hentries, hconsumed, not_le.mp hfull, rfl⟩)

theorem lookup_state (now : Nat) (packetId : SessionId) (expected : ReturnPathKey) :
    (lookup now packetId expected table).2 = table.cleanup now := by
  simp only [lookup, Fallible.modify_bind_run, Fallible.get_bind_run]
  cases (table.cleanup now).entries.lookup packetId with
  | none => rfl
  | some mapping =>
      simp only [Fallible.orThrow_some, Fallible.pure_bind_run, Fallible.failWhen_bind_run]
      split_ifs <;> rfl

theorem lookup_eq_ok :
    (lookup now packetId expected table).1 = .ok mapping ↔
      (table.cleanup now).entries.lookup packetId = some mapping ∧ mapping.key = expected := by
  simp only [lookup, Fallible.modify_bind_run, Fallible.get_bind_run]
  cases (table.cleanup now).entries.lookup packetId with
  | none => simp
  | some found =>
      simp only [Fallible.orThrow_some, Fallible.pure_bind_run, Fallible.failWhen_bind_run]
      split_ifs with hkey
      · simp only [Option.some.injEq, false_iff, not_and]
        rintro rfl
        exact hkey
      · simp only [Fallible.pure_run, Outcome.ok.injEq, Option.some.injEq]
        refine ⟨fun hsame => ⟨hsame, ?_⟩, And.left⟩
        exact hsame ▸ not_not.mp hkey

/-- A packet that was consumed and is still remembered. -/
theorem lookup_replayed (hentries : packetId ∉ (table.cleanup now).entries)
    (hconsumed : packetId ∈ (table.cleanup now).consumed) :
    (lookup now packetId expected table).1 = .error .replayed := by
  simp only [lookup, Fallible.modify_bind_run, Fallible.get_bind_run,
    AList.lookup_eq_none.mpr hentries, if_pos hconsumed, Fallible.orThrow_none,
    Fallible.throw_bind_run, Fallible.throw_run]

/-- A consumption spends what a lookup finds, and fails as the lookup does. -/
theorem consume_cases (now stamp : Nat) (packetId : SessionId) (expected : ReturnPathKey)
    (table : ReturnPathTable) :
    (∃ mapping, (lookup now packetId expected table).1 = .ok mapping ∧
      consume now stamp packetId expected table =
        (.ok mapping, (table.cleanup now).spend stamp packetId)) ∨
    (¬ (lookup now packetId expected table).1.IsOk ∧
      consume now stamp packetId expected table =
        ((lookup now packetId expected table).1, table.cleanup now)) := by
  have hstate : (lookup now packetId expected table).2 = table.cleanup now :=
    lookup_state now packetId expected
  unfold consume
  rw [Fallible.bind_run]
  rcases hrun : lookup now packetId expected table with ⟨mapping | reason | _, next⟩ <;>
    rw [hrun] at hstate <;> cases hstate
  · exact .inl ⟨mapping, rfl, rfl⟩
  · exact .inr ⟨nofun, rfl⟩
  · exact .inr ⟨nofun, rfl⟩

end ReturnPathTable

/-! ## Runs -/

/-- A call that changed which packets are waited for, with the time from which its lifetime
counts. -/
inductive ReturnRecord where
  | inserted (key : ReturnPathKey) (time : Nat)
  | consumed (packetId : SessionId) (time : Nat)
  | removed (sessionId : SessionId)

namespace ReturnRecord

/-- The latest insertion of a packet, unless it was consumed or its session was removed since. The
newest record comes first. -/
def standing (packetId : SessionId) : List ReturnRecord → Option (ReturnPathKey × Nat)
  | [] => none
  | .inserted key time :: earlier =>
      if key.packetId = packetId then some (key, time) else standing packetId earlier
  | .consumed packetId' _ :: earlier =>
      if packetId' = packetId then none else standing packetId earlier
  | .removed sessionId :: earlier =>
      (standing packetId earlier).filter fun insertion => insertion.1.sessionId ≠ sessionId

/-- The record of a call, if it succeeded. -/
def whenOk {α : Type} (record : ReturnRecord) : Outcome ReturnPathError α → List ReturnRecord
  | .ok _ => [record]
  | .error _ | .panic => []

/-- Only what was standing has been consumed. -/
def Once (history : List ReturnRecord) : Prop :=
  ∀ later packetId time earlier, history = later ++ .consumed packetId time :: earlier →
    (standing packetId earlier).isSome

theorem Once.cons {history : List ReturnRecord} {record : ReturnRecord} (honce : Once history)
    (hrecord : ∀ packetId time, record = .consumed packetId time →
      (standing packetId history).isSome) : Once (record :: history) := by
  intro later packetId time earlier hsplit
  cases later with
  | nil =>
      obtain ⟨hsame, rfl⟩ := List.cons.inj hsplit
      exact hrecord packetId time hsame
  | cons newest later => exact honce later packetId time earlier (List.cons.inj hsplit).2

end ReturnRecord

/-- A table, the last reading of the clock, and the records so far. -/
structure ReturnRun where
  table : ReturnPathTable
  clock : Nat
  history : List ReturnRecord

/-- A call of one of the operations; the clock does not go back. -/
inductive ReturnStep (run : ReturnRun) : ReturnRun → Prop
  | insert (key : ReturnPathKey) (now stamp : Nat) (later : run.clock ≤ now)
      (stamped : now ≤ stamp) :
      ReturnStep run
        { table := (ReturnPathTable.insert now stamp key run.table).2
          clock := stamp
          history := ReturnRecord.whenOk (.inserted key stamp)
            (ReturnPathTable.insert now stamp key run.table).1 ++ run.history }
  | lookup (packetId : SessionId) (expected : ReturnPathKey) (now : Nat)
      (later : run.clock ≤ now) :
      ReturnStep run
        { run with
          table := (ReturnPathTable.lookup now packetId expected run.table).2
          clock := now }
  | consume (packetId : SessionId) (expected : ReturnPathKey) (now stamp : Nat)
      (later : run.clock ≤ now) (stamped : now ≤ stamp) :
      ReturnStep run
        { table := (ReturnPathTable.consume now stamp packetId expected run.table).2
          clock := stamp
          history := ReturnRecord.whenOk (.consumed packetId stamp)
            (ReturnPathTable.consume now stamp packetId expected run.table).1 ++ run.history }
  | removeSession (sessionId : SessionId) :
      ReturnStep run
        { run with
          table := run.table.removeSession sessionId
          history := .removed sessionId :: run.history }
  | cleanup (now : Nat) (later : run.clock ≤ now) :
      ReturnStep run { run with table := run.table.cleanup now, clock := now }

def returnRuns (capacity lifetime : Nat) : System ReturnRun where
  init run := ReturnPathTable.new capacity lifetime = .ok run.table ∧ run.history = []
  step := ReturnStep

namespace ReturnRun

open ReturnRecord

variable {run : ReturnRun} {capacity lifetime now stamp : Nat} {packetId : SessionId}

/-- The entries are the standing insertions, and packets that were consumed are remembered. -/
structure Recorded (capacity lifetime : Nat) (run : ReturnRun) : Prop where
  capacity_eq : run.table.capacity = capacity
  lifetime_eq : run.table.lifetime = lifetime
  size : run.table.entries.entries.length ≤ capacity
  apart : ∀ packetId, packetId ∈ run.table.entries → packetId ∉ run.table.consumed
  recorded : ∀ packetId mapping, run.table.entries.lookup packetId = some mapping →
    ∃ time, standing packetId run.history = some (mapping.key, time) ∧
      mapping.expiresAt = time + lifetime
  kept : ∀ packetId key time, standing packetId run.history = some (key, time) →
    run.clock < time + lifetime →
    run.table.entries.lookup packetId = some ⟨key, time + lifetime⟩
  remembered : ∀ packetId time, .consumed packetId time ∈ run.history →
    run.clock < time + lifetime → run.table.consumed.lookup packetId = some (time + lifetime)
  once : Once run.history

theorem Recorded.new (hnew : ReturnPathTable.new capacity lifetime = .ok run.table)
    (hhistory : run.history = []) : Recorded capacity lifetime run := by
  obtain ⟨⟨⟩, -, hnew⟩ := Check.bind_eq_ok.mp hnew
  have htable : run.table = ⟨∅, ∅, capacity, lifetime⟩ := (Except.ok.inj hnew).symm
  constructor <;> simp [htable, hhistory, standing, Once]

/-- Time passes. -/
theorem Recorded.advance (hrecorded : Recorded capacity lifetime run) (hlater : run.clock ≤ now) :
    Recorded capacity lifetime { run with clock := now } :=
  { hrecorded with
    kept := fun packetId key time hstanding hlive =>
      hrecorded.kept packetId key time hstanding (hlater.trans_lt hlive)
    remembered := fun packetId time hconsumed hlive =>
      hrecorded.remembered packetId time hconsumed (hlater.trans_lt hlive) }

/-- Dropping what has expired keeps the records. -/
theorem Recorded.cleanup (hrecorded : Recorded capacity lifetime run) (hlater : run.clock ≤ now) :
    Recorded capacity lifetime { run with table := run.table.cleanup now, clock := now } where
  capacity_eq := hrecorded.capacity_eq
  lifetime_eq := hrecorded.lifetime_eq
  size := (List.length_filter_le _ _).trans hrecorded.size
  apart packetId hentry hconsumed := by
    obtain ⟨mapping, hmapping⟩ := mem_iff_lookup.mp hentry
    obtain ⟨expiresAt, hexpires⟩ := mem_iff_lookup.mp hconsumed
    exact hrecorded.apart packetId
      (mem_iff_lookup.mpr ⟨mapping, (ReturnPathTable.cleanup_entries.mp hmapping).1⟩)
      (mem_iff_lookup.mpr ⟨expiresAt, (ReturnPathTable.cleanup_consumed.mp hexpires).1⟩)
  recorded packetId mapping hfound :=
    hrecorded.recorded packetId mapping (ReturnPathTable.cleanup_entries.mp hfound).1
  kept packetId key time hstanding hlive := by
    have hfound := hrecorded.kept packetId key time hstanding (hlater.trans_lt hlive)
    exact ReturnPathTable.cleanup_entries.mpr ⟨hfound, hlive⟩
  remembered packetId time hconsumed hlive := by
    have hfound := hrecorded.remembered packetId time hconsumed (hlater.trans_lt hlive)
    exact ReturnPathTable.cleanup_consumed.mpr ⟨hfound, hlive⟩
  once := hrecorded.once

theorem Recorded.note (hrecorded : Recorded capacity lifetime run) {key : ReturnPathKey}
    (hentries : key.packetId ∉ run.table.entries) (hconsumed : key.packetId ∉ run.table.consumed)
    (hroom : run.table.entries.entries.length < capacity) :
    Recorded capacity lifetime
      { run with
        table := run.table.note key run.clock
        history := .inserted key run.clock :: run.history } where
  capacity_eq := hrecorded.capacity_eq
  lifetime_eq := hrecorded.lifetime_eq
  size := by
    show (run.table.entries.insert _ _).entries.length ≤ capacity
    rw [AList.entries_insert_of_notMem hentries, List.length_cons]
    exact hroom
  apart packetId hentry := by
    rcases (AList.mem_insert _).mp hentry with rfl | hentry
    · exact hconsumed
    · exact hrecorded.apart packetId hentry
  recorded packetId mapping hfound := by
    rcases lookup_insert_eq_some.mp hfound with ⟨rfl, rfl⟩ | ⟨hne, hfound⟩
    · exact ⟨run.clock, if_pos rfl, by rw [hrecorded.lifetime_eq]⟩
    · rw [standing, if_neg (Ne.symm hne)]
      exact hrecorded.recorded packetId mapping hfound
  kept packetId key' time hstanding hlive := by
    refine lookup_insert_eq_some.mpr ?_
    by_cases hsame : key.packetId = packetId
    · rw [standing, if_pos hsame] at hstanding
      cases hstanding
      exact .inl ⟨hsame.symm, by rw [hrecorded.lifetime_eq]⟩
    · rw [standing, if_neg hsame] at hstanding
      exact .inr ⟨Ne.symm hsame, hrecorded.kept packetId key' time hstanding hlive⟩
  remembered packetId time hmem := by
    rcases List.mem_cons.mp hmem with hsame | hmem
    · cases hsame
    · exact hrecorded.remembered packetId time hmem
  once := hrecorded.once.cons nofun

theorem Recorded.spend (hrecorded : Recorded capacity lifetime run)
    (hentry : packetId ∈ run.table.entries) :
    Recorded capacity lifetime
      { run with
        table := run.table.spend run.clock packetId
        history := .consumed packetId run.clock :: run.history } where
  capacity_eq := hrecorded.capacity_eq
  lifetime_eq := hrecorded.lifetime_eq
  size := by
    refine le_trans ?_ hrecorded.size
    exact (List.kerase_sublist packetId run.table.entries.entries).length_le
  apart other hother hconsumed := by
    obtain ⟨hne, hother⟩ := AList.mem_erase.mp hother
    rcases (AList.mem_insert _).mp hconsumed with hsame | hconsumed
    · exact hne hsame
    · exact hrecorded.apart other hother hconsumed
  recorded other mapping hfound := by
    obtain ⟨hne, hfound⟩ := lookup_erase_eq_some.mp hfound
    rw [standing, if_neg (Ne.symm hne)]
    exact hrecorded.recorded other mapping hfound
  kept other key time hstanding hlive := by
    by_cases hsame : packetId = other
    · rw [standing, if_pos hsame] at hstanding
      cases hstanding
    · rw [standing, if_neg hsame] at hstanding
      exact lookup_erase_eq_some.mpr ⟨Ne.symm hsame, hrecorded.kept other key time hstanding hlive⟩
  remembered other time hmem hlive := by
    refine lookup_insert_eq_some.mpr ?_
    rcases List.mem_cons.mp hmem with hsame | hmem
    · cases hsame
      exact .inl ⟨rfl, by rw [hrecorded.lifetime_eq]⟩
    · have hheld := hrecorded.remembered other time hmem hlive
      refine .inr ⟨?_, hheld⟩
      -- A packet that is still remembered is no entry, so it cannot be consumed again.
      rintro rfl
      exact hrecorded.apart other hentry (mem_iff_lookup.mpr ⟨_, hheld⟩)
  once := by
    refine hrecorded.once.cons ?_
    rintro _ _ ⟨⟩
    obtain ⟨mapping, hmapping⟩ := mem_iff_lookup.mp hentry
    obtain ⟨time, hstanding, -⟩ := hrecorded.recorded _ _ hmapping
    rw [hstanding]
    rfl

theorem Recorded.removeSession (hrecorded : Recorded capacity lifetime run)
    (sessionId : SessionId) :
    Recorded capacity lifetime
      { run with
        table := run.table.removeSession sessionId
        history := .removed sessionId :: run.history } where
  capacity_eq := hrecorded.capacity_eq
  lifetime_eq := hrecorded.lifetime_eq
  size := (List.length_filter_le _ _).trans hrecorded.size
  apart packetId hentry := by
    obtain ⟨mapping, hmapping⟩ := mem_iff_lookup.mp hentry
    have hfound := (ReturnPathTable.removeSession_entries.mp hmapping).1
    exact hrecorded.apart packetId (mem_iff_lookup.mpr ⟨mapping, hfound⟩)
  recorded packetId mapping hfound := by
    obtain ⟨hfound, hsession⟩ := ReturnPathTable.removeSession_entries.mp hfound
    obtain ⟨time, hstanding, hexpires⟩ := hrecorded.recorded packetId mapping hfound
    refine ⟨time, ?_, hexpires⟩
    rw [standing, hstanding, Option.filter_some, if_pos (decide_eq_true hsession)]
  kept packetId key time hstanding hlive := by
    rw [standing, Option.filter_eq_some_iff] at hstanding
    obtain ⟨hstanding, hsession⟩ := hstanding
    have hfound := hrecorded.kept packetId key time hstanding hlive
    exact ReturnPathTable.removeSession_entries.mpr ⟨hfound, of_decide_eq_true hsession⟩
  remembered packetId time hmem := by
    rcases List.mem_cons.mp hmem with hsame | hmem
    · cases hsame
    · exact hrecorded.remembered packetId time hmem
  once := hrecorded.once.cons nofun

/-! ## Every step -/

theorem Recorded.insert (hrecorded : Recorded capacity lifetime run) (key : ReturnPathKey)
    (hlater : run.clock ≤ now) (hstamped : now ≤ stamp) :
    Recorded capacity lifetime
      { table := (ReturnPathTable.insert now stamp key run.table).2
        clock := stamp
        history := whenOk (.inserted key stamp)
          (ReturnPathTable.insert now stamp key run.table).1 ++ run.history } := by
  have hclean := (hrecorded.cleanup hlater).advance hstamped
  rcases ReturnPathTable.insert_cases now stamp key run.table with
    ⟨-, hrun⟩ | hrun | ⟨hentries, hconsumed, hroom, hrun⟩
  · rw [hrun]
    exact hclean
  · rw [hrun]
    exact hclean
  · rw [hrun]
    rw [hrecorded.capacity_eq] at hroom
    exact hclean.note hentries hconsumed hroom

theorem Recorded.consume (hrecorded : Recorded capacity lifetime run) (packetId : SessionId)
    (expected : ReturnPathKey) (hlater : run.clock ≤ now) (hstamped : now ≤ stamp) :
    Recorded capacity lifetime
      { table := (ReturnPathTable.consume now stamp packetId expected run.table).2
        clock := stamp
        history := whenOk (.consumed packetId stamp)
          (ReturnPathTable.consume now stamp packetId expected run.table).1 ++ run.history } := by
  have hclean := (hrecorded.cleanup hlater).advance hstamped
  rcases ReturnPathTable.consume_cases now stamp packetId expected run.table with
    ⟨mapping, hlookup, hrun⟩ | ⟨hfails, hrun⟩
  · rw [hrun]
    have hfound := (ReturnPathTable.lookup_eq_ok.mp hlookup).1
    exact hclean.spend (mem_iff_lookup.mpr ⟨mapping, hfound⟩)
  · rw [hrun]
    rcases hresult : (ReturnPathTable.lookup now packetId expected run.table).1 with
      mapping | reason | _
    · exact absurd ⟨mapping, hresult⟩ hfails
    · exact hclean
    · exact hclean

theorem recorded_of_reachable (hreach : (returnRuns capacity lifetime).Reachable run) :
    Recorded capacity lifetime run := by
  refine hreach.invariant (Recorded capacity lifetime) ?_ ?_
  · rintro run ⟨hnew, hhistory⟩
    exact .new hnew hhistory
  · rintro run next - hrecorded hstep
    cases hstep with
    | insert key now stamp hlater hstamped => exact hrecorded.insert key hlater hstamped
    | lookup packetId expected now hlater =>
        rw [ReturnPathTable.lookup_state]
        exact hrecorded.cleanup hlater
    | consume packetId expected now stamp hlater hstamped =>
        exact hrecorded.consume packetId expected hlater hstamped
    | removeSession sessionId => exact hrecorded.removeSession sessionId
    | cleanup now hlater => exact hrecorded.cleanup hlater

/-! ## Answers -/

/-- At a time that is not over, the entries that have not expired are the standing insertions. -/
theorem Recorded.entries_iff (hrecorded : Recorded capacity lifetime run)
    (hlater : run.clock ≤ now) {mapping : ReturnPathMapping} :
    (run.table.cleanup now).entries.lookup packetId = some mapping ↔
      ∃ time, standing packetId run.history = some (mapping.key, time) ∧
        mapping.expiresAt = time + lifetime ∧ now < time + lifetime := by
  rw [ReturnPathTable.cleanup_entries]
  constructor
  · rintro ⟨hfound, hlive⟩
    obtain ⟨time, hstanding, hexpires⟩ := hrecorded.recorded packetId mapping hfound
    exact ⟨time, hstanding, hexpires, hexpires ▸ hlive⟩
  · rintro ⟨time, hstanding, hexpires, hlive⟩
    have hfound := hrecorded.kept packetId _ time hstanding (hlater.trans_lt hlive)
    rw [← hexpires] at hfound hlive
    exact ⟨hfound, hlive⟩

/-- Which consumptions succeed. -/
theorem Recorded.consume_isOk (hrecorded : Recorded capacity lifetime run)
    (hlater : run.clock ≤ now) {key : ReturnPathKey} :
    (ReturnPathTable.consume now stamp packetId key run.table).1.IsOk ↔
      ∃ time, standing packetId run.history = some (key, time) ∧ now < time + lifetime := by
  have hlookup : (ReturnPathTable.consume now stamp packetId key run.table).1.IsOk ↔
      ∃ mapping, (ReturnPathTable.lookup now packetId key run.table).1 = .ok mapping := by
    rcases ReturnPathTable.consume_cases now stamp packetId key run.table with
      ⟨mapping, hfound, hrun⟩ | ⟨hfails, hrun⟩
    · rw [hrun]
      exact iff_of_true ⟨mapping, rfl⟩ ⟨mapping, hfound⟩
    · rw [hrun]
      exact iff_of_false hfails hfails
  rw [hlookup]
  constructor
  · rintro ⟨mapping, hfound⟩
    obtain ⟨hentry, rfl⟩ := ReturnPathTable.lookup_eq_ok.mp hfound
    obtain ⟨time, hstanding, -, hlive⟩ := (hrecorded.entries_iff hlater).mp hentry
    exact ⟨time, hstanding, hlive⟩
  · rintro ⟨time, hstanding, hlive⟩
    refine ⟨⟨key, time + lifetime⟩, ReturnPathTable.lookup_eq_ok.mpr ⟨?_, rfl⟩⟩
    exact (hrecorded.entries_iff hlater).mpr ⟨time, hstanding, rfl, hlive⟩

/-- What was consumed is refused until its lifetime is over. -/
theorem Recorded.refused (hrecorded : Recorded capacity lifetime run) {time : Nat}
    (hconsumed : .consumed packetId time ∈ run.history) (hlater : run.clock ≤ now)
    (hlive : now < time + lifetime) (stamp : Nat) :
    (∀ expected, (ReturnPathTable.lookup now packetId expected run.table).1 = .error .replayed ∧
      (ReturnPathTable.consume now stamp packetId expected run.table).1 = .error .replayed) ∧
    ∀ key, key.packetId = packetId →
      (ReturnPathTable.insert now stamp key run.table).1 = .error .duplicate := by
  have hclean := hrecorded.cleanup hlater
  have hheld : packetId ∈ (run.table.cleanup now).consumed :=
    mem_iff_lookup.mpr ⟨_, hclean.remembered packetId time hconsumed hlive⟩
  have hentry : packetId ∉ (run.table.cleanup now).entries :=
    fun hentry => hclean.apart packetId hentry hheld
  refine ⟨fun expected => ?_, ?_⟩
  · have hlookup : (ReturnPathTable.lookup now packetId expected run.table).1 = .error .replayed :=
      ReturnPathTable.lookup_replayed hentry hheld
    refine ⟨hlookup, ?_⟩
    rcases ReturnPathTable.consume_cases now stamp packetId expected run.table with
      ⟨mapping, hfound, -⟩ | ⟨-, hrun⟩
    · rw [hlookup] at hfound
      cases hfound
    · rw [hrun]
      exact hlookup
  · rintro key rfl
    simp only [ReturnPathTable.insert, Fallible.modify_bind_run, Fallible.get_bind_run,
      Fallible.failWhen_bind_run]
    rw [if_pos (Or.inr hheld)]

/-- What stands behind a consumption was inserted since. -/
theorem inserted_of_standing {middle earlier : List ReturnRecord} {time : Nat}
    (hstanding : (standing packetId (middle ++ .consumed packetId time :: earlier)).isSome) :
    ∃ key time, .inserted key time ∈ middle ∧ key.packetId = packetId := by
  induction middle with
  | nil => simp [standing] at hstanding
  | cons record middle ih =>
      cases record with
      | inserted key time =>
          by_cases hsame : key.packetId = packetId
          · exact ⟨key, time, List.mem_cons_self, hsame⟩
          · rw [List.cons_append, standing, if_neg hsame] at hstanding
            obtain ⟨key, time, hmem, hkey⟩ := ih hstanding
            exact ⟨key, time, .tail _ hmem, hkey⟩
      | consumed packetId' time =>
          rw [List.cons_append, standing] at hstanding
          split_ifs at hstanding with hsame
          · cases hstanding
          · obtain ⟨key, time, hmem, hkey⟩ := ih hstanding
            exact ⟨key, time, .tail _ hmem, hkey⟩
      | removed sessionId =>
          rw [List.cons_append, standing] at hstanding
          obtain ⟨key, time, hmem, hkey⟩ := ih (Option.isSome_of_isSome_filter _ _ hstanding)
          exact ⟨key, time, .tail _ hmem, hkey⟩

end ReturnRun

/-- In every state of every run: no packet is waited for and consumed, the entries are within the
capacity, the consumptions that succeed are those of standing insertions that have not expired,
between two consumptions of a packet it was inserted, and a packet that was consumed is refused
until its lifetime is over. -/
theorem return_path_laws {capacity lifetime : Nat} {run : ReturnRun}
    (hreach : (returnRuns capacity lifetime).Reachable run) :
    (∀ packetId, ¬ (packetId ∈ run.table.entries ∧ packetId ∈ run.table.consumed)) ∧
    run.table.entries.entries.length ≤ capacity ∧
    (∀ packetId key now stamp, run.clock ≤ now →
      ((ReturnPathTable.consume now stamp packetId key run.table).1.IsOk ↔
        ∃ time, ReturnRecord.standing packetId run.history = some (key, time) ∧
          now < time + lifetime)) ∧
    (∀ packetId later second middle first earlier,
      run.history = later ++ .consumed packetId second ::
        (middle ++ .consumed packetId first :: earlier) →
      ∃ key time, .inserted key time ∈ middle ∧ key.packetId = packetId) ∧
    ∀ packetId time, .consumed packetId time ∈ run.history →
      ∀ now stamp, run.clock ≤ now → now < time + lifetime →
        (∀ expected,
          (ReturnPathTable.lookup now packetId expected run.table).1 = .error .replayed ∧
          (ReturnPathTable.consume now stamp packetId expected run.table).1 = .error .replayed) ∧
        ∀ key, key.packetId = packetId →
          (ReturnPathTable.insert now stamp key run.table).1 = .error .duplicate := by
  have hrecorded := ReturnRun.recorded_of_reachable hreach
  refine ⟨?_, hrecorded.size, ?_, ?_, ?_⟩
  · rintro packetId ⟨hentry, hconsumed⟩
    exact hrecorded.apart packetId hentry hconsumed
  · intro packetId key now stamp hlater
    exact hrecorded.consume_isOk hlater
  · intro packetId later second middle first earlier hsplit
    exact ReturnRun.inserted_of_standing (hrecorded.once _ _ _ _ hsplit)
  · intro packetId time hconsumed now stamp hlater hlive
    exact hrecorded.refused hconsumed hlater hlive stamp

/-- A packet of some session. -/
def samplePacket : ReturnPathKey where
  sessionId := ⟨Vector.replicate 16 2⟩
  packetId := ⟨Vector.replicate 16 1⟩
  sourceIdentity := ⟨[3]⟩
  entryPeer := ⟨[1]⟩
  exitPeer := ⟨[2]⟩

/-- A packet is inserted and consumed, and then it is refused. -/
theorem return_path_laws_consumed : ∃ run, (returnRuns 2 30).Reachable run ∧
    (ReturnPathTable.consume 10 10 samplePacket.packetId samplePacket run.table).1 =
      .error .replayed := by
  let empty : ReturnPathTable := ⟨∅, ∅, 2, 30⟩
  let inserted : ReturnPathTable := (ReturnPathTable.insert 0 0 samplePacket empty).2
  have hstart : (returnRuns 2 30).Reachable ⟨empty, 0, []⟩ := .of_init ⟨rfl, rfl⟩
  have hinserted := hstart.tail (ReturnStep.insert samplePacket 0 0 le_rfl le_rfl)
  have hconsumed := hinserted.tail
    (ReturnStep.consume samplePacket.packetId samplePacket 5 6 (Nat.zero_le 5) (by decide))
  have hok : (ReturnPathTable.consume 5 6 samplePacket.packetId samplePacket inserted).1 =
      .ok ⟨samplePacket, 30⟩ := by rfl
  refine ⟨_, hconsumed, ?_⟩
  obtain ⟨-, -, -, -, hrefused⟩ := return_path_laws hconsumed
  have hrecord : ReturnRecord.consumed samplePacket.packetId 6 ∈ ReturnRecord.whenOk
      (.consumed samplePacket.packetId 6)
      (ReturnPathTable.consume 5 6 samplePacket.packetId samplePacket inserted).1 := by
    rw [hok]
    exact List.mem_cons_self
  exact ((hrefused _ 6 (List.mem_append_left _ hrecord) 10 10 (by decide) (by decide)).1 _).2

end Network
