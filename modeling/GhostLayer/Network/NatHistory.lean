import GhostLayer.Foundation.Transition
import GhostLayer.Network.NatLaws

/-! # Runs of a translation table

Every operation of a table under a clock that does not go back, and what the
table then answers: a translated address leads to the mapping of its latest
creation, until it expires or its session is removed.
-/

namespace Network

open Foundation

namespace NatTable

variable {table final : NatTable} {key : FlowKey} {mapping : NatMapping} {now stamp : Nat}

theorem Coherent.reverse_iff (hcoherent : Coherent table) {address : SocketAddr} :
    table.reverse.lookup address = some key ↔
      ∃ mapping, table.mappings.lookup key = some mapping ∧ mapping.translated = address := by
  constructor
  · exact hcoherent.backward address key
  · rintro ⟨mapping, hfound, rfl⟩
    exact hcoherent.forward key mapping hfound

/-- Two flows do not share a translated address. -/
theorem Coherent.eq_of_translated_eq (hcoherent : Coherent table) {key' : FlowKey}
    {mapping' : NatMapping} (hfound : table.mappings.lookup key = some mapping)
    (hfound' : table.mappings.lookup key' = some mapping')
    (hsame : mapping.translated = mapping'.translated) : key = key' := by
  have hkey := hcoherent.forward _ _ hfound
  rw [hsame, hcoherent.forward _ _ hfound'] at hkey
  exact (Option.some.inj hkey).symm

/-! ## Removing a session -/

/-- Remove one flow, if it is there. -/
def removeKey (table : NatTable) (key : FlowKey) : NatTable :=
  match table.mappings.lookup key with
  | some mapping => table.drop (key, mapping.translated)
  | none => table

theorem removeKey_mappings {key' : FlowKey} :
    (table.removeKey key').mappings.lookup key =
      if key = key' then none else table.mappings.lookup key := by
  unfold removeKey
  cases hfound : table.mappings.lookup key' with
  | none =>
      by_cases hkey : key = key'
      · subst hkey
        simp [hfound]
      · simp [hkey]
  | some mapping =>
      by_cases hkey : key = key'
      · subst hkey
        simp [drop]
      · simp [drop, hkey]

theorem Coherent.removeKey (hcoherent : Coherent table) (key : FlowKey) :
    Coherent (table.removeKey key) := by
  unfold NatTable.removeKey
  cases hfound : table.mappings.lookup key with
  | none => exact hcoherent
  | some mapping =>
      constructor
      · intro key' mapping' hkept
        obtain ⟨hne, hkept⟩ := lookup_erase_eq_some.mp hkept
        refine lookup_erase_eq_some.mpr ⟨fun hsame => ?_, hcoherent.forward _ _ hkept⟩
        exact hne (hcoherent.eq_of_translated_eq hkept hfound hsame)
      · intro address key' hkept
        obtain ⟨hne, hkept⟩ := lookup_erase_eq_some.mp hkept
        obtain ⟨mapping', hmapping, rfl⟩ := hcoherent.backward _ _ hkept
        refine ⟨mapping', lookup_erase_eq_some.mpr ⟨?_, hmapping⟩, rfl⟩
        rintro rfl
        rw [hfound] at hmapping
        exact hne (congrArg NatMapping.translated (Option.some.inj hmapping)).symm

theorem foldl_removeKey_mappings (keys : List FlowKey) (table : NatTable) :
    (keys.foldl removeKey table).mappings.lookup key =
      if key ∈ keys then none else table.mappings.lookup key := by
  induction keys generalizing table with
  | nil => simp
  | cons first rest ih =>
      rw [List.foldl_cons, ih, removeKey_mappings]
      by_cases hrest : key ∈ rest <;> by_cases hfirst : key = first <;> simp [hrest, hfirst]

theorem Coherent.foldl_removeKey (keys : List FlowKey) (hcoherent : Coherent table) :
    Coherent (keys.foldl NatTable.removeKey table) := by
  induction keys generalizing table with
  | nil => exact hcoherent
  | cons first rest ih => exact ih (hcoherent.removeKey first)

theorem removeSession_eq (sessionId : SessionId) :
    table.removeSession sessionId =
      (table.mappings.keys.filter (fun key => key.sessionId = sessionId)).foldl removeKey table :=
  rfl

/-- Removing a session takes away its mappings and no others. -/
theorem removeSession_mappings {sessionId : SessionId} :
    (table.removeSession sessionId).mappings.lookup key =
      if key.sessionId = sessionId then none else table.mappings.lookup key := by
  rw [removeSession_eq, foldl_removeKey_mappings]
  by_cases hsession : key.sessionId = sessionId
  · by_cases hknown : key ∈ table.mappings
    · simp [hsession, AList.mem_keys.mp hknown]
    · simp [hsession, AList.lookup_eq_none.mpr hknown]
  · simp [hsession]

theorem Coherent.removeSession (hcoherent : Coherent table) (sessionId : SessionId) :
    Coherent (table.removeSession sessionId) := by
  rw [removeSession_eq]
  exact hcoherent.foldl_removeKey _

/-! ## Limits and ports -/

/-- What a table keeps from its start: its limit, its address, and ports from 40000 on. -/
structure Within (address : IpAddr) (maximum : Nat) (table : NatTable) : Prop where
  coherent : Coherent table
  size : table.mappings.entries.length ≤ maximum
  limit : table.maximumMappings = maximum
  translated : table.translatedAddress = address
  nextPort : 40000 ≤ table.nextPort.toNat
  ports : EveryEntry (fun _ mapping => ∃ port : UInt16, 40000 ≤ port.toNat ∧
    mapping.translated = .new address port) table.mappings

variable {address : IpAddr} {maximum : Nat}

theorem length_erase_le (key : FlowKey) (mappings : AList (fun _ : FlowKey => NatMapping)) :
    (mappings.erase key).entries.length ≤ mappings.entries.length :=
  (List.kerase_sublist key mappings.entries).length_le

/-- Dropping mappings changes nothing else and makes the table no larger. -/
theorem foldl_drop_keeps (entries : List (FlowKey × SocketAddr)) (table : NatTable) :
    (entries.foldl (fun table entry => table.drop entry) table).mappings.entries.length ≤
        table.mappings.entries.length ∧
      (entries.foldl (fun table entry => table.drop entry) table).maximumMappings =
        table.maximumMappings ∧
      (entries.foldl (fun table entry => table.drop entry) table).translatedAddress =
        table.translatedAddress ∧
      (entries.foldl (fun table entry => table.drop entry) table).nextPort = table.nextPort := by
  induction entries generalizing table with
  | nil => exact ⟨le_rfl, rfl, rfl, rfl⟩
  | cons entry rest ih =>
      obtain ⟨hlength, hlimit, haddress, hport⟩ := ih (table.drop entry)
      exact ⟨hlength.trans (length_erase_le _ _), hlimit, haddress, hport⟩

theorem Within.cleanup (hwithin : Within address maximum table) (now : Nat) :
    Within address maximum (table.cleanup now) := by
  obtain ⟨hlength, hlimit, haddress, hport⟩ := foldl_drop_keeps (table.expired now) table
  exact {
    coherent := hwithin.coherent.cleanup now
    size := hlength.trans hwithin.size
    limit := hlimit.trans hwithin.limit
    translated := haddress.trans hwithin.translated
    nextPort := hport.symm ▸ hwithin.nextPort
    ports := fun key mapping hfound => hwithin.ports key mapping (cleanup_mappings.mp hfound).1 }

theorem foldl_removeKey_keeps (keys : List FlowKey) (table : NatTable) :
    (keys.foldl removeKey table).mappings.entries.length ≤ table.mappings.entries.length ∧
      (keys.foldl removeKey table).maximumMappings = table.maximumMappings ∧
      (keys.foldl removeKey table).translatedAddress = table.translatedAddress ∧
      (keys.foldl removeKey table).nextPort = table.nextPort := by
  induction keys generalizing table with
  | nil => exact ⟨le_rfl, rfl, rfl, rfl⟩
  | cons key rest ih =>
      have hfirst : (table.removeKey key).mappings.entries.length ≤ table.mappings.entries.length ∧
          (table.removeKey key).maximumMappings = table.maximumMappings ∧
          (table.removeKey key).translatedAddress = table.translatedAddress ∧
          (table.removeKey key).nextPort = table.nextPort := by
        unfold removeKey
        cases table.mappings.lookup key with
        | none => exact ⟨le_rfl, rfl, rfl, rfl⟩
        | some mapping => exact ⟨length_erase_le _ _, rfl, rfl, rfl⟩
      obtain ⟨hlength, hlimit, haddress, hport⟩ := ih (table.removeKey key)
      exact ⟨hlength.trans hfirst.1, hlimit.trans hfirst.2.1, haddress.trans hfirst.2.2.1,
        hport.trans hfirst.2.2.2⟩

theorem Within.removeSession (hwithin : Within address maximum table) (sessionId : SessionId) :
    Within address maximum (table.removeSession sessionId) := by
  obtain ⟨hlength, hlimit, haddress, hport⟩ := foldl_removeKey_keeps
    (table.mappings.keys.filter (fun key => key.sessionId = sessionId)) table
  refine {
    coherent := hwithin.coherent.removeSession sessionId
    size := hlength.trans hwithin.size
    limit := hlimit.trans hwithin.limit
    translated := haddress.trans hwithin.translated
    nextPort := hport.symm ▸ hwithin.nextPort
    ports := fun key mapping hfound => hwithin.ports key mapping ?_ }
  rw [removeSession_mappings] at hfound
  split_ifs at hfound
  exact hfound

theorem le_followingPort {port : UInt16} (hport : 40000 ≤ port.toNat) :
    40000 ≤ (followingPort port).toNat := by
  unfold followingPort
  split_ifs with hlast
  · decide
  · have hne : port.toNat ≠ 65535 := fun hsame => hlast (UInt16.toNat_inj.mp hsame)
    have hlt : port.toNat < 65536 := port.toNat_lt
    rw [UInt16.toNat_add]
    simp only [UInt16.reduceToNat, Nat.reducePow]
    omega

/-- The search moves on within the ports, and what it finds is one of them. -/
theorem searchPort_ports (tries : Nat) (hport : 40000 ≤ table.nextPort.toNat) :
    (∃ port : UInt16, 40000 ≤ port.toNat ∧
        (searchPort tries table).2 = { table with nextPort := port }) ∧
      ∀ found, (searchPort tries table).1 = .ok found → ∃ port : UInt16, 40000 ≤ port.toNat ∧
        found = .new table.translatedAddress port := by
  induction tries generalizing table with
  | zero => exact ⟨⟨table.nextPort, hport, rfl⟩, nofun⟩
  | succ tries ih =>
      simp only [searchPort, Fallible.get_bind_run, Fallible.modify_bind_run]
      split_ifs
      · refine ⟨⟨_, le_followingPort hport, rfl⟩, fun found hfound => ?_⟩
        exact ⟨table.nextPort, hport, (Outcome.ok.inj hfound).symm⟩
      · have hnext : 40000 ≤
            ({ table with nextPort := followingPort table.nextPort } : NatTable).nextPort.toNat :=
          le_followingPort hport
        obtain ⟨⟨port, hbound, hstate⟩, hfound⟩ := ih hnext
        exact ⟨⟨port, hbound, hstate⟩, hfound⟩

/-- A creation that fails leaves the mappings that have not expired. -/
theorem create_fails (hport : 40000 ≤ (table.cleanup now).nextPort.toNat)
    (hfails : ∀ mapping, (create now stamp key table).1 ≠ .ok mapping) :
    ∃ port : UInt16, 40000 ≤ port.toNat ∧
      (create now stamp key table).2 = { table.cleanup now with nextPort := port } := by
  simp only [create, Fallible.modify_bind_run, Fallible.get_bind_run, Fallible.failWhen_bind_run]
    at hfails ⊢
  split_ifs at hfails ⊢
  · exact ⟨_, hport, rfl⟩
  · exact ⟨_, hport, rfl⟩
  · obtain ⟨⟨port, hbound, hstate⟩, _⟩ := searchPort_ports (65535 - 40000 + 1) hport
    rw [Fallible.bind_run] at hfails ⊢
    rcases hsearch : allocatePort (table.cleanup now) with ⟨found | reason | _, next⟩ <;>
      rw [← allocatePort.eq_def, hsearch] at hstate <;>
      simp only [hsearch] at hfails ⊢
    · exact absurd rfl (hfails _)
    · exact ⟨port, hbound, hstate⟩
    · exact ⟨port, hbound, hstate⟩

theorem new_within {lifetime : Nat} (hnew : NatTable.new address maximum lifetime = .ok table) :
    Within address maximum table := by
  have hcoherent := new_coherent hnew
  simp only [NatTable.new, Check.bind_eq_ok, pure, Except.pure, Except.ok.injEq] at hnew
  obtain ⟨_, _, rfl⟩ := hnew
  exact ⟨hcoherent, Nat.zero_le _, rfl, rfl, Nat.le_refl 40000, .empty⟩

theorem Within.create (hwithin : Within address maximum table) (now stamp : Nat) (key : FlowKey) :
    Within address maximum (create now stamp key table).2 := by
  have hclean := hwithin.cleanup now
  by_cases hok : (NatTable.create now stamp key table).1.IsOk
  · obtain ⟨mapping, final, hcreate⟩ := Fallible.isOk_iff.mp hok
    rw [hcreate]
    have hcan := (create_isOk stamp).mp hok
    obtain ⟨_, _, _, hmappings, _⟩ := create_ok hcreate
    have hcoherent := hwithin.coherent.create hcreate
    simp only [NatTable.create, Fallible.modify_bind_run, Fallible.get_bind_run,
      Fallible.bind_eq_ok, Fallible.failWhen_eq_ok, Fallible.pure_eq_ok] at hcreate
    obtain ⟨_, _, ⟨_, rfl⟩, _, _, ⟨_, rfl⟩, found, _, hsearch, rfl, rfl⟩ := hcreate
    obtain ⟨⟨port, hbound, hstate⟩, hfound⟩ :=
      searchPort_ports (65535 - 40000 + 1) hclean.nextPort
    rw [← allocatePort.eq_def, hsearch] at hstate hfound
    subst hstate
    obtain ⟨port', hbound', rfl⟩ := hfound found rfl
    refine {
      coherent := hcoherent
      size := ?_
      limit := hclean.limit
      translated := hclean.translated
      nextPort := hbound
      ports := hclean.ports.insert ⟨port', hbound', by rw [hclean.translated]⟩ }
    show ((table.cleanup now).mappings.insert _ _).entries.length ≤ maximum
    rw [AList.entries_insert_of_notMem (AList.lookup_eq_none.mp hcan.fresh), List.length_cons]
    have hroom := hcan.room
    rw [hwithin.limit] at hroom
    omega
  · obtain ⟨port, hbound, hstate⟩ := create_fails hclean.nextPort
      (fun mapping hmapping => hok ⟨mapping, hmapping⟩)
    rw [hstate]
    exact { hclean with nextPort := hbound, coherent := ⟨hclean.coherent.1, hclean.coherent.2⟩ }

/-- What a lookup by a translated address finds. -/
theorem Coherent.lookupReverse_eq_ok (hcoherent : Coherent table) {translated : SocketAddr} :
    (lookupReverse now translated key table).1 = .ok mapping ↔
      table.mappings.lookup key = some mapping ∧ mapping.translated = translated ∧
        now < mapping.expiresAt := by
  simp only [lookupReverse, Fallible.modify_bind_run, Fallible.get_bind_run]
  cases hreverse : (table.cleanup now).reverse.lookup translated with
  | none =>
      simp only [Fallible.orThrow_none, Fallible.throw_bind_run, Fallible.throw_run, reduceCtorEq,
        false_iff]
      rintro ⟨hfound, rfl, hlive⟩
      rw [hcoherent.cleanup_reverse.mpr ⟨mapping, hfound, hlive, rfl⟩] at hreverse
      cases hreverse
  | some found =>
      obtain ⟨held, hheld, hlive, rfl⟩ := hcoherent.cleanup_reverse.mp hreverse
      have hclean := cleanup_mappings.mpr ⟨hheld, hlive⟩
      simp only [Fallible.orThrow_some, Fallible.pure_bind_run, Fallible.failWhen_bind_run]
      by_cases hkey : found = key
      · subst hkey
        simp only [ne_eq, not_true_eq_false, ↓reduceIte, hclean, Fallible.orThrow_some,
          Fallible.pure_run, Outcome.ok.injEq, hheld, Option.some.injEq]
        constructor
        · rintro rfl
          exact ⟨rfl, rfl, hlive⟩
        · rintro ⟨rfl, _⟩
          rfl
      · simp only [ne_eq, hkey, not_false_eq_true, ↓reduceIte, reduceCtorEq, false_iff]
        rintro ⟨hfound, hsame, _⟩
        exact hkey (hcoherent.eq_of_translated_eq hheld hfound hsame.symm)

end NatTable

/-! ## Runs -/

/-- A call that changed which flow has which mapping. -/
inductive NatRecord where
  | created (key : FlowKey) (mapping : NatMapping)
  | removed (sessionId : SessionId)

/-- The mapping that the latest successful creation of a flow returned, unless its session was
removed since. The newest record comes first. -/
def latest (key : FlowKey) : List NatRecord → Option NatMapping
  | [] => none
  | .created key' mapping :: earlier => if key' = key then some mapping else latest key earlier
  | .removed sessionId :: earlier => if key.sessionId = sessionId then none else latest key earlier

/-- A table, the last reading of the clock, and the records so far. -/
structure NatRun where
  table : NatTable
  clock : Nat
  history : List NatRecord

/-- The record of a creation, if it succeeded. -/
def recordOf (key : FlowKey) : Outcome NatError NatMapping → List NatRecord
  | .ok mapping => [.created key mapping]
  | .error _ | .panic => []

/-- A call of one of the operations; the clock does not go back. -/
inductive NatStep (run : NatRun) : NatRun → Prop
  | create (key : FlowKey) (now stamp : Nat) (later : run.clock ≤ now) (stamped : now ≤ stamp) :
      NatStep run
        { table := (NatTable.create now stamp key run.table).2
          clock := stamp
          history := recordOf key (NatTable.create now stamp key run.table).1 ++ run.history }
  | lookupForward (key : FlowKey) (now : Nat) (later : run.clock ≤ now) :
      NatStep run
        { run with table := (NatTable.lookupForward now key run.table).2, clock := now }
  | lookupReverse (address : SocketAddr) (key : FlowKey) (now : Nat) (later : run.clock ≤ now) :
      NatStep run
        { run with table := (NatTable.lookupReverse now address key run.table).2, clock := now }
  | removeSession (sessionId : SessionId) :
      NatStep run
        { run with
          table := run.table.removeSession sessionId
          history := .removed sessionId :: run.history }
  | cleanup (now : Nat) (later : run.clock ≤ now) :
      NatStep run { run with table := run.table.cleanup now, clock := now }

def natRuns (address : IpAddr) (maximum lifetime : Nat) : System NatRun where
  init run := NatTable.new address maximum lifetime = .ok run.table ∧ run.history = []
  step := NatStep

namespace NatRun

variable {run next : NatRun} {address : IpAddr} {maximum lifetime : Nat}

/-- The table has the latest mappings of the flows, and all of those that have not expired. -/
structure Recorded (run : NatRun) : Prop where
  recorded : ∀ key mapping, run.table.mappings.lookup key = some mapping →
    latest key run.history = some mapping
  kept : ∀ key mapping, latest key run.history = some mapping → run.clock < mapping.expiresAt →
    run.table.mappings.lookup key = some mapping

/-- Dropping what has expired keeps the records. -/
theorem Recorded.cleanup (hrecorded : Recorded run) {now : Nat} (hlater : run.clock ≤ now) :
    Recorded { run with table := run.table.cleanup now, clock := now } where
  recorded key mapping hfound := hrecorded.recorded key mapping
    (NatTable.cleanup_mappings.mp hfound).1
  kept key mapping hlatest hlive :=
    NatTable.cleanup_mappings.mpr
      ⟨hrecorded.kept key mapping hlatest (hlater.trans_lt hlive), hlive⟩

theorem Recorded.create (hrecorded : Recorded run) (hwithin : run.table.Within address maximum)
    {now stamp : Nat} (key : FlowKey) (hlater : run.clock ≤ now) (hstamped : now ≤ stamp) :
    Recorded
      { table := (NatTable.create now stamp key run.table).2
        clock := stamp
        history := recordOf key (NatTable.create now stamp key run.table).1 ++ run.history } := by
  have hclean := hrecorded.cleanup hlater
  by_cases hok : (NatTable.create now stamp key run.table).1.IsOk
  · obtain ⟨created, final, hcreate⟩ := Fallible.isOk_iff.mp hok
    obtain ⟨hfresh, _, _, hmappings, _⟩ := NatTable.create_ok hcreate
    simp only [hcreate, recordOf, List.singleton_append]
    constructor
    · intro key' mapping hfound
      rw [hmappings] at hfound
      rcases lookup_insert_eq_some.mp hfound with ⟨rfl, rfl⟩ | ⟨hne, hfound⟩
      · simp [latest]
      · rw [latest, if_neg (Ne.symm hne)]
        exact hclean.recorded key' mapping hfound
    · intro key' mapping hlatest hlive
      rw [hmappings]
      -- The new record is the latest one of its own flow, and no record of any other.
      by_cases hkey : key = key'
      · subst hkey
        rw [latest, if_pos rfl] at hlatest
        rw [Option.some.inj hlatest, AList.lookup_insert]
      · rw [latest, if_neg hkey] at hlatest
        exact lookup_insert_eq_some.mpr (.inr ⟨Ne.symm hkey,
          hclean.kept key' mapping hlatest (hstamped.trans_lt hlive)⟩)
  · obtain ⟨port, _, hstate⟩ := NatTable.create_fails (hwithin.cleanup now).nextPort
      (fun mapping hmapping => hok ⟨mapping, hmapping⟩)
    have hnone : recordOf key (NatTable.create now stamp key run.table).1 = [] := by
      rcases hresult : (NatTable.create now stamp key run.table).1 with mapping | reason | _
      · exact absurd ⟨mapping, hresult⟩ hok
      · rfl
      · rfl
    rw [hnone, hstate]
    exact ⟨hclean.recorded, fun key' mapping hlatest hlive =>
      hclean.kept key' mapping hlatest (hstamped.trans_lt hlive)⟩

theorem Recorded.removeSession (hrecorded : Recorded run) (sessionId : SessionId) :
    Recorded { run with
      table := run.table.removeSession sessionId
      history := .removed sessionId :: run.history } := by
  constructor
  · intro key mapping hfound
    rw [NatTable.removeSession_mappings] at hfound
    split_ifs at hfound with hsession
    rw [latest, if_neg hsession]
    exact hrecorded.recorded key mapping hfound
  · intro key mapping hlatest hlive
    rw [latest] at hlatest
    split_ifs at hlatest with hsession
    rw [NatTable.removeSession_mappings, if_neg hsession]
    exact hrecorded.kept key mapping hlatest hlive

theorem lawful_of_reachable (hreach : (natRuns address maximum lifetime).Reachable run) :
    run.table.Within address maximum ∧ Recorded run := by
  refine hreach.invariant (fun run => run.table.Within address maximum ∧ Recorded run) ?_ ?_
  · rintro run ⟨hnew, hhistory⟩
    have hcoherent := NatTable.new_coherent hnew
    simp only [NatTable.new, Check.bind_eq_ok, pure, Except.pure, Except.ok.injEq] at hnew
    obtain ⟨_, _, htable⟩ := hnew
    rw [← htable] at hcoherent
    refine ⟨?_, ?_⟩
    · rw [← htable]
      exact ⟨hcoherent, Nat.zero_le _, rfl, rfl, Nat.le_refl 40000, .empty⟩
    · constructor
      · rw [← htable]
        simp
      · rw [hhistory]
        simp [latest]
  · rintro run next _ ⟨hwithin, hrecorded⟩ hstep
    cases hstep with
    | create key now stamp later stamped =>
        exact ⟨hwithin.create now stamp key, hrecorded.create hwithin key later stamped⟩
    | lookupForward key now later => exact ⟨hwithin.cleanup now, hrecorded.cleanup later⟩
    | lookupReverse translated key now later =>
        rw [NatTable.lookupReverse_state]
        exact ⟨hwithin.cleanup now, hrecorded.cleanup later⟩
    | removeSession sessionId =>
        exact ⟨hwithin.removeSession sessionId, hrecorded.removeSession sessionId⟩
    | cleanup now later => exact ⟨hwithin.cleanup now, hrecorded.cleanup later⟩

/-- What holds of a table after every run of its operations. -/
theorem nat_run_laws (hreach : (natRuns address maximum lifetime).Reachable run) :
    (∀ key translated, run.table.reverse.lookup translated = some key ↔
      ∃ mapping, run.table.mappings.lookup key = some mapping ∧
        mapping.translated = translated) ∧
    run.table.mappings.entries.length ≤ maximum ∧
    (∀ key mapping, run.table.mappings.lookup key = some mapping →
      ∃ port : UInt16, 40000 ≤ port.toNat ∧ port.toNat ≤ 65535 ∧
        mapping.translated = .new address port) ∧
    (∀ key key' mapping mapping', run.table.mappings.lookup key = some mapping →
      run.table.mappings.lookup key' = some mapping' →
      mapping.translated = mapping'.translated → key = key') ∧
    (∀ now, run.clock ≤ now → ∀ translated key mapping,
      (NatTable.lookupReverse now translated key run.table).1 = .ok mapping ↔
        latest key run.history = some mapping ∧ mapping.translated = translated ∧
          now < mapping.expiresAt) ∧
    (∀ sessionId key, key.sessionId ≠ sessionId →
      (run.table.removeSession sessionId).mappings.lookup key =
        run.table.mappings.lookup key) := by
  obtain ⟨hwithin, hrecorded⟩ := lawful_of_reachable hreach
  refine ⟨fun key translated => hwithin.coherent.reverse_iff, hwithin.size, ?_, ?_, ?_, ?_⟩
  · intro key mapping hfound
    obtain ⟨port, hbound, htranslated⟩ := hwithin.ports key mapping hfound
    have hlt : port.toNat < 65536 := port.toNat_lt
    exact ⟨port, hbound, by omega, htranslated⟩
  · intro key key' mapping mapping' hfound hfound' hsame
    exact hwithin.coherent.eq_of_translated_eq hfound hfound' hsame
  · intro now hlater translated key mapping
    rw [hwithin.coherent.lookupReverse_eq_ok]
    constructor
    · rintro ⟨hfound, htranslated, hlive⟩
      exact ⟨hrecorded.recorded key mapping hfound, htranslated, hlive⟩
    · rintro ⟨hlatest, htranslated, hlive⟩
      exact ⟨hrecorded.kept key mapping hlatest (hlater.trans_lt hlive), htranslated, hlive⟩
  · intro sessionId key hsession
    rw [NatTable.removeSession_mappings, if_neg hsession]

/-- A flow of the protocol UDP. -/
def sampleKey : FlowKey where
  flowId := ⟨Vector.replicate 16 1⟩
  source := .v4 (Vector.replicate 4 10) 5000
  destination := .v4 (Vector.replicate 4 127) 7
  sessionId := ⟨Vector.replicate 16 2⟩
  sourceIdentity := ⟨[3]⟩
  entryPeer := ⟨[1]⟩
  exitPeer := ⟨[2]⟩
  protocol := 17

def sampleMapping : NatMapping where
  flowId := sampleKey.flowId
  source := sampleKey.source
  destination := sampleKey.destination
  translated := .v4 (Vector.replicate 4 127) 40000
  sessionId := sampleKey.sessionId
  sourceIdentity := sampleKey.sourceIdentity
  entryPeer := sampleKey.entryPeer
  exitPeer := sampleKey.exitPeer
  protocol := sampleKey.protocol
  expiresAt := 30

/-- A run with the mapping of one flow. -/
theorem sample_reachable : ∃ run, (natRuns (.v4 (Vector.replicate 4 127)) 2 30).Reachable run ∧
    run.clock = 0 ∧ run.history = [.created sampleKey sampleMapping] ∧
    run.table.mappings.entries = [⟨sampleKey, sampleMapping⟩] := by
  have hstart : (natRuns (.v4 (Vector.replicate 4 127)) 2 30).Reachable
      ⟨⟨∅, ∅, 2, 30, 40000, .v4 (Vector.replicate 4 127)⟩, 0, []⟩ := .of_init ⟨rfl, rfl⟩
  exact ⟨_, hstart.tail (.create sampleKey 0 0 le_rfl le_rfl), rfl, rfl, rfl⟩

/-- A mapping that was just created is found. -/
theorem nat_run_laws_created : ∃ run mapping,
    (natRuns (.v4 (Vector.replicate 4 127)) 2 30).Reachable run ∧
      (NatTable.lookupReverse 1 mapping.translated sampleKey run.table).1 = .ok mapping := by
  obtain ⟨run, hreach, hclock, hhistory, -⟩ := sample_reachable
  refine ⟨run, sampleMapping, hreach, ?_⟩
  obtain ⟨_, _, _, _, hlookup, _⟩ := nat_run_laws hreach
  have hlater : run.clock ≤ 1 := hclock ▸ Nat.zero_le 1
  refine (hlookup 1 hlater _ _ _).mpr ⟨?_, rfl, by decide⟩
  simp only [hhistory, latest, if_pos]

end NatRun

end Network
