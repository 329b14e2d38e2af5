import GhostLayer.Foundation.Tables
import GhostLayer.Network.Nat

/-! # What the operations of a translation table do

A table is coherent when its two maps say the same: every flow is found under
its translated address and nothing else is. Dropping expired mappings and
creating new ones keep it so, and a mapping is found again as long as it has not
expired.
-/

namespace Network

open Foundation

namespace NatTable

variable {table final : NatTable} {key : FlowKey} {mapping : NatMapping} {now stamp : Nat}

/-! ## Expiry -/

theorem foldl_drop_mappings (entries : List (FlowKey × SocketAddr)) (table : NatTable) :
    (entries.foldl (fun table entry => table.drop entry) table).mappings.lookup key =
      if key ∈ entries.map Prod.fst then none else table.mappings.lookup key := by
  induction entries generalizing table with
  | nil => simp
  | cons entry rest ih =>
      rw [List.foldl_cons, ih, List.map_cons]
      by_cases hkey : key = entry.1
      · subst hkey
        simp [drop]
      · have hmem : key ∈ entry.1 :: rest.map Prod.fst ↔ key ∈ rest.map Prod.fst := by simp [hkey]
        rw [if_congr hmem rfl rfl]
        simp [drop, hkey]

theorem foldl_drop_reverse {address : SocketAddr} (entries : List (FlowKey × SocketAddr))
    (table : NatTable) :
    (entries.foldl (fun table entry => table.drop entry) table).reverse.lookup address =
      if address ∈ entries.map Prod.snd then none else table.reverse.lookup address := by
  induction entries generalizing table with
  | nil => simp
  | cons entry rest ih =>
      rw [List.foldl_cons, ih, List.map_cons]
      by_cases haddress : address = entry.2
      · subst haddress
        simp [drop]
      · have hmem : address ∈ entry.2 :: rest.map Prod.snd ↔ address ∈ rest.map Prod.snd := by
          simp [haddress]
        rw [if_congr hmem rfl rfl]
        simp [drop, haddress]

theorem mem_expired {entry : FlowKey × SocketAddr} :
    entry ∈ table.expired now ↔ ∃ mapping, table.mappings.lookup entry.1 = some mapping ∧
      mapping.expiresAt ≤ now ∧ mapping.translated = entry.2 := by
  obtain ⟨key, address⟩ := entry
  simp only [expired, List.mem_map, List.mem_filter, decide_eq_true_eq, Prod.mk.injEq]
  constructor
  · rintro ⟨⟨found, mapping⟩, ⟨hentry, hexpired⟩, rfl, rfl⟩
    exact ⟨mapping, AList.mem_lookup_iff.mpr hentry, hexpired, rfl⟩
  · rintro ⟨mapping, hfound, hexpired, rfl⟩
    exact ⟨⟨key, mapping⟩, ⟨AList.mem_lookup_iff.mp hfound, hexpired⟩, rfl, rfl⟩

/-- Cleaning up leaves the mappings that have not expired. -/
theorem cleanup_mappings :
    (table.cleanup now).mappings.lookup key = some mapping ↔
      table.mappings.lookup key = some mapping ∧ now < mapping.expiresAt := by
  have hmem : key ∈ (table.expired now).map Prod.fst ↔
      ∃ mapping, table.mappings.lookup key = some mapping ∧ mapping.expiresAt ≤ now := by
    simp only [List.mem_map, mem_expired]
    constructor
    · rintro ⟨entry, ⟨mapping, hfound, hexpired, _⟩, rfl⟩
      exact ⟨mapping, hfound, hexpired⟩
    · rintro ⟨mapping, hfound, hexpired⟩
      exact ⟨(key, mapping.translated), ⟨mapping, hfound, hexpired, rfl⟩, rfl⟩
  rw [cleanup, foldl_drop_mappings]
  by_cases hdropped : key ∈ (table.expired now).map Prod.fst
  · obtain ⟨found, hfound, hexpired⟩ := hmem.mp hdropped
    simp only [hdropped, ↓reduceIte, hfound, Option.some.injEq, reduceCtorEq, false_iff]
    rintro ⟨rfl, hlive⟩
    omega
  · simp only [hdropped, ↓reduceIte]
    refine ⟨fun hfound => ⟨hfound, ?_⟩, fun hlive => hlive.1⟩
    by_contra hexpired
    exact hdropped (hmem.mpr ⟨mapping, hfound, Nat.le_of_not_lt hexpired⟩)

/-! ## Coherence -/

/-- The two maps of a table say the same. -/
structure Coherent (table : NatTable) : Prop where
  forward : ∀ key mapping, table.mappings.lookup key = some mapping →
    table.reverse.lookup mapping.translated = some key
  backward : ∀ address key, table.reverse.lookup address = some key →
    ∃ mapping, table.mappings.lookup key = some mapping ∧ mapping.translated = address

/-- An address is dropped with the mapping that it belongs to. -/
theorem Coherent.cleanup_reverse (hcoherent : Coherent table) {address : SocketAddr} :
    (table.cleanup now).reverse.lookup address = some key ↔
      ∃ mapping, table.mappings.lookup key = some mapping ∧ now < mapping.expiresAt ∧
        mapping.translated = address := by
  rw [cleanup, foldl_drop_reverse]
  by_cases hdropped : address ∈ (table.expired now).map Prod.snd
  · simp only [hdropped, ↓reduceIte, reduceCtorEq, false_iff]
    rintro ⟨mapping, hfound, hlive, rfl⟩
    simp only [List.mem_map, mem_expired] at hdropped
    obtain ⟨entry, ⟨other, hother, hexpired, hsame⟩, haddress⟩ := hdropped
    have hkey := hcoherent.forward _ _ hother
    rw [hsame, haddress, hcoherent.forward _ _ hfound] at hkey
    rw [← Option.some.inj hkey, hfound] at hother
    obtain rfl := Option.some.inj hother
    omega
  · simp only [hdropped, ↓reduceIte]
    constructor
    · intro hreverse
      obtain ⟨mapping, hfound, rfl⟩ := hcoherent.backward _ _ hreverse
      refine ⟨mapping, hfound, ?_, rfl⟩
      by_contra hexpired
      exact hdropped (List.mem_map.mpr ⟨(key, mapping.translated),
        mem_expired.mpr ⟨mapping, hfound, Nat.le_of_not_lt hexpired, rfl⟩, rfl⟩)
    · rintro ⟨mapping, hfound, _, rfl⟩
      exact hcoherent.forward _ _ hfound

theorem Coherent.cleanup (hcoherent : Coherent table) (now : Nat) :
    Coherent (table.cleanup now) where
  forward key mapping hfound := by
    obtain ⟨hfound, hlive⟩ := cleanup_mappings.mp hfound
    exact hcoherent.cleanup_reverse.mpr ⟨mapping, hfound, hlive, rfl⟩
  backward address key hreverse := by
    obtain ⟨mapping, hfound, hlive, rfl⟩ := hcoherent.cleanup_reverse.mp hreverse
    exact ⟨mapping, cleanup_mappings.mpr ⟨hfound, hlive⟩, rfl⟩

theorem new_coherent {translatedAddress : IpAddr} {maximumMappings lifetime : Nat}
    (hnew : NatTable.new translatedAddress maximumMappings lifetime = .ok table) :
    Coherent table := by
  simp only [NatTable.new, Check.bind_eq_ok, pure, Except.pure, Except.ok.injEq] at hnew
  obtain ⟨_, _, rfl⟩ := hnew
  exact ⟨by simp, by simp⟩

/-! ## Ports -/

/-- The ports that a search looks at, in order. -/
def portAfter (port : UInt16) : Nat → UInt16
  | 0 => port
  | steps + 1 => portAfter (followingPort port) steps

/-- A port that a search of some length finds free. -/
def HasFreePort (table : NatTable) (tries : Nat) : Prop :=
  ∃ steps < tries, table.reverse.lookup
    (.new table.translatedAddress (portAfter table.nextPort steps)) = none

/-- The search ends with a free port, if it meets one, and moves on from there. -/
theorem searchPort_eq_ok {tries : Nat} {address : SocketAddr} :
    searchPort tries table = (.ok address, final) →
      table.reverse.lookup address = none ∧ ∃ port, final = { table with nextPort := port } := by
  induction tries generalizing table with
  | zero => intro hsearch; cases hsearch
  | succ tries ih =>
      intro hsearch
      simp only [searchPort, Fallible.get_bind_run, Fallible.modify_bind_run] at hsearch
      split_ifs at hsearch with hfree
      · obtain ⟨rfl, rfl⟩ := Fallible.pure_eq_ok.mp hsearch
        exact ⟨Option.isNone_iff_eq_none.mp hfree, _, rfl⟩
      · obtain ⟨hnone, port, rfl⟩ := ih hsearch
        exact ⟨hnone, port, rfl⟩

theorem searchPort_isOk {tries : Nat} :
    (searchPort tries table).1.IsOk ↔ table.HasFreePort tries := by
  induction tries generalizing table with
  | zero => simp [searchPort, Outcome.IsOk, HasFreePort]
  | succ tries ih =>
      simp only [searchPort, Fallible.get_bind_run, Fallible.modify_bind_run]
      by_cases hfree : (table.reverse.lookup
          (.new table.translatedAddress table.nextPort)).isNone = true
      · rw [if_pos hfree]
        exact ⟨fun _ => ⟨0, by omega, Option.isNone_iff_eq_none.mp hfree⟩, fun _ => ⟨_, rfl⟩⟩
      · rw [if_neg hfree, ih]
        constructor
        · rintro ⟨steps, hsteps, hnone⟩
          exact ⟨steps + 1, by omega, hnone⟩
        · rintro ⟨steps, hsteps, hnone⟩
          cases steps with
          | zero => exact absurd (Option.isNone_iff_eq_none.mpr hnone) hfree
          | succ steps => exact ⟨steps, by omega, hnone⟩

/-! ## Mappings -/

theorem foldl_drop_fields (entries : List (FlowKey × SocketAddr)) (table : NatTable) :
    (entries.foldl (fun table entry => table.drop entry) table).lifetime = table.lifetime ∧
      (entries.foldl (fun table entry => table.drop entry) table).maximumMappings =
        table.maximumMappings := by
  induction entries generalizing table with
  | nil => exact ⟨rfl, rfl⟩
  | cons entry rest ih => exact ih (table.drop entry)

/-- What a table needs to take a new flow. -/
structure CanCreate (table : NatTable) (now : Nat) (key : FlowKey) : Prop where
  fresh : (table.cleanup now).mappings.lookup key = none
  room : (table.cleanup now).mappings.entries.length < table.maximumMappings
  port : (table.cleanup now).HasFreePort (65535 - 40000 + 1)

variable (stamp) in
theorem create_isOk :
    (create now stamp key table).1.IsOk ↔ table.CanCreate now key := by
  have hmaximum : (table.cleanup now).maximumMappings = table.maximumMappings :=
    (foldl_drop_fields _ _).2
  simp only [create, Fallible.modify_bind_run, Fallible.get_bind_run, Fallible.failWhen_bind_run,
    hmaximum]
  by_cases hknown : ((table.cleanup now).mappings.lookup key).isSome = true
  · rw [if_pos hknown]
    constructor
    · rintro ⟨_, hfalse⟩
      cases hfalse
    · intro hcan
      rw [hcan.fresh] at hknown
      cases hknown
  rw [if_neg hknown]
  by_cases hfull : (table.cleanup now).mappings.entries.length ≥ table.maximumMappings
  · rw [if_pos hfull]
    constructor
    · rintro ⟨_, hfalse⟩
      cases hfalse
    · intro hcan
      exact absurd hcan.room (by omega)
  rw [if_neg hfull, Fallible.bind_run]
  have hport : (allocatePort (table.cleanup now)).1.IsOk ↔
      (table.cleanup now).HasFreePort (65535 - 40000 + 1) := searchPort_isOk
  have hnone : (table.cleanup now).mappings.lookup key = none := by simpa using hknown
  rcases hsearch : allocatePort (table.cleanup now) with ⟨address | reason | _, next⟩ <;>
    rw [hsearch] at hport
  · exact ⟨fun _ => ⟨hnone, by omega, hport.mp ⟨_, rfl⟩⟩, fun _ => ⟨_, rfl⟩⟩
  all_goals
    constructor
    · rintro ⟨_, hfalse⟩
      cases hfalse
    · intro hcan
      obtain ⟨_, hfalse⟩ := hport.mpr hcan.port
      cases hfalse

/-- A new mapping gets an address that was free. -/
theorem create_ok (hcreate : create now stamp key table = (.ok mapping, final)) :
    (table.cleanup now).mappings.lookup key = none ∧
      (table.cleanup now).reverse.lookup mapping.translated = none ∧
      mapping.expiresAt = stamp + table.lifetime ∧
      final.mappings = (table.cleanup now).mappings.insert key mapping ∧
      final.reverse = (table.cleanup now).reverse.insert mapping.translated key := by
  have hlifetime : (table.cleanup now).lifetime = table.lifetime := (foldl_drop_fields _ _).1
  simp only [create, Fallible.modify_bind_run, Fallible.get_bind_run, Fallible.bind_eq_ok,
    Fallible.failWhen_eq_ok, Fallible.pure_eq_ok, hlifetime] at hcreate
  obtain ⟨_, _, ⟨hunknown, rfl⟩, _, _, ⟨_, rfl⟩, address, _, hsearch, rfl, rfl⟩ := hcreate
  obtain ⟨hfree, port, rfl⟩ := searchPort_eq_ok hsearch
  exact ⟨by simpa using hunknown, hfree, rfl, rfl, rfl⟩

theorem create_limits (hcreate : create now stamp key table = (.ok mapping, final)) :
    final.lifetime = table.lifetime ∧ final.maximumMappings = table.maximumMappings := by
  simp only [create, Fallible.modify_bind_run, Fallible.get_bind_run, Fallible.bind_eq_ok,
    Fallible.failWhen_eq_ok, Fallible.pure_eq_ok] at hcreate
  obtain ⟨_, _, ⟨_, rfl⟩, _, _, ⟨_, rfl⟩, address, _, hsearch, _, rfl⟩ := hcreate
  obtain ⟨_, port, rfl⟩ := searchPort_eq_ok hsearch
  exact foldl_drop_fields _ _

theorem Coherent.create (hcoherent : Coherent table)
    (hcreate : create now stamp key table = (.ok mapping, final)) : Coherent final := by
  obtain ⟨hfresh, hfree, _, hmappings, hreverse⟩ := create_ok hcreate
  have hclean := hcoherent.cleanup now
  constructor
  · intro key' mapping' hfound
    rw [hmappings] at hfound
    rw [hreverse]
    rcases lookup_insert_eq_some.mp hfound with ⟨rfl, rfl⟩ | ⟨_, hfound⟩
    · exact AList.lookup_insert _
    · have hold := hclean.forward _ _ hfound
      have hother : mapping'.translated ≠ mapping.translated := by
        intro hsame
        rw [hsame, hfree] at hold
        cases hold
      exact lookup_insert_eq_some.mpr (.inr ⟨hother, hold⟩)
  · intro address key' hfound
    rw [hreverse] at hfound
    rw [hmappings]
    rcases lookup_insert_eq_some.mp hfound with ⟨rfl, rfl⟩ | ⟨_, hfound⟩
    · exact ⟨mapping, AList.lookup_insert _, rfl⟩
    · obtain ⟨mapping', hold, rfl⟩ := hclean.backward _ _ hfound
      refine ⟨mapping', lookup_insert_eq_some.mpr (.inr ⟨?_, hold⟩), rfl⟩
      rintro rfl
      rw [hfresh] at hold
      cases hold

theorem lookupReverse_state {address : SocketAddr} :
    (lookupReverse now address key table).2 = table.cleanup now := by
  simp only [lookupReverse, Fallible.modify_bind_run, Fallible.get_bind_run]
  cases (table.cleanup now).reverse.lookup address with
  | none => rfl
  | some found =>
      simp only [Fallible.orThrow_some, Fallible.pure_bind_run, Fallible.failWhen_bind_run]
      split_ifs
      · rfl
      · cases (table.cleanup now).mappings.lookup found <;> rfl

/-- The mapping of a flow is found again until it expires. -/
theorem Coherent.lookupReverse_isOk (hcoherent : Coherent table)
    (hfound : table.mappings.lookup key = some mapping) :
    (lookupReverse now mapping.translated key table).1.IsOk ↔ now < mapping.expiresAt := by
  simp only [lookupReverse, Fallible.modify_bind_run, Fallible.get_bind_run]
  by_cases hlive : now < mapping.expiresAt
  · have hreverse : (table.cleanup now).reverse.lookup mapping.translated = some key :=
      hcoherent.cleanup_reverse.mpr ⟨mapping, hfound, hlive, rfl⟩
    have hmapping : (table.cleanup now).mappings.lookup key = some mapping :=
      cleanup_mappings.mpr ⟨hfound, hlive⟩
    simp [hreverse, hmapping, hlive, Outcome.IsOk]
  · have hreverse : (table.cleanup now).reverse.lookup mapping.translated = none := by
      by_contra hsome
      obtain ⟨other, hother⟩ := Option.ne_none_iff_exists'.mp hsome
      obtain ⟨mapping', hmapping', hlive', hsame⟩ := hcoherent.cleanup_reverse.mp hother
      have hkey := hcoherent.forward _ _ hmapping'
      rw [hsame, hcoherent.forward _ _ hfound] at hkey
      rw [← Option.some.inj hkey, hfound] at hmapping'
      obtain rfl := Option.some.inj hmapping'
      exact hlive hlive'
    simp [hreverse, hlive, Outcome.IsOk]

end NatTable

end Network
