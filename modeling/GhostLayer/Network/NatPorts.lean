import GhostLayer.Network.NatHistory
import Mathlib.Order.Interval.Finset.Nat

/-! # The ports of a translation table

The search for a port goes round the range once, from wherever the last one
ended. So it finds a port whenever one is free, and is back where it began when
there is none.
-/

namespace Network

open Foundation

namespace NatTable

variable {table final : NatTable} {key : FlowKey} {mapping : NatMapping} {now stamp : Nat}

/-! ## Around the range -/

theorem toNat_followingPort {port : UInt16} (hport : 40000 ≤ port.toNat) :
    (followingPort port).toNat = 40000 + (port.toNat - 40000 + 1) % 25536 := by
  have hlt : port.toNat < 65536 := port.toNat_lt
  unfold followingPort
  split_ifs with hlast
  · subst hlast
    decide
  · have hne : port.toNat ≠ 65535 := fun hsame => hlast (UInt16.toNat_inj.mp hsame)
    rw [UInt16.toNat_add]
    simp only [UInt16.reduceToNat, Nat.reducePow]
    omega

/-- The ports that a search looks at go round the range. -/
theorem toNat_portAfter {port : UInt16} (hport : 40000 ≤ port.toNat) (steps : Nat) :
    (portAfter port steps).toNat = 40000 + (port.toNat - 40000 + steps) % 25536 := by
  induction steps generalizing port with
  | zero =>
      have hlt : port.toNat < 65536 := port.toNat_lt
      rw [portAfter]
      omega
  | succ steps ih =>
      rw [portAfter, ih (le_followingPort hport), toNat_followingPort hport]
      omega

theorem portAfter_round {port : UInt16} (hport : 40000 ≤ port.toNat) :
    portAfter port 25536 = port := by
  have hlt : port.toNat < 65536 := port.toNat_lt
  rw [← UInt16.toNat_inj, toNat_portAfter hport]
  omega

/-- A search that goes round the range meets every port. -/
theorem hasFreePort_iff (hport : 40000 ≤ table.nextPort.toNat) :
    table.HasFreePort 25536 ↔ ∃ port : UInt16, 40000 ≤ port.toNat ∧
      table.reverse.lookup (.new table.translatedAddress port) = none := by
  constructor
  · rintro ⟨steps, -, hfree⟩
    refine ⟨_, ?_, hfree⟩
    rw [toNat_portAfter hport]
    omega
  · rintro ⟨port, hbound, hfree⟩
    have hlt : port.toNat < 65536 := port.toNat_lt
    have hnext : table.nextPort.toNat < 65536 := table.nextPort.toNat_lt
    refine ⟨(port.toNat + 25536 - table.nextPort.toNat) % 25536, Nat.mod_lt _ (by decide), ?_⟩
    have hsame : portAfter table.nextPort ((port.toNat + 25536 - table.nextPort.toNat) % 25536) =
        port := by
      rw [← UInt16.toNat_inj, toNat_portAfter hport]
      omega
    rw [hsame]
    exact hfree

theorem searchPort_fails {tries : Nat} (hfails : ¬ (searchPort tries table).1.IsOk) :
    (searchPort tries table).2 = { table with nextPort := portAfter table.nextPort tries } := by
  induction tries generalizing table with
  | zero => rfl
  | succ tries ih =>
      simp only [searchPort, Fallible.get_bind_run, Fallible.modify_bind_run] at hfails ⊢
      split_ifs at hfails ⊢ with hfree
      · exact absurd ⟨_, rfl⟩ hfails
      · exact ih hfails

/-! ## What is alive -/

/-- The mappings that have not expired. -/
def live (now : Nat) (table : NatTable) : List (Sigma fun _ : FlowKey => NatMapping) :=
  table.mappings.entries.filter (fun entry => now < entry.2.expiresAt)

/-- The ports of the range that mappings hold which have not expired. -/
def usedPorts (now : Nat) (table : NatTable) : Finset Nat :=
  (Finset.Icc 40000 65535).filter (fun port => ∃ entry ∈ table.live now,
    entry.2.translated = .new table.translatedAddress (UInt16.ofNat port))

theorem mem_live : ⟨key, mapping⟩ ∈ table.live now ↔
    table.mappings.lookup key = some mapping ∧ now < mapping.expiresAt := by
  simp only [live, List.mem_filter, decide_eq_true_eq, ← AList.mem_lookup_iff, Option.mem_def]

/-- A mapping holds one port. -/
theorem card_usedPorts_le : (table.usedPorts now).card ≤ (table.live now).length := by
  let held := (table.live now).map fun entry => entry.2.translated.port.toNat
  have hheld : table.usedPorts now ⊆ held.toFinset := by
    intro port hport
    obtain ⟨hrange, entry, hentry, hsame⟩ := Finset.mem_filter.mp hport
    have hnumber : (UInt16.ofNat port).toNat = port :=
      UInt16.toNat_ofNat_of_lt (Nat.lt_succ_of_le (Finset.mem_Icc.mp hrange).2)
    apply List.mem_toFinset.mpr
    refine List.mem_map.mpr ⟨entry, hentry, ?_⟩
    rw [hsame, SocketAddr.port_new, hnumber]
  calc (table.usedPorts now).card
      ≤ held.toFinset.card := Finset.card_le_card hheld
    _ ≤ held.length := List.toFinset_card_le held
    _ = (table.live now).length := List.length_map _

/-- Cleaning up leaves as many mappings as are alive. -/
theorem length_cleanup : (table.cleanup now).mappings.entries.length = (table.live now).length := by
  refine List.Perm.length_eq (List.lookup_ext (table.cleanup now).mappings.nodupKeys
    (table.mappings.nodupKeys.sublist List.filter_sublist) fun key mapping => ?_)
  have hlive : mapping ∈ List.dlookup key (table.live now) ↔ ⟨key, mapping⟩ ∈ table.live now :=
    List.mem_dlookup_iff (table.mappings.nodupKeys.sublist List.filter_sublist)
  rw [hlive, mem_live]
  exact cleanup_mappings

theorem Coherent.free_iff (hcoherent : Coherent table) {port : UInt16}
    (hport : 40000 ≤ port.toNat) :
    (table.cleanup now).reverse.lookup (.new table.translatedAddress port) = none ↔
      port.toNat ∉ table.usedPorts now := by
  have hlt : port.toNat < 65536 := port.toNat_lt
  rw [usedPorts, Finset.mem_filter, Finset.mem_Icc, UInt16.ofNat_toNat, not_and]
  constructor
  · rintro hfree - ⟨⟨key, mapping⟩, hlive, hsame⟩
    obtain ⟨hfound, hunexpired⟩ := mem_live.mp hlive
    rw [hcoherent.cleanup_reverse.mpr ⟨mapping, hfound, hunexpired, hsame⟩] at hfree
    cases hfree
  · intro hunused
    cases hreverse : (table.cleanup now).reverse.lookup (.new table.translatedAddress port) with
    | none => rfl
    | some key =>
        obtain ⟨mapping, hfound, hunexpired, hsame⟩ := hcoherent.cleanup_reverse.mp hreverse
        exact absurd ⟨⟨key, mapping⟩, mem_live.mpr ⟨hfound, hunexpired⟩, hsame⟩
          (hunused ⟨hport, by omega⟩)

/-- A port is free unless all of them are held. -/
theorem Coherent.exists_free_iff (hcoherent : Coherent table) :
    (∃ port : UInt16, 40000 ≤ port.toNat ∧
      (table.cleanup now).reverse.lookup (.new table.translatedAddress port) = none) ↔
      (table.usedPorts now).card < 25536 := by
  have hsubset : table.usedPorts now ⊆ Finset.Icc 40000 65535 := Finset.filter_subset _ _
  have hcard : (Finset.Icc 40000 65535).card = 25536 := Nat.card_Icc _ _
  constructor
  · rintro ⟨port, hport, hfree⟩
    have hlt : port.toNat < 65536 := port.toNat_lt
    rw [← hcard]
    refine Finset.card_lt_card (Finset.ssubset_iff_subset_ne.mpr ⟨hsubset, fun hall => ?_⟩)
    refine (hcoherent.free_iff hport).mp hfree ?_
    rw [hall]
    exact Finset.mem_Icc.mpr ⟨hport, by omega⟩
  · intro hroom
    obtain ⟨port, hport, hunused⟩ := Finset.exists_mem_notMem_of_card_lt_card (hcard ▸ hroom)
    obtain ⟨hlow, hhigh⟩ := Finset.mem_Icc.mp hport
    have htoNat : (UInt16.ofNat port).toNat = port :=
      UInt16.toNat_ofNat_of_lt (Nat.lt_succ_of_le hhigh)
    refine ⟨UInt16.ofNat port, by omega, (hcoherent.free_iff (by omega)).mpr ?_⟩
    rwa [htoNat]

/-! ## Creating a mapping -/

variable {address : IpAddr} {maximum : Nat}

theorem Within.canCreate_iff (hwithin : Within address maximum table) :
    table.CanCreate now key ↔
      (∀ mapping, table.mappings.lookup key = some mapping → mapping.expiresAt ≤ now) ∧
        (table.live now).length < maximum ∧ (table.usedPorts now).card < 25536 := by
  have hclean := hwithin.cleanup now
  have htranslated : (table.cleanup now).translatedAddress = table.translatedAddress :=
    hclean.translated.trans hwithin.translated.symm
  have hports := (hasFreePort_iff hclean.nextPort).trans
    (htranslated ▸ hwithin.coherent.exists_free_iff)
  have hfresh : (table.cleanup now).mappings.lookup key = none ↔
      ∀ mapping, table.mappings.lookup key = some mapping → mapping.expiresAt ≤ now := by
    simp only [Option.eq_none_iff_forall_ne_some, ne_eq, cleanup_mappings, not_and, not_lt]
  rw [← hfresh, ← hports, ← length_cleanup, ← hwithin.limit]
  constructor
  · rintro ⟨hnew, hroom, hport⟩
    exact ⟨hnew, hroom, hport⟩
  · rintro ⟨hnew, hroom, hport⟩
    exact ⟨hnew, hroom, hport⟩

/-- A creation that fails only drops what has expired. -/
theorem Within.create_fails (hwithin : Within address maximum table)
    (hfails : ¬ (NatTable.create now stamp key table).1.IsOk) :
    (NatTable.create now stamp key table).2 = table.cleanup now := by
  have hport := (hwithin.cleanup now).nextPort
  simp only [NatTable.create, Fallible.modify_bind_run, Fallible.get_bind_run,
    Fallible.failWhen_bind_run] at hfails ⊢
  split_ifs at hfails ⊢
  · rfl
  · rfl
  · rw [Fallible.bind_run] at hfails ⊢
    have hround : ¬ (allocatePort (table.cleanup now)).1.IsOk →
        (allocatePort (table.cleanup now)).2 = table.cleanup now := by
      intro hexhausted
      have hstate := searchPort_fails hexhausted
      rwa [portAfter_round hport] at hstate
    rcases hsearch : allocatePort (table.cleanup now) with ⟨found | reason | _, next⟩ <;>
      rw [hsearch] at hround <;> simp only [hsearch] at hfails ⊢
    · exact absurd ⟨_, rfl⟩ hfails
    · apply hround
      rintro ⟨_, hok⟩
      cases hok
    · apply hround
      rintro ⟨_, hok⟩
      cases hok

end NatTable

end Network
