import GhostLayer.Network.ReturnHistory
import Mathlib.Data.Fintype.EquivFin
import Mathlib.SetTheory.Cardinal.Finite

/-! # How many packets a table remembers

The capacity bounds the packets that are waited for. The packets that were
consumed are remembered besides, and nothing bounds them within one lifetime but
the number of packet ids there are.
-/

namespace Network

open Foundation

/-! ## Packet ids -/

theorem SessionId.finite : Finite SessionId := by
  have hbytes : Function.Injective UInt8.toFin := fun left right => UInt8.toFin_inj.mp
  have : Finite UInt8 := Finite.of_injective UInt8.toFin hbytes
  apply Finite.of_injective fun (id : SessionId) (index : Fin 16) => id.bytes.get index
  intro left right hsame
  have hbytes : left.bytes = right.bytes := Vector.ext fun index hindex =>
    congrFun hsame ⟨index, hindex⟩
  cases left
  cases right
  exact congrArg SessionId.mk hbytes

/-- There are lists of distinct packet ids of every length up to their number. -/
theorem exists_packetIds {count : Nat} (hcount : count ≤ Nat.card SessionId) :
    ∃ packetIds : List SessionId, packetIds.Nodup ∧ packetIds.length = count := by
  have := SessionId.finite
  have := Fintype.ofFinite SessionId
  rw [Nat.card_eq_fintype_card] at hcount
  obtain ⟨packetIds, -, hcard⟩ := Finset.exists_subset_card_eq hcount
  refine ⟨packetIds.toList, packetIds.nodup_toList, ?_⟩
  rw [Finset.length_toList, hcard]

/-! ## Remembering -/

namespace ReturnPathTable

/-- Active entries and consumed packets together. -/
def records (table : ReturnPathTable) : Nat :=
  table.entries.entries.length + table.consumed.entries.length

/-- The table in which each of some packets was consumed at the start. -/
def spentAll (capacity lifetime : Nat) : List SessionId → ReturnPathTable
  | [] => ⟨∅, ∅, capacity, lifetime⟩
  | packetId :: earlier => (spentAll capacity lifetime earlier).spend 0 packetId

variable {capacity lifetime : Nat} {packetIds : List SessionId} {packetId : SessionId}

@[simp] theorem spentAll_capacity : (spentAll capacity lifetime packetIds).capacity = capacity := by
  induction packetIds with
  | nil => rfl
  | cons packetId packetIds ih => exact ih

@[simp] theorem spentAll_lifetime : (spentAll capacity lifetime packetIds).lifetime = lifetime := by
  induction packetIds with
  | nil => rfl
  | cons packetId packetIds ih => exact ih

@[simp] theorem spentAll_entries : (spentAll capacity lifetime packetIds).entries = ∅ := by
  induction packetIds with
  | nil => rfl
  | cons packetId packetIds ih =>
      rw [spentAll, spend, ih]
      rfl

theorem spentAll_consumed {expiresAt : Nat} :
    (spentAll capacity lifetime packetIds).consumed.lookup packetId = some expiresAt ↔
      packetId ∈ packetIds ∧ expiresAt = lifetime := by
  induction packetIds with
  | nil => simp [spentAll]
  | cons newest packetIds ih =>
      rw [spentAll, spend, lookup_insert_eq_some, spentAll_lifetime, Nat.zero_add, ih,
        List.mem_cons]
      grind

theorem mem_spentAll_consumed :
    packetId ∈ (spentAll capacity lifetime packetIds).consumed ↔ packetId ∈ packetIds := by
  rw [mem_iff_lookup]
  simp only [spentAll_consumed, exists_and_left, exists_eq, and_true]

/-- Every consumption of another packet is one more record. -/
theorem records_spentAll (hnodup : packetIds.Nodup) :
    (spentAll capacity lifetime packetIds).records = packetIds.length := by
  suffices hconsumed :
      (spentAll capacity lifetime packetIds).consumed.entries.length = packetIds.length by
    rw [records, spentAll_entries, hconsumed]
    exact Nat.zero_add _
  induction packetIds with
  | nil => rfl
  | cons packetId packetIds ih =>
      obtain ⟨hfresh, hnodup⟩ := List.nodup_cons.mp hnodup
      have hnew : packetId ∉ (spentAll capacity lifetime packetIds).consumed :=
        fun hmem => hfresh (mem_spentAll_consumed.mp hmem)
      rw [spentAll, spend, AList.entries_insert_of_notMem hnew, List.length_cons, ih hnodup,
        List.length_cons]

/-- A cleanup changes nothing where nothing has expired. -/
theorem cleanup_eq_self {table : ReturnPathTable} {now : Nat}
    (hentries : EveryEntry (fun _ mapping => now < mapping.expiresAt) table.entries)
    (hconsumed : EveryEntry (fun _ expiresAt => now < expiresAt) table.consumed) :
    table.cleanup now = table := by
  have hentries : retain (fun _ mapping => now < mapping.expiresAt) table.entries =
      table.entries :=
    retain_eq_self fun packetId mapping hfound =>
      decide_eq_true (hentries packetId mapping hfound)
  have hconsumed : retain (fun _ expiresAt => now < expiresAt) table.consumed = table.consumed :=
    retain_eq_self fun packetId expiresAt hfound =>
      decide_eq_true (hconsumed packetId expiresAt hfound)
  rw [cleanup, hentries, hconsumed]

/-- At the start of the lifetime no consumption is forgotten. -/
theorem live_spentAll_consumed (hlifetime : lifetime ≠ 0) :
    EveryEntry (fun _ expiresAt => 0 < expiresAt)
      (spentAll capacity lifetime packetIds).consumed := by
  intro packetId expiresAt hfound
  obtain ⟨-, rfl⟩ := spentAll_consumed.mp hfound
  exact Nat.pos_of_ne_zero hlifetime

theorem cleanup_spentAll (hlifetime : lifetime ≠ 0) :
    (spentAll capacity lifetime packetIds).cleanup 0 = spentAll capacity lifetime packetIds := by
  apply cleanup_eq_self ?_ (live_spentAll_consumed hlifetime)
  rw [spentAll_entries]
  exact EveryEntry.empty

/-- A packet that was not consumed is inserted: no other one is waited for. -/
theorem insert_spentAll (hcapacity : capacity ≠ 0) (hlifetime : lifetime ≠ 0)
    {key : ReturnPathKey} (hfresh : key.packetId ∉ packetIds) :
    insert 0 0 key (spentAll capacity lifetime packetIds) =
      (.ok (), (spentAll capacity lifetime packetIds).note key 0) := by
  have hentries : key.packetId ∉ (spentAll capacity lifetime packetIds).entries := by
    rw [spentAll_entries]
    exact AList.notMem_empty _
  have hconsumed : key.packetId ∉ (spentAll capacity lifetime packetIds).consumed :=
    fun hmem => hfresh (mem_spentAll_consumed.mp hmem)
  have hroom : ¬ (spentAll capacity lifetime packetIds).entries.entries.length ≥
      (spentAll capacity lifetime packetIds).capacity := by
    rw [spentAll_entries, spentAll_capacity]
    exact fun hfull => hcapacity (Nat.le_zero.mp hfull)
  simp only [insert, Fallible.modify_bind_run, Fallible.get_bind_run, Fallible.failWhen_bind_run,
    cleanup_spentAll hlifetime, if_neg (not_or.mpr ⟨hentries, hconsumed⟩), if_neg hroom]
  rfl

/-- The packet that is waited for moves to the consumed ones. -/
theorem consume_note_spentAll (key : ReturnPathKey) (hlifetime : lifetime ≠ 0) :
    (consume 0 0 key.packetId key ((spentAll capacity lifetime packetIds).note key 0)) =
      (.ok ⟨key, lifetime⟩, spentAll capacity lifetime (key.packetId :: packetIds)) := by
  have hclean : ((spentAll capacity lifetime packetIds).note key 0).cleanup 0 =
      (spentAll capacity lifetime packetIds).note key 0 := by
    refine cleanup_eq_self ?_ (live_spentAll_consumed hlifetime)
    rw [note, spentAll_entries, spentAll_lifetime, Nat.zero_add]
    exact EveryEntry.empty.insert (Nat.pos_of_ne_zero hlifetime)
  have hlookup : (lookup 0 key.packetId key
      ((spentAll capacity lifetime packetIds).note key 0)).1 = .ok ⟨key, lifetime⟩ := by
    rw [lookup_eq_ok, hclean]
    refine ⟨?_, rfl⟩
    rw [note, AList.lookup_insert, spentAll_lifetime, Nat.zero_add]
  rcases consume_cases 0 0 key.packetId key ((spentAll capacity lifetime packetIds).note key 0)
    with ⟨mapping, hfound, hconsume⟩ | ⟨hfail, -⟩
  · cases hfound.symm.trans hlookup
    have hspent : ((spentAll capacity lifetime packetIds).note key 0).entries.erase key.packetId =
        (∅ : AList fun _ : SessionId => ReturnPathMapping) := by
      rw [note, spentAll_entries]
      apply AList.ext
      exact List.kerase_cons_eq rfl
    rw [hconsume, hclean, spend, hspent, spentAll, spend, spentAll_entries]
    rfl
  · rw [hlookup] at hfail
    exact absurd ⟨_, rfl⟩ hfail

end ReturnPathTable

/-! ## Runs -/

/-- A bound that comes with the capacity: it holds after every run, whatever the lifetime. That
there are only so many packet ids bounds every table alike, and does not count. -/
def ReturnPathTable.BoundedThrough (capacity : Nat) : Prop :=
  ∃ bound < Nat.card SessionId, ∀ lifetime run,
    (returnRuns capacity lifetime).Reachable run → run.table.records ≤ bound

namespace ReturnRun

open ReturnPathTable

variable {run : ReturnRun} {capacity lifetime : Nat}

/-- A packet is recorded at most once, as active or as consumed. -/
theorem records_le_packetIds (hreach : (returnRuns capacity lifetime).Reachable run) :
    run.table.records ≤ Nat.card SessionId := by
  have := SessionId.finite
  have := Fintype.ofFinite SessionId
  have hrecorded : Recorded capacity lifetime run := recorded_of_reachable hreach
  have hnodup : (run.table.entries.keys ++ run.table.consumed.keys).Nodup := by
    apply List.Nodup.append run.table.entries.keys_nodup run.table.consumed.keys_nodup
    intro packetId hentry hconsumed
    exact hrecorded.apart packetId (AList.mem_keys.mp hentry) (AList.mem_keys.mp hconsumed)
  have hlength : (run.table.entries.keys ++ run.table.consumed.keys).length =
      run.table.records := by
    simp [records, AList.keys, List.keys]
  rw [← hlength, Nat.card_eq_fintype_card]
  exact hnodup.length_le_card

/-- Distinct packets can be inserted and consumed one after the other, at one time. -/
theorem reachable_spentAll (hcapacity : capacity ≠ 0) (hlifetime : lifetime ≠ 0)
    {packetIds : List SessionId} (hnodup : packetIds.Nodup) :
    ∃ history, (returnRuns capacity lifetime).Reachable
      ⟨spentAll capacity lifetime packetIds, 0, history⟩ := by
  induction packetIds with
  | nil =>
      refine ⟨[], .of_init ⟨?_, rfl⟩⟩
      simp only [ReturnPathTable.new, Check.failWhen]
      rw [if_neg (not_or.mpr ⟨hcapacity, hlifetime⟩)]
      rfl
  | cons packetId packetIds ih =>
      obtain ⟨hfresh, hnodup⟩ := List.nodup_cons.mp hnodup
      obtain ⟨history, hreach⟩ := ih hnodup
      let key : ReturnPathKey := { samplePacket with packetId }
      have hinserted := hreach.tail (ReturnStep.insert key 0 0 le_rfl le_rfl)
      rw [insert_spentAll hcapacity hlifetime hfresh] at hinserted
      have hconsumed := hinserted.tail (ReturnStep.consume packetId key 0 0 le_rfl le_rfl)
      rw [consume_note_spentAll key hlifetime] at hconsumed
      exact ⟨_, hconsumed⟩

/-- After some run there is any number of records there are packet ids for. -/
theorem exists_records_eq {count : Nat} (hcapacity : capacity ≠ 0) (hlifetime : lifetime ≠ 0)
    (hcount : count ≤ Nat.card SessionId) :
    ∃ run, (returnRuns capacity lifetime).Reachable run ∧ run.table.records = count := by
  obtain ⟨packetIds, hnodup, hlength⟩ := exists_packetIds hcount
  obtain ⟨history, hreach⟩ := reachable_spentAll hcapacity hlifetime hnodup
  exact ⟨_, hreach, (records_spentAll hnodup).trans hlength⟩

/-- No capacity that `new` accepts bounds the records of a table. -/
theorem boundedThrough_iff (capacity : Nat) : BoundedThrough capacity ↔ capacity = 0 := by
  constructor
  · intro ⟨bound, hbound, hrecords⟩
    by_contra hcapacity
    obtain ⟨run, hreach, hmore⟩ :=
      exists_records_eq hcapacity (one_ne_zero : 1 ≠ 0) (Nat.succ_le_of_lt hbound)
    have hle : run.table.records ≤ bound := hrecords 1 run hreach
    omega
  · intro hzero
    have hids : Nonempty SessionId := ⟨samplePacket.packetId⟩
    have := SessionId.finite
    refine ⟨0, Nat.card_pos, ?_⟩
    intro lifetime run hreach
    -- Without a table no run starts.
    obtain ⟨start, ⟨hnew, -⟩, -⟩ := hreach
    rw [ReturnPathTable.new, Check.failWhen, if_pos (Or.inl hzero)] at hnew
    cases hnew

/-- A table for one packet holds as many records as there are packets that came back. -/
theorem boundedThrough_one : ¬ BoundedThrough 1 := by
  intro ⟨bound, hbound, hrecords⟩
  obtain ⟨run, hreach, hmore⟩ :=
    exists_records_eq one_ne_zero (by decide : 30 ≠ 0) (Nat.succ_le_of_lt hbound)
  have hle : run.table.records ≤ bound := hrecords 30 run hreach
  omega

end ReturnRun

end Network
