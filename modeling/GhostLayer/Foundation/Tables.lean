import Mathlib.Data.Finset.Card
import Mathlib.Data.List.AList

/-! # Tables

A fact about every entry of a table, and how it survives changes of the table.
A table can be cut down to the entries that pass a check. Entries are counted by
a view that tells them apart.
-/

namespace Foundation

variable {κ ν : Type} [DecidableEq κ] {table : AList (fun _ : κ => ν)} {fact : κ → ν → Prop}

/-- Every entry of a table has a property. -/
def EveryEntry (fact : κ → ν → Prop) (table : AList (fun _ : κ => ν)) : Prop :=
  ∀ key value, table.lookup key = some value → fact key value

theorem mem_iff_lookup {key : κ} : key ∈ table ↔ ∃ value, table.lookup key = some value := by
  rw [← AList.lookup_isSome, Option.isSome_iff_exists]

theorem lookup_insert_eq_some {key key' : κ} {value value' : ν} :
    (table.insert key value).lookup key' = some value' ↔
      key' = key ∧ value = value' ∨ key' ≠ key ∧ table.lookup key' = some value' := by
  by_cases hkey : key' = key
  · subst hkey
    simp
  · simp [hkey]

theorem lookup_erase_eq_some {key key' : κ} {value : ν} :
    (table.erase key).lookup key' = some value ↔
      key' ≠ key ∧ table.lookup key' = some value := by
  by_cases hkey : key' = key
  · subst hkey
    simp
  · simp [hkey]

theorem isSome_lookup_insert {key key' : κ} {value : ν}
    (hknown : key' = key ∨ (table.lookup key').isSome) :
    ((table.insert key value).lookup key').isSome := by
  by_cases hkey : key' = key
  · subst hkey
    simp
  · simpa [hkey] using hknown.resolve_left hkey

theorem eq_empty_of_lookup (hnone : ∀ key, table.lookup key = none) : table = ∅ := by
  apply AList.ext
  rw [AList.empty_entries]
  refine List.eq_nil_iff_forall_not_mem.mpr ?_
  intro entry hentry
  cases (hnone entry.1).symm.trans (AList.mem_lookup_iff.mpr hentry)

/-- The entries that pass a check. -/
def retain (keep : κ → ν → Bool) (table : AList (fun _ : κ => ν)) : AList (fun _ : κ => ν) where
  entries := table.entries.filter fun entry => keep entry.1 entry.2
  nodupKeys := table.nodupKeys.sublist List.filter_sublist

theorem lookup_retain_eq_some {keep : κ → ν → Bool} {key : κ} {value : ν} :
    (retain keep table).lookup key = some value ↔
      table.lookup key = some value ∧ keep key value = true := by
  rw [← Option.mem_def, ← Option.mem_def, AList.mem_lookup_iff, AList.mem_lookup_iff]
  exact List.mem_filter

theorem retain_eq_self {keep : κ → ν → Bool} (hkeep : EveryEntry (keep · · = true) table) :
    retain keep table = table := by
  apply AList.ext
  apply List.filter_eq_self.mpr
  intro entry hentry
  exact hkeep entry.1 entry.2 (AList.mem_lookup_iff.mpr hentry)

/-- A new entry, unless there is one for its key already. -/
def orInsert (key : κ) (value : ν) (table : AList (fun _ : κ => ν)) : AList (fun _ : κ => ν) :=
  if key ∈ table then table else table.insert key value

theorem length_orInsert_le (key : κ) (value : ν) :
    (orInsert key value table).entries.length ≤ table.entries.length + 1 := by
  unfold orInsert
  split_ifs with hmem
  · exact Nat.le_succ _
  · rw [AList.entries_insert_of_notMem hmem, List.length_cons]

/-- The entry that was there is the one that stays. -/
theorem orInsert_of_lookup {key : κ} {value held : ν} (hheld : table.lookup key = some held) :
    orInsert key value table = table := if_pos (mem_iff_lookup.mpr ⟨held, hheld⟩)

theorem orInsert_of_lookup_eq_none {key : κ} {value : ν} (hnone : table.lookup key = none) :
    orInsert key value table = table.insert key value := by
  refine if_neg ?_
  intro hmem
  obtain ⟨held, hheld⟩ := mem_iff_lookup.mp hmem
  cases hnone.symm.trans hheld

namespace EveryEntry

theorem empty : EveryEntry fact (∅ : AList (fun _ : κ => ν)) := by
  intro key value hlookup
  simp at hlookup

/-- The new entry has the property, and the others keep theirs. -/
theorem insert (hevery : EveryEntry fact table) {key : κ} {value : ν} (hnew : fact key value) :
    EveryEntry fact (table.insert key value) := by
  intro key' value' hlookup
  rcases lookup_insert_eq_some.mp hlookup with ⟨rfl, rfl⟩ | ⟨_, hold⟩
  · exact hnew
  · exact hevery key' value' hold

theorem orInsert (hevery : EveryEntry fact table) {key : κ} {value : ν} (hnew : fact key value) :
    EveryEntry fact (orInsert key value table) := by
  unfold Foundation.orInsert
  split_ifs
  · exact hevery
  · exact hevery.insert hnew

theorem erase (hevery : EveryEntry fact table) (key : κ) : EveryEntry fact (table.erase key) :=
  fun key' value hlookup => hevery key' value (lookup_erase_eq_some.mp hlookup).2

theorem imp {fact' : κ → ν → Prop} (hevery : EveryEntry fact table)
    (himp : ∀ key value, table.lookup key = some value → fact key value → fact' key value) :
    EveryEntry fact' table :=
  fun key value hlookup => himp key value hlookup (hevery key value hlookup)

end EveryEntry

/-! ## Counting entries -/

section Counting

variable {α : Type} {view : κ → ν → α}

/-- What a view shows of each entry. -/
def views (view : κ → ν → α) (table : AList (fun _ : κ => ν)) : List α :=
  table.entries.map fun entry => view entry.1 entry.2

theorem mem_views {item : α} :
    item ∈ views view table ↔
      ∃ key value, table.lookup key = some value ∧ view key value = item := by
  simp only [views, List.mem_map, Sigma.exists, ← AList.mem_lookup_iff, Option.mem_def]

omit [DecidableEq κ] in
@[simp] theorem length_views : (views view table).length = table.entries.length :=
  List.length_map ..

/-- A view that shows different entries differently. -/
def TellsApart (view : κ → ν → α) (table : AList (fun _ : κ => ν)) : Prop :=
  ∀ key key' value value', table.lookup key = some value → table.lookup key' = some value' →
    view key value = view key' value' → key = key'

namespace TellsApart

theorem keys : TellsApart (fun key (_ : ν) => key) table := by
  intro key key' value value' _ _ hsame
  exact hsame

theorem erase (happart : TellsApart view table) (key : κ) :
    TellsApart view (table.erase key) := by
  intro first second value value' hfirst hsecond hsame
  exact happart first second value value' (lookup_erase_eq_some.mp hfirst).2
    (lookup_erase_eq_some.mp hsecond).2 hsame

/-- A new entry that looks like no other. -/
theorem insert (happart : TellsApart view table) {key : κ} {value : ν}
    (hnew : EveryEntry (fun key' value' => key' ≠ key → view key' value' ≠ view key value) table) :
    TellsApart view (table.insert key value) := by
  intro first second held held' hfirst hsecond hsame
  rcases lookup_insert_eq_some.mp hfirst with ⟨rfl, rfl⟩ | ⟨hne, hfirst⟩ <;>
    rcases lookup_insert_eq_some.mp hsecond with ⟨hkey, rfl⟩ | ⟨hne', hsecond⟩
  · exact hkey.symm
  · exact absurd hsame.symm (hnew second held' hsecond hne')
  · exact absurd (hkey ▸ hsame) (hnew first held hfirst hne)
  · exact happart first second held held' hfirst hsecond hsame

theorem nodup_views (happart : TellsApart view table) : (views view table).Nodup := by
  apply List.Nodup.map_on _ table.nodupKeys.nodup
  rintro ⟨key, value⟩ hfirst ⟨key', value'⟩ hsecond hsame
  have hfound := AList.mem_lookup_iff.mpr hfirst
  have hfound' := AList.mem_lookup_iff.mpr hsecond
  obtain rfl := happart key key' value value' hfound hfound' hsame
  rw [Option.mem_unique hfound hfound']

end TellsApart

variable [DecidableEq α] {items : Finset α}

theorem length_le_card_of_nodup {shown : List α} (hnodup : shown.Nodup)
    (hwithin : ∀ item ∈ shown, item ∈ items) : shown.length ≤ items.card := by
  rw [← List.toFinset_card_of_nodup hnodup]
  exact Finset.card_le_card fun item hitem => hwithin item (List.mem_toFinset.mp hitem)

/-- There are no more entries than things that a view can show of them. -/
theorem TellsApart.length_le_card (happart : TellsApart view table)
    (hwithin : EveryEntry (fun key value => view key value ∈ items) table) :
    table.entries.length ≤ items.card := by
  have hlength : (views view table).length = table.entries.length := length_views
  rw [← hlength]
  refine length_le_card_of_nodup happart.nodup_views ?_
  intro item hitem
  obtain ⟨key, value, hfound, rfl⟩ := mem_views.mp hitem
  exact hwithin key value hfound

/-- Two tables that share no view are counted together. -/
theorem TellsApart.length_add_length_le_card {κ' ν' : Type} [DecidableEq κ']
    {table' : AList (fun _ : κ' => ν')} {view' : κ' → ν' → α} (happart : TellsApart view table)
    (happart' : TellsApart view' table')
    (hwithin : EveryEntry (fun key value => view key value ∈ items) table)
    (hwithin' : EveryEntry (fun key value => view' key value ∈ items) table')
    (hdisjoint : ∀ key value key' value', table.lookup key = some value →
      table'.lookup key' = some value' → view key value ≠ view' key' value') :
    table.entries.length + table'.entries.length ≤ items.card := by
  have hlength : (views view table).length = table.entries.length := length_views
  have hlength' : (views view' table').length = table'.entries.length := length_views
  rw [← hlength, ← hlength', ← List.length_append]
  apply length_le_card_of_nodup
  · refine happart.nodup_views.append happart'.nodup_views ?_
    intro item hitem hitem'
    obtain ⟨key, value, hfound, rfl⟩ := mem_views.mp hitem
    obtain ⟨key', value', hfound', hsame⟩ := mem_views.mp hitem'
    exact hdisjoint key value key' value' hfound hfound' hsame.symm
  · intro item hitem
    rcases List.mem_append.mp hitem with hitem | hitem
    · obtain ⟨key, value, hfound, rfl⟩ := mem_views.mp hitem
      exact hwithin key value hfound
    · obtain ⟨key, value, hfound, rfl⟩ := mem_views.mp hitem
      exact hwithin' key value hfound

end Counting

end Foundation
