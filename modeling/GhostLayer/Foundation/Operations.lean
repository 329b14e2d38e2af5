import GhostLayer.Foundation.Fallible
import Mathlib.Data.List.Induction
import Mathlib.Data.List.Nodup
import Mathlib.Order.Defs.PartialOrder

/-! # Sequences of operations

A component is a state with operations on it that may fail. A sequence of
operations takes it from one state to another and leaves a history: one call for
each operation, with the state before it, what it answered and the state after
it. A fact about whole histories is proved from the end: it holds of no calls at
all, and one more call keeps it.
-/

namespace Foundation

structure Call (σ ε Operation : Type) where
  before : σ
  operation : Operation
  outcome : Outcome ε Unit
  after : σ

namespace Call

variable {σ ε Operation : Type}

/-- A call that did not succeed. -/
def Refused (call : Call σ ε Operation) : Prop := ¬ call.outcome.IsOk

/-- A call that came back with an error was refused. -/
theorem refused_of_error {call : Call σ ε Operation} {reason : ε}
    (herror : call.outcome = .error reason) : call.Refused := by
  intro hok
  obtain ⟨_, houtcome⟩ := hok
  cases herror.symm.trans houtcome

end Call

section Sequences

variable {σ ε Operation : Type} (perform : Operation → Fallible σ ε Unit)

def call (operation : Operation) (state : σ) : Call σ ε Operation where
  before := state
  operation
  outcome := (perform operation state).1
  after := (perform operation state).2

def stateAfterAll : List Operation → σ → σ
  | [], state => state
  | operation :: rest, state => stateAfterAll rest (perform operation state).2

/-- The calls of a sequence of operations, the first one first. -/
def calls : List Operation → σ → List (Call σ ε Operation)
  | [], _ => []
  | operation :: rest, state =>
      call perform operation state :: calls rest (perform operation state).2

variable {perform} {operations : List Operation} {state : σ}

@[simp] theorem stateAfterAll_append (earlier later : List Operation) (state : σ) :
    stateAfterAll perform (earlier ++ later) state =
      stateAfterAll perform later (stateAfterAll perform earlier state) := by
  induction earlier generalizing state with
  | nil => rfl
  | cons operation earlier ih => exact ih (perform operation state).2

@[simp] theorem calls_append (earlier later : List Operation) (state : σ) :
    calls perform (earlier ++ later) state =
      calls perform earlier state ++ calls perform later (stateAfterAll perform earlier state) := by
  induction earlier generalizing state with
  | nil => rfl
  | cons operation earlier ih =>
      simp only [List.cons_append, calls, stateAfterAll, ih]

theorem stateAfterAll_concat (operations : List Operation) (operation : Operation) (state : σ) :
    stateAfterAll perform (operations ++ [operation]) state =
      (perform operation (stateAfterAll perform operations state)).2 :=
  stateAfterAll_append operations [operation] state

theorem calls_concat (operations : List Operation) (operation : Operation) (state : σ) :
    calls perform (operations ++ [operation]) state =
      calls perform operations state ++
        [call perform operation (stateAfterAll perform operations state)] :=
  calls_append operations [operation] state

/-- Every call of a history was made in the state that the operations before it led to. -/
theorem exists_split_of_calls {earlier later : List (Call σ ε Operation)}
    {made : Call σ ε Operation}
    (hsplit : calls perform operations state = earlier ++ made :: later) :
    ∃ before after, operations = before ++ made.operation :: after ∧
      earlier = calls perform before state ∧
      made = call perform made.operation (stateAfterAll perform before state) := by
  induction earlier generalizing operations state with
  | nil =>
      cases operations with
      | nil => cases hsplit
      | cons operation rest =>
          obtain ⟨hmade, -⟩ := List.cons.inj hsplit
          subst hmade
          exact ⟨[], rest, rfl, rfl, rfl⟩
  | cons first earlier ih =>
      cases operations with
      | nil => cases hsplit
      | cons operation rest =>
          obtain ⟨hfirst, hrest⟩ := List.cons.inj hsplit
          obtain ⟨before, after, hoperations, hearlier, hmade⟩ := ih hrest
          refine ⟨operation :: before, after, ?_, ?_, hmade⟩
          · rw [hoperations, List.cons_append]
          · rw [calls, ← hfirst, ← hearlier]

theorem exists_of_mem_calls {made : Call σ ε Operation}
    (hmade : made ∈ calls perform operations state) :
    ∃ before after, operations = before ++ made.operation :: after ∧
      made = call perform made.operation (stateAfterAll perform before state) := by
  obtain ⟨earlier, later, hsplit⟩ := List.append_of_mem hmade
  obtain ⟨before, after, hoperations, -, hcall⟩ := exists_split_of_calls hsplit
  exact ⟨before, after, hoperations, hcall⟩

/-- What every operation keeps holds after every sequence of them. -/
theorem stateAfterAll_invariant (inv : σ → Prop)
    (hstep : ∀ operation state, inv state → inv (perform operation state).2)
    (hstate : inv state) : inv (stateAfterAll perform operations state) := by
  induction operations generalizing state with
  | nil => exact hstate
  | cons operation rest ih => exact ih (hstep operation state hstate)

/-- What no operation lowers is not lowered by a sequence of them. -/
theorem stateAfterAll_monotone {α : Type} [Preorder α] (measure : σ → α)
    (hstep : ∀ operation state, measure state ≤ measure (perform operation state).2) :
    measure state ≤ measure (stateAfterAll perform operations state) := by
  induction operations generalizing state with
  | nil => exact le_rfl
  | cons operation rest ih => exact le_trans (hstep operation state) ih

/-- Histories from the end: a fact about the operations so far, their calls and the state they led
to. -/
theorem history_induction {state : σ}
    {motive : List Operation → List (Call σ ε Operation) → σ → Prop}
    (hnil : motive [] [] state)
    (hconcat : ∀ operations operation history before, motive operations history before →
      motive (operations ++ [operation]) (history ++ [call perform operation before])
        (perform operation before).2)
    (operations : List Operation) :
    motive operations (calls perform operations state)
      (stateAfterAll perform operations state) := by
  induction operations using List.reverseRecOn with
  | nil => exact hnil
  | append_singleton operations operation ih =>
      rw [calls_concat, stateAfterAll_concat]
      exact hconcat operations operation _ _ ih

end Sequences

section Selections

variable {α β : Type} {select : α → Option β} {items : List α}

/-- A value among the selected ones was selected from one item, behind those of the items before
it. -/
theorem exists_split_of_filterMap {earlier later : List β} {value : β}
    (hselected : items.filterMap select = earlier ++ value :: later) :
    ∃ before item after, items = before ++ item :: after ∧ before.filterMap select = earlier ∧
      select item = some value := by
  obtain ⟨before, rest, rfl, hbefore, hrest⟩ := List.filterMap_eq_append_iff.mp hselected
  obtain ⟨skipped, item, after, rfl, hskipped, hitem, -⟩ := List.filterMap_eq_cons_iff.mp hrest
  refine ⟨before ++ skipped, item, after, (List.append_assoc _ _ _).symm, ?_, hitem⟩
  rw [List.filterMap_append, hbefore, List.filterMap_eq_nil_iff.mpr hskipped, List.append_nil]

/-- Values are selected once when each of them is new where it is selected. -/
theorem nodup_filterMap_of_fresh
    (hfresh : ∀ earlier item later value, items = earlier ++ item :: later →
      select item = some value → value ∉ earlier.filterMap select) :
    (items.filterMap select).Nodup := by
  induction items using List.reverseRecOn with
  | nil => exact List.nodup_nil
  | append_singleton items item ih =>
      have hitems : (items.filterMap select).Nodup := by
        apply ih
        intro earlier other later value hsplit
        apply hfresh earlier other (later ++ [item]) value
        rw [hsplit, List.append_assoc, List.cons_append]
      rw [List.filterMap_append]
      cases hitem : select item with
      | none => simpa [hitem] using hitems
      | some value =>
          have hnew := hfresh items item [] value rfl hitem
          rw [List.filterMap_cons_some hitem, List.filterMap_nil]
          exact List.nodup_append.mpr ⟨hitems, List.nodup_singleton value,
            fun _ hmem _ hlast => ne_of_mem_of_not_mem hmem (List.mem_singleton.mp hlast ▸ hnew)⟩

/-- One value at most comes out where no two items have any. -/
theorem length_flatMap_le_one {values : α → List β}
    (heach : ∀ item ∈ items, (values item).length ≤ 1)
    (hapart : items.Pairwise fun first second => values first = [] ∨ values second = []) :
    (items.flatMap values).length ≤ 1 := by
  induction items with
  | nil => exact Nat.zero_le 1
  | cons item items ih =>
      obtain ⟨hfirst, hrest⟩ := List.pairwise_cons.mp hapart
      obtain ⟨hitem, hitems⟩ := List.forall_mem_cons.mp heach
      rw [List.flatMap_cons, List.length_append]
      by_cases hnone : values item = []
      · rw [hnone, List.length_nil, Nat.zero_add]
        exact ih hitems hrest
      · have hothers : items.flatMap values = [] :=
          List.flatMap_eq_nil_iff.mpr fun other hother =>
            (hfirst other hother).resolve_left hnone
        rw [hothers, List.length_nil]
        exact hitem

/-- Where a selection leaves out some of what another one takes, it has as many values only when it
leaves out nothing. -/
theorem selections_agree (items : List α) (select : α → Option β) {part : α → Option β}
    (hpart : ∀ item, part item = select item ∨ part item = none) :
    (items.filterMap part).length ≤ (items.filterMap select).length ∧
      ((items.filterMap part).length = (items.filterMap select).length →
        ∀ item ∈ items, part item = select item) := by
  induction items with
  | nil => exact ⟨Nat.le_refl _, fun _ _ hmem => absurd hmem List.not_mem_nil⟩
  | cons first items ih =>
      obtain ⟨hle, hagree⟩ := ih
      rcases hpart first with hsame | hnone
      · cases hfirst : select first with
        | none =>
            rw [List.filterMap_cons_none (hsame.trans hfirst), List.filterMap_cons_none hfirst]
            refine ⟨hle, ?_⟩
            intro hlength item hitem
            rcases List.mem_cons.mp hitem with rfl | hitem
            · exact hsame
            · exact hagree hlength item hitem
        | some value =>
            rw [List.filterMap_cons_some (hsame.trans hfirst), List.filterMap_cons_some hfirst,
              List.length_cons, List.length_cons]
            refine ⟨Nat.succ_le_succ hle, ?_⟩
            intro hlength item hitem
            rcases List.mem_cons.mp hitem with rfl | hitem
            · exact hsame
            · exact hagree (Nat.succ.inj hlength) item hitem
      · rw [List.filterMap_cons_none hnone]
        cases hfirst : select first with
        | none =>
            rw [List.filterMap_cons_none hfirst]
            refine ⟨hle, ?_⟩
            intro hlength item hitem
            rcases List.mem_cons.mp hitem with rfl | hitem
            · exact hnone.trans hfirst.symm
            · exact hagree hlength item hitem
        | some value =>
            rw [List.filterMap_cons_some hfirst, List.length_cons]
            refine ⟨Nat.le_succ_of_le hle, ?_⟩
            intro hlength
            -- One value more on the other side.
            exact absurd hlength (Nat.ne_of_lt (Nat.lt_succ_of_le hle))

end Selections

end Foundation
