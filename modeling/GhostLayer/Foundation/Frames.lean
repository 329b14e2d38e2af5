import GhostLayer.Foundation.Fallible

/-! # What a routine leaves alone

Frame rules for routines that may fail. `view` is the part of the state in
question. A routine can keep it however it ends, keep it when it fails, or add
at most one item to it. A routine on a log can append to it without reading it,
and a routine can keep a property of the state. Last, which errors a routine can
end with.
-/

namespace Foundation.Fallible

variable {σ τ υ ε ε' α β γ : Type} {view : σ → υ}

/-- The routine leaves a part of the state alone, however it ends. -/
def Keeps (view : σ → υ) (routine : Fallible σ ε α) : Prop :=
  ∀ state, view (routine state).2 = view state

/-- The routine leaves a part of the state alone when it fails. -/
def KeepsOnFailure (view : σ → υ) (routine : Fallible σ ε α) : Prop :=
  ∀ state, (routine state).1.IsOk ∨ view (routine state).2 = view state

/-- However it ends, the routine adds one item to a log or leaves the log alone. -/
def Adds (log : σ → List γ) (item : γ) (routine : Fallible σ ε α) : Prop :=
  ∀ state, log (routine state).2 = log state ∨ log (routine state).2 = log state ++ [item]

/-! ## Keeping -/

namespace Keeps

theorem of_run {routine : Fallible σ ε α} {outcome : Outcome ε α} {state final : σ}
    (hkeeps : Keeps view routine) (hrun : routine state = (outcome, final)) :
    view final = view state := by
  rw [← hkeeps state, hrun]

theorem pure (value : α) : Keeps view (pure value : Fallible σ ε α) := fun _ => rfl

theorem get : Keeps view (Fallible.get : Fallible σ ε σ) := fun _ => rfl

theorem throw (reason : ε) : Keeps view (Fallible.throw reason : Fallible σ ε α) := fun _ => rfl

theorem modify {update : σ → σ} (hupdate : ∀ state, view (update state) = view state) :
    Keeps view (Fallible.modify update : Fallible σ ε Unit) := hupdate

theorem failWhen {bad : Prop} [Decidable bad] {reason : ε} :
    Keeps view (Fallible.failWhen bad reason : Fallible σ ε Unit) := by
  intro state
  by_cases hbad : bad <;> simp [hbad]

theorem orThrow {value : Option α} {reason : ε} :
    Keeps view (Fallible.orThrow value reason : Fallible σ ε α) := by
  intro state
  cases value <;> rfl

theorem orPanic {value : Option α} : Keeps view (Fallible.orPanic value : Fallible σ ε α) := by
  intro state
  cases value <;> rfl

theorem ofExcept {value : Except ε α} : Keeps view (Fallible.ofExcept value : Fallible σ ε α) := by
  intro state
  cases value <;> rfl

theorem locally {value : τ} {routine : Fallible τ ε α} :
    Keeps view (Fallible.locally value routine : Fallible σ ε (α × τ)) := by
  intro state
  rcases hrun : routine value with ⟨_ | _ | _, next⟩ <;> simp [Fallible.locally, hrun]

theorem mapError {convert : ε → ε'} {routine : Fallible σ ε α} (hkeeps : Keeps view routine) :
    Keeps view (Fallible.mapError convert routine) := by
  intro state
  have hstate := hkeeps state
  rcases hrun : routine state with ⟨_ | _ | _, next⟩ <;>
    simpa [Fallible.mapError, hrun] using hstate

theorem attempt {routine : Fallible σ ε α} (hkeeps : Keeps view routine) :
    Keeps view (Fallible.attempt routine : Fallible σ ε' _) := by
  intro state
  have hstate := hkeeps state
  rcases hrun : routine state with ⟨_ | _ | _, next⟩ <;>
    simpa [Fallible.attempt, hrun] using hstate

theorem zoom {part : σ → τ} {replace : τ → σ → σ} {routine : Fallible τ ε α}
    (hreplace : ∀ next state, view (replace next state) = view state) :
    Keeps view (Fallible.zoom part replace routine) :=
  fun _ => hreplace _ _

theorem bind {first : Fallible σ ε α} {rest : α → Fallible σ ε β} (hfirst : Keeps view first)
    (hrest : ∀ value, Keeps view (rest value)) : Keeps view (first >>= rest) := by
  intro state
  have hstate := hfirst state
  rw [bind_run]
  rcases hrun : first state with ⟨value | reason | _, next⟩ <;> rw [hrun] at hstate
  · exact (hrest value next).trans hstate
  · exact hstate
  · exact hstate

/-- A sequence ends with its first half, which kept the view, or goes on with the second. -/
theorem bind_cases {first : Fallible σ ε α} (hfirst : Keeps view first)
    (rest : α → Fallible σ ε β) (state : σ) :
    view ((first >>= rest) state).2 = view state ∨
      ∃ value next, first state = (.ok value, next) ∧ view next = view state ∧
        (first >>= rest) state = rest value next := by
  have hstate := hfirst state
  rw [bind_run]
  rcases hrun : first state with ⟨value | reason | _, next⟩ <;> rw [hrun] at hstate
  · exact .inr ⟨value, next, rfl, hstate, rfl⟩
  · exact .inl hstate
  · exact .inl hstate

end Keeps

/-! ## Keeping on failure -/

namespace KeepsOnFailure

theorem of_keeps {routine : Fallible σ ε α} (hkeeps : Keeps view routine) :
    KeepsOnFailure view routine := fun state => .inr (hkeeps state)

theorem modify {update : σ → σ} :
    KeepsOnFailure view (Fallible.modify update : Fallible σ ε Unit) := fun _ => .inl ⟨(), rfl⟩

theorem bind {first : Fallible σ ε α} {rest : α → Fallible σ ε β} (hfirst : Keeps view first)
    (hrest : ∀ value, KeepsOnFailure view (rest value)) :
    KeepsOnFailure view (first >>= rest) := by
  intro state
  have hstate := hfirst state
  rw [bind_run]
  rcases hrun : first state with ⟨value | reason | _, next⟩ <;> rw [hrun] at hstate
  · exact (hrest value next).imp_right (·.trans hstate)
  · exact .inr hstate
  · exact .inr hstate

end KeepsOnFailure

/-! ## Adding -/

namespace Adds

variable {log : σ → List γ} {item : γ}

theorem of_keeps {routine : Fallible σ ε α} (hkeeps : Keeps log routine) :
    Adds log item routine := fun state => .inl (hkeeps state)

theorem modify {update : σ → σ} (hupdate : ∀ state, log (update state) = log state ++ [item]) :
    Adds log item (Fallible.modify update : Fallible σ ε Unit) := fun state => .inr (hupdate state)

/-- The log is kept first, and then may grow. -/
theorem after {first : Fallible σ ε α} {rest : α → Fallible σ ε β} (hfirst : Keeps log first)
    (hrest : ∀ value, Adds log item (rest value)) : Adds log item (first >>= rest) := by
  intro state
  have hstate := hfirst state
  rw [bind_run]
  rcases hrun : first state with ⟨value | reason | _, next⟩ <;> rw [hrun] at hstate
  · simpa only [← hstate] using hrest value next
  · exact .inl hstate
  · exact .inl hstate

/-- The log may grow first, and is kept from then on. -/
theorem before {first : Fallible σ ε α} {rest : α → Fallible σ ε β}
    (hfirst : Adds log item first) (hrest : ∀ value, Keeps log (rest value)) :
    Adds log item (first >>= rest) := by
  intro state
  have hstate := hfirst state
  rw [bind_run]
  rcases hrun : first state with ⟨value | reason | _, next⟩ <;> rw [hrun] at hstate
  · simpa only [hrest value next] using hstate
  · exact hstate
  · exact hstate

/-- The log may grow first, and is kept by a failure from then on. -/
theorem then_keepsOnFailure {first : Fallible σ ε α} {rest : α → Fallible σ ε β}
    (hfirst : Adds log item first) (hrest : ∀ value, KeepsOnFailure log (rest value)) (state : σ)
    (hfails : ¬ ((first >>= rest) state).1.IsOk) :
    log ((first >>= rest) state).2 = log state ∨
      log ((first >>= rest) state).2 = log state ++ [item] := by
  have hstate := hfirst state
  rw [bind_run] at hfails ⊢
  rcases hrun : first state with ⟨value | reason | _, next⟩ <;> rw [hrun] at hstate hfails
  · simpa only [(hrest value next).resolve_left hfails] using hstate
  · exact hstate
  · exact hstate

end Adds

/-! ## Without a state -/

/-- The routine neither reads nor changes the state. -/
def Ignores (routine : Fallible σ ε α) : Prop := ∃ outcome, ∀ state,
    routine state = (outcome, state)

namespace Ignores

theorem pure (value : α) : Ignores (pure value : Fallible σ ε α) := ⟨.ok value, fun _ => rfl⟩

theorem throw (reason : ε) : Ignores (Fallible.throw reason : Fallible σ ε α) :=
  ⟨.error reason, fun _ => rfl⟩

theorem failWhen {bad : Prop} [Decidable bad] {reason : ε} :
    Ignores (Fallible.failWhen bad reason : Fallible σ ε Unit) := by
  by_cases hbad : bad
  · exact ⟨.error reason, fun _ => by simp [hbad]⟩
  · exact ⟨.ok (), fun _ => by simp [hbad]⟩

theorem orPanic {value : Option α} : Ignores (Fallible.orPanic value : Fallible σ ε α) := by
  cases value with
  | none => exact ⟨.panic, fun _ => rfl⟩
  | some value => exact .pure value

theorem ofExcept {value : Except ε α} : Ignores (Fallible.ofExcept value : Fallible σ ε α) := by
  cases value with
  | error reason => exact .throw reason
  | ok value => exact .pure value

theorem bind {first : Fallible σ ε α} {rest : α → Fallible σ ε β} (hfirst : Ignores first)
    (hrest : ∀ value, Ignores (rest value)) : Ignores (first >>= rest) := by
  obtain ⟨outcome, hfirst⟩ := hfirst
  cases outcome with
  | ok value =>
      obtain ⟨final, hrest⟩ := hrest value
      exact ⟨final, fun state => (bind_ok (hfirst state)).trans (hrest state)⟩
  | error reason => exact ⟨.error reason, fun state => by rw [bind_run, hfirst]⟩
  | panic => exact ⟨.panic, fun state => by rw [bind_run, hfirst]⟩

end Ignores

/-! ## Appending -/

/-- The routine appends to a log that it does not read. -/
def Appends (routine : Fallible (List γ) ε α) : Prop :=
  ∀ log, routine log = ((routine []).1, log ++ (routine []).2)

namespace Appends

theorem of_ignores {routine : Fallible (List γ) ε α} (hignores : Ignores routine) :
    Appends routine := by
  obtain ⟨outcome, hrun⟩ := hignores
  intro log
  simp [hrun]

theorem modify (items : List γ) :
    Appends (Fallible.modify (· ++ items) : Fallible (List γ) ε Unit) := by
  intro log
  simp

theorem bind {first : Fallible (List γ) ε α} {rest : α → Fallible (List γ) ε β}
    (hfirst : Appends first) (hrest : ∀ value, Appends (rest value)) :
    Appends (first >>= rest) := by
  intro log
  rw [bind_run, bind_run, hfirst log]
  rcases hrun : first [] with ⟨value | reason | _, items⟩
  · simp only [hrest value (log ++ items), hrest value items, List.append_assoc]
  · rfl
  · rfl

end Appends

/-! ## Keeping a property -/

/-- The routine keeps a property of the state, however it ends. -/
def Preserves (good : σ → Prop) (routine : Fallible σ ε α) : Prop :=
  ∀ state, good state → good (routine state).2

namespace Preserves

variable {good : σ → Prop}

theorem of_ignores {routine : Fallible σ ε α} (hignores : Ignores routine) :
    Preserves good routine := by
  obtain ⟨outcome, hrun⟩ := hignores
  intro state hgood
  rwa [hrun]

theorem modify {update : σ → σ} (hupdate : ∀ state, good state → good (update state)) :
    Preserves good (Fallible.modify update : Fallible σ ε Unit) := hupdate

/-- The second half keeps the property whenever the first half comes to it. -/
theorem bind_ok {first : Fallible σ ε α} {rest : α → Fallible σ ε β} (hfirst : Preserves good first)
    (hrest : ∀ value state next, first state = (.ok value, next) → Preserves good (rest value)) :
    Preserves good (first >>= rest) := by
  intro state hgood
  have hnext := hfirst state hgood
  rw [bind_run]
  rcases hrun : first state with ⟨value | reason | _, next⟩ <;> rw [hrun] at hnext
  · exact hrest value state next hrun next hnext
  · exact hnext
  · exact hnext

theorem bind {first : Fallible σ ε α} {rest : α → Fallible σ ε β} (hfirst : Preserves good first)
    (hrest : ∀ value, Preserves good (rest value)) : Preserves good (first >>= rest) :=
  hfirst.bind_ok fun value _ _ _ => hrest value

theorem mapError {convert : ε → ε'} {routine : Fallible σ ε α} (hroutine : Preserves good routine) :
    Preserves good (Fallible.mapError convert routine) := by
  intro state hgood
  rw [mapError_state]
  exact hroutine state hgood

theorem attempt {routine : Fallible σ ε α} (hroutine : Preserves good routine) :
    Preserves good (Fallible.attempt routine : Fallible σ ε' _) := by
  intro state hgood
  have hnext := hroutine state hgood
  rcases hrun : routine state with ⟨_ | _ | _, next⟩ <;>
    simpa [Fallible.attempt, hrun] using hnext

/-- The part that the routine runs on has the property. -/
theorem zoom {part : σ → τ} {replace : τ → σ → σ} {routine : Fallible τ ε α} {property : τ → Prop}
    (hpart : ∀ next state, part (replace next state) = next)
    (hroutine : Preserves property routine) :
    Preserves (fun state => property (part state)) (Fallible.zoom part replace routine) := by
  intro state hgood
  show property (part (replace (routine (part state)).2 state))
  rw [hpart]
  exact hroutine _ hgood

end Preserves

/-! ## Errors -/

/-- Every error that the routine ends with is an allowed one. -/
def Raises (allowed : ε → Prop) (routine : Fallible σ ε α) : Prop :=
  ∀ state reason, (routine state).1 = .error reason → allowed reason

namespace Raises

variable {allowed : ε → Prop}

theorem of_run {routine : Fallible σ ε α} {reason : ε} {state final : σ}
    (hraises : Raises allowed routine) (hrun : routine state = (.error reason, final)) :
    allowed reason := hraises state reason (congrArg Prod.fst hrun)

theorem pure (value : α) : Raises allowed (pure value : Fallible σ ε α) := by
  intro _ _ herror
  cases herror

theorem modify (update : σ → σ) : Raises allowed (Fallible.modify update) := by
  intro _ _ herror
  cases herror

theorem throw {reason : ε} (hallowed : allowed reason) :
    Raises allowed (Fallible.throw reason : Fallible σ ε α) := by
  intro _ _ herror
  cases herror
  exact hallowed

theorem ofExcept {convert : ε' → ε} {value : Except ε' α}
    (hallowed : ∀ reason, allowed (convert reason)) :
    Raises allowed (Fallible.ofExcept (value.mapError convert) : Fallible σ ε α) := by
  intro _ _ herror
  cases value <;> cases herror
  exact hallowed _

theorem mapError {convert : ε' → ε} {routine : Fallible σ ε' α}
    (hallowed : ∀ reason, allowed (convert reason)) :
    Raises allowed (Fallible.mapError convert routine) := by
  intro state _ herror
  rcases hrun : routine state with ⟨_ | _ | _, next⟩ <;>
    simp only [Fallible.mapError, hrun] at herror <;> cases herror
  exact hallowed _

theorem locally {value : τ} {routine : Fallible τ ε α} (hraises : Raises allowed routine) :
    Raises allowed (Fallible.locally value routine : Fallible σ ε (α × τ)) := by
  intro state reason herror
  rcases hrun : routine value with ⟨_ | _ | _, next⟩ <;>
    simp only [Fallible.locally, hrun] at herror <;> cases herror
  exact hraises.of_run hrun

theorem bind {first : Fallible σ ε α} {rest : α → Fallible σ ε β} (hfirst : Raises allowed first)
    (hrest : ∀ value, Raises allowed (rest value)) : Raises allowed (first >>= rest) := by
  intro state reason herror
  rw [bind_run] at herror
  rcases hrun : first state with ⟨value | _ | _, next⟩ <;> rw [hrun] at herror
  · exact hrest value next reason herror
  · cases herror
    exact hfirst.of_run hrun
  · cases herror

end Raises

end Foundation.Fallible
