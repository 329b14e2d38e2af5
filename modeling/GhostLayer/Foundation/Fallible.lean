import Mathlib.Logic.Basic
import Mathlib.Tactic.Common

/-! # Routines that mutate a state and may fail

A routine takes a state and returns it together with an outcome. The state
survives a failure, so a mutation made before an early return stays visible.
A panic is an outcome of its own: it is neither a value nor an error that the
caller can inspect.
-/

namespace Foundation

/-- How a call ends. -/
inductive Outcome (ε α : Type) where
  | ok (value : α)
  | error (reason : ε)
  | panic
  deriving DecidableEq

/-- The call came back with a value. -/
def Outcome.IsOk {ε α : Type} (outcome : Outcome ε α) : Prop := ∃ value, outcome = .ok value

instance {ε α : Type} (outcome : Outcome ε α) : Decidable outcome.IsOk :=
  match outcome with
  | .ok value => isTrue ⟨value, rfl⟩
  | .error _ | .panic => isFalse nofun

/-- A result that is kept as a value. -/
def Outcome.ofExcept {ε α : Type} : Except ε α → Outcome ε α
  | .ok value => .ok value
  | .error reason => .error reason

theorem Outcome.ite_ne_panic {ε α : Type} {condition : Prop} [Decidable condition]
    {first second : Outcome ε α} (hfirst : first ≠ .panic) (hsecond : second ≠ .panic) :
    (if condition then first else second) ≠ .panic := by
  split
  · exact hfirst
  · exact hsecond

/-- A routine over a state `σ` with errors `ε` and results `α`. -/
def Fallible (σ ε α : Type) : Type := σ → Outcome ε α × σ

namespace Fallible

variable {σ τ ε ε' α β : Type}

def bind (first : Fallible σ ε α) (rest : α → Fallible σ ε β) : Fallible σ ε β := fun state =>
  match first state with
  | (.ok value, next) => rest value next
  | (.error reason, next) => (.error reason, next)
  | (.panic, next) => (.panic, next)

instance : Monad (Fallible σ ε) where
  pure value := fun state => (.ok value, state)
  bind := bind

def get : Fallible σ ε σ := fun state => (.ok state, state)

def modify (update : σ → σ) : Fallible σ ε Unit := fun state => (.ok (), update state)

def throw (reason : ε) : Fallible σ ε α := fun state => (.error reason, state)

def panic : Fallible σ ε α := fun state => (.panic, state)

/-- Early return with an error when a check fails. -/
def failWhen (bad : Prop) [Decidable bad] (reason : ε) : Fallible σ ε Unit :=
  if bad then throw reason else pure ()

def orThrow (value : Option α) (reason : ε) : Fallible σ ε α :=
  match value with
  | some value => pure value
  | none => throw reason

/-- An `expect`, or an index that must be in range. -/
def orPanic (value : Option α) : Fallible σ ε α :=
  match value with
  | some value => pure value
  | none => panic

/-- Run a check that touches no state. -/
def ofExcept (result : Except ε α) : Fallible σ ε α :=
  match result with
  | .ok value => pure value
  | .error reason => throw reason

def mapError (convert : ε → ε') (routine : Fallible σ ε α) : Fallible σ ε' α := fun state =>
  match routine state with
  | (.ok value, next) => (.ok value, next)
  | (.error reason, next) => (.error (convert reason), next)
  | (.panic, next) => (.panic, next)

/-- Keep the error as a value, so the caller goes on after a failure. -/
def attempt (routine : Fallible σ ε α) : Fallible σ ε' (Except ε α) := fun state =>
  match routine state with
  | (.ok value, next) => (.ok (.ok value), next)
  | (.error reason, next) => (.ok (.error reason), next)
  | (.panic, next) => (.panic, next)

/-- Run a routine on one part of the state. -/
def zoom (part : σ → τ) (replace : τ → σ → σ) (routine : Fallible τ ε α) : Fallible σ ε α :=
  fun state => ((routine (part state)).1, replace (routine (part state)).2 state)

/-- Run a routine on a value of its own, which comes back with the result. -/
def locally (value : τ) (routine : Fallible τ ε α) : Fallible σ ε (α × τ) := fun state =>
  match routine value with
  | (.ok result, final) => (.ok (result, final), state)
  | (.error reason, _) => (.error reason, state)
  | (.panic, _) => (.panic, state)

/-- The state that a routine leaves when it succeeds. -/
def endsIn (routine : Fallible σ ε Unit) (state : σ) : Option σ :=
  match routine state with
  | (.ok (), final) => some final
  | _ => none

theorem endsIn_eq_some {routine : Fallible σ ε Unit} {state final : σ} :
    endsIn routine state = some final ↔ routine state = (.ok (), final) := by
  unfold endsIn
  rcases routine state with ⟨_ | _ | _, next⟩ <;> simp

/-! ## Running a routine -/

theorem isOk_iff {routine : Fallible σ ε α} {state : σ} :
    (routine state).1.IsOk ↔ ∃ value final, routine state = (.ok value, final) :=
  ⟨fun ⟨value, hvalue⟩ => ⟨value, _, Prod.ext hvalue rfl⟩,
    fun ⟨value, _, hrun⟩ => ⟨value, by rw [hrun]⟩⟩

@[simp] theorem pure_run (value : α) (state : σ) :
    (pure value : Fallible σ ε α) state = (.ok value, state) := rfl

@[simp] theorem get_run (state : σ) : (get : Fallible σ ε σ) state = (.ok state, state) := rfl

@[simp] theorem modify_run (update : σ → σ) (state : σ) :
    (modify update : Fallible σ ε Unit) state = (.ok (), update state) := rfl

@[simp] theorem throw_run (reason : ε) (state : σ) :
    (throw reason : Fallible σ ε α) state = (.error reason, state) := rfl

@[simp] theorem panic_run (state : σ) : (panic : Fallible σ ε α) state = (.panic, state) := rfl

theorem bind_run (first : Fallible σ ε α) (rest : α → Fallible σ ε β) (state : σ) :
    (first >>= rest) state = match first state with
      | (.ok value, next) => rest value next
      | (.error reason, next) => (.error reason, next)
      | (.panic, next) => (.panic, next) := rfl

@[simp] theorem orThrow_some (value : α) (reason : ε) :
    (orThrow (some value) reason : Fallible σ ε α) = pure value := rfl

@[simp] theorem orThrow_none (reason : ε) :
    (orThrow none reason : Fallible σ ε α) = throw reason := rfl

@[simp] theorem orPanic_some (value : α) :
    (orPanic (some value) : Fallible σ ε α) = pure value := rfl

@[simp] theorem orPanic_none : (orPanic none : Fallible σ ε α) = panic := rfl

@[simp] theorem failWhen_pos {bad : Prop} [Decidable bad] (reason : ε) (hbad : bad) :
    (failWhen bad reason : Fallible σ ε Unit) = throw reason := if_pos hbad

@[simp] theorem failWhen_neg {bad : Prop} [Decidable bad] (reason : ε) (hgood : ¬ bad) :
    (failWhen bad reason : Fallible σ ε Unit) = pure () := if_neg hgood

@[simp] theorem pure_bind_run (value : α) (rest : α → Fallible σ ε β) :
    (pure value >>= rest) = rest value := rfl

@[simp] theorem throw_bind_run (reason : ε) (rest : α → Fallible σ ε β) :
    (throw reason >>= rest) = throw reason := rfl

@[simp] theorem panic_bind_run (rest : α → Fallible σ ε β) :
    ((panic : Fallible σ ε α) >>= rest) = panic := rfl

@[simp] theorem get_bind_run (rest : σ → Fallible σ ε β) (state : σ) :
    (get >>= rest) state = rest state state := rfl

@[simp] theorem modify_bind_run (update : σ → σ) (rest : Unit → Fallible σ ε β) (state : σ) :
    (modify update >>= rest) state = rest () (update state) := rfl

theorem bind_bind {γ : Type} (first : Fallible σ ε α) (second : α → Fallible σ ε β)
    (third : β → Fallible σ ε γ) :
    (first >>= second >>= third) = first >>= fun value => second value >>= third := by
  funext state
  simp only [bind_run]
  rcases first state with ⟨_ | _ | _, next⟩ <;> rfl

theorem failWhen_bind_run {bad : Prop} [Decidable bad] {reason : ε}
    {rest : Unit → Fallible σ ε β} {state : σ} :
    (failWhen bad reason >>= rest) state =
      if bad then (.error reason, state) else rest () state := by
  by_cases hbad : bad <;> simp [hbad]

theorem bind_ok {first : Fallible σ ε α} {rest : α → Fallible σ ε β} {state next : σ} {value : α}
    (hfirst : first state = (.ok value, next)) : (first >>= rest) state = rest value next := by
  rw [bind_run, hfirst]

theorem bind_error {first : Fallible σ ε α} {rest : α → Fallible σ ε β} {state next : σ}
    {reason : ε} (hfirst : first state = (.error reason, next)) :
    (first >>= rest) state = (.error reason, next) := by
  rw [bind_run, hfirst]

@[simp] theorem ofExcept_ok (value : α) :
    (ofExcept (.ok value) : Fallible σ ε α) = pure value := rfl

@[simp] theorem ofExcept_error (reason : ε) :
    (ofExcept (.error reason) : Fallible σ ε α) = throw reason := rfl

/-! ## When a routine succeeds -/

/-- A sequence succeeds exactly when both halves do. -/
theorem bind_eq_ok {first : Fallible σ ε α} {rest : α → Fallible σ ε β} {state final : σ}
    {result : β} :
    (first >>= rest) state = (.ok result, final) ↔
      ∃ value next, first state = (.ok value, next) ∧ rest value next = (.ok result, final) := by
  rw [bind_run]
  rcases hfirst : first state with ⟨_ | _ | _, next⟩ <;> simp

theorem pure_eq_ok {value result : α} {state final : σ} :
    (pure value : Fallible σ ε α) state = (.ok result, final) ↔ value = result ∧ state = final := by
  simp

theorem get_eq_ok {result state final : σ} :
    (get : Fallible σ ε σ) state = (.ok result, final) ↔ state = result ∧ state = final := by
  simp

theorem modify_eq_ok {update : σ → σ} {result : Unit} {state final : σ} :
    (modify update : Fallible σ ε Unit) state = (.ok result, final) ↔ update state = final := by
  simp

theorem failWhen_eq_ok {bad : Prop} [Decidable bad] {reason : ε} {result : Unit}
    {state final : σ} :
    (failWhen bad reason : Fallible σ ε Unit) state = (.ok result, final) ↔
      ¬ bad ∧ state = final := by
  by_cases hbad : bad <;> simp [hbad]

theorem orThrow_eq_ok {value : Option α} {reason : ε} {result : α} {state final : σ} :
    (orThrow value reason : Fallible σ ε α) state = (.ok result, final) ↔
      value = some result ∧ state = final := by
  cases value <;> simp

theorem orPanic_eq_ok {value : Option α} {result : α} {state final : σ} :
    (orPanic value : Fallible σ ε α) state = (.ok result, final) ↔
      value = some result ∧ state = final := by
  cases value <;> simp

theorem ofExcept_eq_ok {value : Except ε α} {result : α} {state final : σ} :
    (ofExcept value : Fallible σ ε α) state = (.ok result, final) ↔
      value = .ok result ∧ state = final := by
  cases value <;> simp

theorem mapError_state (convert : ε → ε') (routine : Fallible σ ε α) (state : σ) :
    (mapError convert routine state).2 = (routine state).2 := by
  rcases hrun : routine state with ⟨_ | _ | _, next⟩ <;> simp [mapError, hrun]

theorem mapError_eq_ok {convert : ε → ε'} {routine : Fallible σ ε α} {result : α}
    {state final : σ} :
    mapError convert routine state = (.ok result, final) ↔
      routine state = (.ok result, final) := by
  rcases hrun : routine state with ⟨_ | _ | _, next⟩ <;> simp [mapError, hrun]

theorem zoom_eq_ok {part : σ → τ} {replace : τ → σ → σ} {routine : Fallible τ ε α} {result : α}
    {state final : σ} :
    zoom part replace routine state = (.ok result, final) ↔
      ∃ next, routine (part state) = (.ok result, next) ∧ replace next state = final := by
  rcases hrun : routine (part state) with ⟨outcome, next⟩
  simp [zoom, hrun]

theorem locally_eq_ok {value final' : τ} {routine : Fallible τ ε α} {result : α}
    {state final : σ} :
    locally value routine state = (.ok (result, final'), final) ↔
      routine value = (.ok result, final') ∧ state = final := by
  rcases hrun : routine value with ⟨_ | _ | _, next⟩ <;> simp [locally, hrun]

theorem attempt_eq_ok {routine : Fallible σ ε α} {value : Except ε α} {state final : σ} :
    (attempt routine : Fallible σ ε' _) state = (.ok value, final) ↔
      routine state = (.ofExcept value, final) := by
  rcases hrun : routine state with ⟨_ | _ | _, next⟩ <;> cases value <;>
    simp [attempt, hrun, Outcome.ofExcept]

theorem attempt_ok {routine : Fallible σ ε α} {value : α} {state next : σ}
    (hrun : routine state = (.ok value, next)) :
    (attempt routine : Fallible σ ε' _) state = (.ok (.ok value), next) := by
  rw [attempt, hrun]

theorem attempt_error {routine : Fallible σ ε α} {reason : ε} {state next : σ}
    (hrun : routine state = (.error reason, next)) :
    (attempt routine : Fallible σ ε' _) state = (.ok (.error reason), next) := by
  rw [attempt, hrun]

/-! ## Routines without a panic -/

/-- A sequence panics only when one of its halves does. -/
theorem bind_ne_panic {first : Fallible σ ε α} {rest : α → Fallible σ ε β} {state : σ}
    (hfirst : (first state).1 ≠ .panic)
    (hrest : ∀ value next, first state = (.ok value, next) → (rest value next).1 ≠ .panic) :
    ((first >>= rest) state).1 ≠ .panic := by
  rw [bind_run]
  rcases hrun : first state with ⟨value | _ | _, next⟩
  · exact hrest value next hrun
  · nofun
  · exact absurd (congrArg Prod.fst hrun) hfirst

/-- Behind a check, the rest runs where the check passes. -/
theorem failWhen_bind_ne_panic {bad : Prop} [Decidable bad] {reason : ε}
    {rest : Unit → Fallible σ ε β} {state : σ}
    (hrest : ¬ bad → (rest () state).1 ≠ .panic) :
    ((failWhen bad reason >>= rest) state).1 ≠ .panic := by
  rw [failWhen_bind_run]
  split_ifs with hbad
  · nofun
  · exact hrest hbad

end Fallible

/-! ## Checks without a state -/

namespace Check

variable {ε ε' α β : Type}

/-- Early return with an error when a check fails. -/
def failWhen (bad : Prop) [Decidable bad] (reason : ε) : Except ε Unit :=
  if bad then .error reason else .ok ()

def orThrow (value : Option α) (reason : ε) : Except ε α :=
  match value with
  | some value => .ok value
  | none => .error reason

theorem bind_eq_ok {first : Except ε α} {rest : α → Except ε β} {result : β} :
    (first >>= rest) = .ok result ↔ ∃ value, first = .ok value ∧ rest value = .ok result := by
  cases first <;> simp [bind, Except.bind]

theorem failWhen_eq_ok {bad : Prop} [Decidable bad] {reason : ε} {result : Unit} :
    failWhen bad reason = .ok result ↔ ¬ bad := by
  by_cases hbad : bad <;> simp [failWhen, hbad]

theorem orThrow_eq_ok {value : Option α} {reason : ε} {result : α} :
    orThrow value reason = .ok result ↔ value = some result := by
  cases value <;> simp [orThrow]

theorem mapError_eq_ok {convert : ε → ε'} {value : Except ε α} {result : α} :
    value.mapError convert = .ok result ↔ value = .ok result := by
  cases value <;> simp [Except.mapError]

theorem map_eq_ok {convert : α → β} {value : Except ε α} {result : β} :
    value.map convert = .ok result ↔ ∃ read, value = .ok read ∧ convert read = result := by
  cases value <;> simp [Except.map]

/-- A list is read when each of its items is. -/
theorem mapM_eq_ok {read : α → Except ε β} {items : List α} {values : List β} :
    items.mapM read = .ok values ↔ items.map read = values.map .ok := by
  induction items generalizing values with
  | nil => cases values <;> simp [pure, Except.pure]
  | cons item items inductionHypothesis =>
      rw [List.mapM_cons, bind_eq_ok]
      constructor
      · rintro ⟨value, hitem, hrest⟩
        obtain ⟨rest, hitems, hvalues⟩ := bind_eq_ok.mp hrest
        obtain rfl := Except.ok.inj hvalues
        rw [List.map_cons, List.map_cons, hitem, inductionHypothesis.mp hitems]
      · intro hmap
        cases values with
        | nil => cases hmap
        | cons value rest =>
            rw [List.map_cons, List.map_cons, List.cons.injEq] at hmap
            exact ⟨value, hmap.1, bind_eq_ok.mpr ⟨rest, inductionHypothesis.mpr hmap.2, rfl⟩⟩

theorem filterMap_of_mapM {read : α → Except ε β} {items : List α} {values : List β}
    (hread : items.mapM read = .ok values) :
    (items.filterMap fun item => (read item).toOption) = values := by
  have hmap := mapM_eq_ok.mp hread
  calc items.filterMap (fun item => (read item).toOption)
      = (items.map read).filterMap Except.toOption := by
        rw [List.filterMap_map]
        rfl
    _ = (values.map Except.ok).filterMap Except.toOption := by rw [hmap]
    _ = values := by
        rw [List.filterMap_map]
        exact List.filterMap_some

theorem mem_of_mapM {read : α → Except ε β} {items : List α} {values : List β}
    (hread : items.mapM read = .ok values) {value : β} (hvalue : value ∈ values) :
    ∃ item ∈ items, read item = .ok value := by
  have hmember : Except.ok value ∈ items.map read := by
    rw [mapM_eq_ok.mp hread]
    exact List.mem_map_of_mem hvalue
  exact List.mem_map.mp hmember

theorem exists_mem_of_mapM {read : α → Except ε β} {items : List α} {values : List β}
    (hread : items.mapM read = .ok values) {item : α} (hitem : item ∈ items) :
    ∃ value ∈ values, read item = .ok value := by
  have hmember : read item ∈ values.map Except.ok := by
    rw [← mapM_eq_ok.mp hread]
    exact List.mem_map_of_mem hitem
  obtain ⟨value, hvalue, hsame⟩ := List.mem_map.mp hmember
  exact ⟨value, hvalue, hsame.symm⟩

/-- Some list is read when every item is. -/
theorem exists_mapM_eq_ok {read : α → Except ε β} {items : List α} :
    (∃ values, items.mapM read = .ok values) ↔ ∀ item ∈ items, ∃ value, read item = .ok value := by
  constructor
  · rintro ⟨values, hread⟩ item hitem
    obtain ⟨value, -, hvalue⟩ := exists_mem_of_mapM hread hitem
    exact ⟨value, hvalue⟩
  · intro hread
    induction items with
    | nil => exact ⟨[], rfl⟩
    | cons item items inductionHypothesis =>
        obtain ⟨value, hvalue⟩ := hread item List.mem_cons_self
        obtain ⟨values, hvalues⟩ :=
          inductionHypothesis fun other hother => hread other (List.mem_cons_of_mem _ hother)
        refine ⟨value :: values, mapM_eq_ok.mpr ?_⟩
        rw [List.map_cons, List.map_cons, hvalue, mapM_eq_ok.mp hvalues]

end Check

end Foundation
