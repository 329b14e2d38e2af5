import Mathlib.Logic.Function.Basic
import GhostLayer.Foundation.Transition

/-! # Processes that share a state

Any number of processes run the same routine, one step of one of them at a time.
What holds of the shared state, of each process beside it, and of every two
processes, is shown for a whole run from the steps of one process: it keeps its
own part, and it does not disturb the part of another.
-/

namespace Foundation

variable {ι σ τ : Type*}

/-- What the processes share, and where each of them is. -/
structure Interleaved (ι σ τ : Type*) where
  shared : σ
  process : ι → τ

/-- Where a process starts, and what its steps do to the shared state and to itself. -/
structure Routine (σ τ : Type*) where
  start : τ → Prop
  step : σ → τ → σ → τ → Prop

namespace Routine

variable (ι) in
/-- All processes at their start, and then one of them after the other in any order. -/
def interleaved [DecidableEq ι] (routine : Routine σ τ) (init : σ → Prop) :
    System (Interleaved ι σ τ) where
  init state := init state.shared ∧ ∀ index, routine.start (state.process index)
  step state next := ∃ index shared process,
    routine.step state.shared (state.process index) shared process ∧
      next = ⟨shared, Function.update state.process index process⟩

section Driven

variable {α : Type*} {start : τ → Prop} {allowed : α → Prop} {init : σ → Prop}
  {advance : α → σ → τ → Option (σ × τ)}

/-- A routine whose steps are determined by what comes to a process. -/
def driven (start : τ → Prop) (allowed : α → Prop) (advance : α → σ → τ → Option (σ × τ)) :
    Routine σ τ where
  start
  step shared process shared' process' :=
    ∃ input, allowed input ∧ advance input shared process = some (shared', process')

/-- One input after the other, each to some process. -/
def play [DecidableEq ι] (advance : α → σ → τ → Option (σ × τ)) (state : Interleaved ι σ τ) :
    List (ι × α) → Option (Interleaved ι σ τ)
  | [] => some state
  | (index, input) :: rest =>
      (advance input state.shared (state.process index)).bind fun (shared, process) =>
        play advance ⟨shared, Function.update state.process index process⟩ rest

theorem play_steps [DecidableEq ι] {state next : Interleaved ι σ τ} {inputs : List (ι × α)}
    (hallowed : ∀ input ∈ inputs, allowed input.2) (hplay : play advance state inputs = some next) :
    ((driven start allowed advance).interleaved ι init).Steps state next := by
  induction inputs generalizing state with
  | nil =>
      cases hplay
      exact .refl
  | cons input rest ih =>
      obtain ⟨⟨shared, process⟩, htaken, hrest⟩ := Option.bind_eq_some_iff.mp hplay
      obtain ⟨hfirst, hothers⟩ := List.forall_mem_cons.mp hallowed
      exact (ih hothers hrest).head ⟨input.1, shared, process, ⟨input.2, hfirst, htaken⟩, rfl⟩

end Driven

/-- What is said of the shared state, of a process beside it, and of two processes. -/
structure Outline (σ τ : Type*) where
  shared : σ → Prop
  own : σ → τ → Prop
  apart : τ → τ → Prop

namespace Outline

def Holds (outline : Outline σ τ) (state : Interleaved ι σ τ) : Prop :=
  outline.shared state.shared ∧ (∀ index, outline.own state.shared (state.process index)) ∧
    ∀ first second, first ≠ second → outline.apart (state.process first) (state.process second)

/-- A process keeps what is said of it, and what is said of another. -/
structure Stable (outline : Outline σ τ) (routine : Routine σ τ) : Prop where
  symm : ∀ first second, outline.apart first second → outline.apart second first
  own : ∀ shared process shared' process', outline.shared shared → outline.own shared process →
    routine.step shared process shared' process' →
    outline.shared shared' ∧ outline.own shared' process'
  other : ∀ shared process shared' process' other, outline.shared shared →
    outline.own shared process → outline.own shared other → outline.apart process other →
    routine.step shared process shared' process' →
    outline.own shared' other ∧ outline.apart process' other

variable [DecidableEq ι] {outline : Outline σ τ} {routine : Routine σ τ} {init : σ → Prop}
  {state next : Interleaved ι σ τ}

theorem Stable.step (hstable : outline.Stable routine) (hholds : outline.Holds state)
    (hstep : (routine.interleaved ι init).step state next) : outline.Holds next := by
  obtain ⟨index, shared, process, htaken, rfl⟩ := hstep
  obtain ⟨hshared, hown, hapart⟩ := hholds
  obtain ⟨hnext, hself⟩ := hstable.own _ _ _ _ hshared (hown index) htaken
  have hother {other : ι} (hne : other ≠ index) :=
    hstable.other _ _ _ _ _ hshared (hown index) (hown other) (hapart index other hne.symm) htaken
  refine ⟨hnext, fun other => ?_, fun first second hne => ?_⟩
  · by_cases hsame : other = index
    · subst hsame
      simpa using hself
    · simpa [hsame] using (hother hsame).1
  · by_cases hfirst : first = index
    · subst hfirst
      simpa [hne.symm] using (hother hne.symm).2
    · by_cases hsecond : second = index
      · subst hsecond
        simpa [hfirst] using hstable.symm _ _ (hother hfirst).2
      · simpa [hfirst, hsecond] using hapart first second hne

theorem Stable.steps (hstable : outline.Stable routine) (hholds : outline.Holds state)
    (hsteps : (routine.interleaved ι init).Steps state next) : outline.Holds next :=
  System.Steps.preserves (fun _ _ hbefore hstep => hstable.step hbefore hstep) hsteps hholds

theorem Stable.reachable (hstable : outline.Stable routine)
    (hshared : ∀ shared, init shared → outline.shared shared)
    (hown : ∀ shared process, init shared → routine.start process → outline.own shared process)
    (hapart : ∀ first second, routine.start first → routine.start second →
      outline.apart first second)
    (hreach : (routine.interleaved ι init).Reachable state) : outline.Holds state := by
  obtain ⟨start, ⟨hinit, hstart⟩, hsteps⟩ := hreach
  exact hstable.steps ⟨hshared _ hinit, fun index => hown _ _ hinit (hstart index),
    fun first second _ => hapart _ _ (hstart first) (hstart second)⟩ hsteps

end Outline

/-- Something that is so because of what some process is at. A step brings it about only by a
process that comes to be at it, and a process that leaves it undoes it. -/
theorem caused [DecidableEq ι] {routine : Routine σ τ} {init : σ → Prop} (fact : σ → Prop)
    (cause : τ → Prop) (hinit : ∀ shared, init shared → ¬ fact shared)
    (hstep : ∀ shared process shared' process', routine.step shared process shared' process' →
      fact shared' → cause process' ∨ fact shared ∧ (cause process → cause process'))
    {state : Interleaved ι σ τ} (hreach : (routine.interleaved ι init).Reachable state) :
    fact state.shared → ∃ index, cause (state.process index) := by
  refine hreach.invariant (fun state => fact state.shared → ∃ index, cause (state.process index))
    ?_ ?_
  · rintro start ⟨hstart, -⟩ hfact
    exact absurd hfact (hinit _ hstart)
  rintro before after - hcaused ⟨index, shared, process, htaken, rfl⟩ hfact
  rcases hstep _ _ _ _ htaken hfact with hcause | ⟨hbefore, hkept⟩
  · exact ⟨index, by simpa using hcause⟩
  · obtain ⟨other, hother⟩ := hcaused hbefore
    by_cases hsame : other = index
    · subst hsame
      exact ⟨other, by simpa using hkept hother⟩
    · exact ⟨other, by simpa [hsame] using hother⟩

end Routine

end Foundation
