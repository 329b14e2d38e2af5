import Mathlib.Logic.Relation

/-! # Transition systems

States reached from initial ones, and the two rules that later proofs use: an
invariant holds in every reachable state, and a fact that no step undoes holds
from then on.
-/

namespace Foundation

variable {σ : Type*}

/-- A transition system over states `σ`. -/
structure System (σ : Type*) where
  init : σ → Prop
  step : σ → σ → Prop

namespace System

variable {system : System σ}

def Steps (system : System σ) : σ → σ → Prop := Relation.ReflTransGen system.step

def Reachable (system : System σ) (state : σ) : Prop :=
  ∃ start, system.init start ∧ system.Steps start state

theorem Reachable.of_init {state : σ} (hinit : system.init state) : system.Reachable state :=
  ⟨state, hinit, .refl⟩

theorem Reachable.tail {state next : σ} (hreach : system.Reachable state)
    (hstep : system.step state next) : system.Reachable next := by
  obtain ⟨start, hinit, hsteps⟩ := hreach
  exact ⟨start, hinit, hsteps.tail hstep⟩

theorem Reachable.steps {state next : σ} (hreach : system.Reachable state)
    (hsteps : system.Steps state next) : system.Reachable next := by
  induction hsteps with
  | refl => exact hreach
  | tail _ hstep ih => exact ih.tail hstep

/-- Every run of a system is a run of one that can do more. -/
theorem Reachable.mono {other : System σ} (hinit : ∀ state, system.init state → other.init state)
    (hstep : ∀ state next, system.step state next → other.step state next) {state : σ}
    (hreach : system.Reachable state) : other.Reachable state := by
  obtain ⟨start, hstart, hsteps⟩ := hreach
  exact ⟨start, hinit start hstart, Relation.ReflTransGen.mono hstep _ _ hsteps⟩

/-- A fact that holds initially and that every step keeps holds in every reachable state. -/
theorem Reachable.invariant (inv : σ → Prop) (hinit : ∀ state, system.init state → inv state)
    (hstep : ∀ state next, system.Reachable state → inv state → system.step state next → inv next)
    {state : σ} (hreach : system.Reachable state) : inv state := by
  obtain ⟨start, hstart, hsteps⟩ := hreach
  induction hsteps with
  | refl => exact hinit start hstart
  | tail hbefore hlast ih => exact hstep _ _ ⟨start, hstart, hbefore⟩ ih hlast

/-- What a view shows of a run is a run of another system, where every step shows one of its steps
or nothing at all. -/
theorem Reachable.view {τ : Type*} {other : System τ} (view : σ → τ)
    (hinit : ∀ state, system.init state → other.init (view state))
    (hstep : ∀ state next, system.Reachable state → system.step state next →
      view next = view state ∨ other.step (view state) (view next))
    {state : σ} (hreach : system.Reachable state) : other.Reachable (view state) := by
  refine hreach.invariant (fun state => other.Reachable (view state))
    (fun state hstart => .of_init (hinit state hstart)) ?_
  intro before after hbefore hshown htaken
  rcases hstep before after hbefore htaken with hsame | hmoves
  · rwa [hsame]
  · exact hshown.tail hmoves

/-- A fact that every step keeps holds in every later state. -/
theorem Steps.preserves {inv : σ → Prop}
    (hstep : ∀ state next, inv state → system.step state next → inv next)
    {state next : σ} (hsteps : system.Steps state next) (hinv : inv state) : inv next := by
  induction hsteps with
  | refl => exact hinv
  | tail _ hlast ih => exact hstep _ _ ih hlast

end System

end Foundation
