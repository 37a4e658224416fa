import Mathlib.Logic.Basic

/-! Runs of a step function: conditions on each of their steps, and the invariants that
follow. -/

set_option autoImplicit false

namespace Andromeda.Library

variable {σ α : Type*} {step : σ → α → σ} {Condition : σ → α → Prop} {Invariant : σ → Prop}

/-- A condition that holds of every step of a run, in the state it is taken in. -/
def EachStep (step : σ → α → σ) (Condition : σ → α → Prop) : σ → List α → Prop
  | _, [] => True
  | state, action :: rest => Condition state action ∧ EachStep step Condition (step state action) rest

instance [∀ state action, Decidable (Condition state action)] :
    ∀ (state : σ) (actions : List α), Decidable (EachStep step Condition state actions)
  | _, [] => inferInstanceAs (Decidable True)
  | state, action :: rest =>
    have : Decidable (EachStep step Condition (step state action) rest) :=
      instDecidableEachStep (step state action) rest
    inferInstanceAs (Decidable (_ ∧ _))

theorem EachStep.append_iff {state : σ} {first second : List α} :
    EachStep step Condition state (first ++ second) ↔
      EachStep step Condition state first ∧
        EachStep step Condition (first.foldl step state) second := by
  induction first generalizing state with
  | nil => exact ⟨fun each => ⟨trivial, each⟩, And.right⟩
  | cons action rest ih =>
      simp only [List.cons_append, EachStep, List.foldl_cons, ih, and_assoc]

/-- Two conditions that each hold of every step. -/
theorem EachStep.and {Other : σ → α → Prop} {state : σ} {actions : List α}
    (each : EachStep step Condition state actions) (other : EachStep step Other state actions) :
    EachStep step (fun state action => Condition state action ∧ Other state action) state
      actions := by
  induction actions generalizing state with
  | nil => trivial
  | cons action rest ih => exact ⟨⟨each.1, other.1⟩, ih each.2 other.2⟩

theorem EachStep.congr {Other : σ → α → Prop} {state : σ} {actions : List α}
    (same : ∀ state action, Condition state action ↔ Other state action) :
    EachStep step Condition state actions ↔ EachStep step Other state actions := by
  induction actions generalizing state with
  | nil => exact Iff.rfl
  | cons action rest ih => exact and_congr (same state action) ih

/-- What every step keeps under a condition, a run that meets it keeps. -/
theorem run_preserves {state : σ} {actions : List α}
    (keep : ∀ state action, Condition state action → Invariant state → Invariant (step state action))
    (start : Invariant state) (each : EachStep step Condition state actions) :
    Invariant (actions.foldl step state) := by
  induction actions generalizing state with
  | nil => exact start
  | cons action rest ih => exact ih (keep state action each.1 start) each.2

/-- A condition that an invariant has as a consequence holds of each step of a run. -/
theorem eachStep_of_invariant {state : σ} {actions : List α}
    (holds : ∀ state action, Invariant state → Condition state action)
    (keep : ∀ state action, Invariant state → Invariant (step state action))
    (start : Invariant state) : EachStep step Condition state actions := by
  induction actions generalizing state with
  | nil => trivial
  | cons action rest ih => exact ⟨holds state action start, ih (keep state action start)⟩

/-- Two conditions that agree on the steps from the states of an invariant, which the steps that
meet them keep. -/
theorem EachStep.iff_of_invariant {Other : σ → α → Prop} {state : σ} {actions : List α}
    (same : ∀ state action, Invariant state → (Condition state action ↔ Other state action))
    (keep : ∀ state action, Invariant state → Condition state action →
      Invariant (step state action))
    (start : Invariant state) :
    EachStep step Condition state actions ↔ EachStep step Other state actions := by
  induction actions generalizing state with
  | nil => exact Iff.rfl
  | cons action rest ih =>
      constructor
      · intro each
        exact ⟨(same state action start).mp each.1, (ih (keep state action start each.1)).mp each.2⟩
      · intro each
        have condition := (same state action start).mpr each.1
        exact ⟨condition, (ih (keep state action start condition)).mpr each.2⟩

end Andromeda.Library
