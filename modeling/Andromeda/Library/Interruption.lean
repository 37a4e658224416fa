import Mathlib.Algebra.Ring.Nat
import Mathlib.Data.List.Basic

/-! Effects on a state that are done one after another, grouped in steps, up to a position. -/

set_option autoImplicit false

namespace Andromeda.Library.Interruption

variable {State Error : Type}

def applyAll (effects : List (State → Except Error State)) (state : State) : Except Error State :=
  effects.foldlM (fun reached effect => effect reached) state

@[simp] theorem applyAll_nil (state : State) :
    applyAll ([] : List (State → Except Error State)) state = .ok state := rfl

theorem applyAll_cons (effect : State → Except Error State)
    (effects : List (State → Except Error State)) (state : State) :
    applyAll (effect :: effects) state = effect state >>= applyAll effects := rfl

private theorem applyAll_append (first second : List (State → Except Error State)) (state : State) :
    applyAll (first ++ second) state = applyAll first state >>= applyAll second := by
  simp only [applyAll, List.foldlM_append]
  rfl

theorem applyAll_cons_ok {effect : State → Except Error State}
    {effects : List (State → Except Error State)} {state final : State}
    (applied : applyAll (effect :: effects) state = .ok final) :
    ∃ reached, effect state = .ok reached ∧ applyAll effects reached = .ok final := by
  rw [applyAll_cons] at applied
  cases result : effect state with
  | error exception => simp [result, bind, Except.bind] at applied
  | ok reached => exact ⟨reached, rfl, by simpa [result, bind, Except.bind] using applied⟩

theorem applyAll_append_ok {first second : List (State → Except Error State)}
    {state final : State} (applied : applyAll (first ++ second) state = .ok final) :
    ∃ reached, applyAll first state = .ok reached ∧ applyAll second reached = .ok final := by
  rw [applyAll_append] at applied
  cases result : applyAll first state with
  | error exception => simp [result, bind, Except.bind] at applied
  | ok reached => exact ⟨reached, rfl, by simpa [result, bind, Except.bind] using applied⟩

theorem applyAll_cons_of_ok {effect : State → Except Error State}
    (effects : List (State → Except Error State)) {state reached : State}
    (applied : effect state = .ok reached) :
    applyAll (effect :: effects) state = applyAll effects reached := by
  rw [applyAll_cons, applied]
  rfl

theorem applyAll_append_of_ok {first : List (State → Except Error State)}
    (second : List (State → Except Error State)) {state reached : State}
    (applied : applyAll first state = .ok reached) :
    applyAll (first ++ second) state = applyAll second reached := by
  rw [applyAll_append, applied]
  rfl

/-- What every effect preserves, they preserve together. -/
theorem applyAll_preserves (Good : State → Prop) {effects : List (State → Except Error State)}
    (preserves : ∀ effect ∈ effects, ∀ state reached, Good state → effect state = .ok reached →
      Good reached)
    {state final : State} (good : Good state) (applied : applyAll effects state = .ok final) :
    Good final := by
  induction effects generalizing state with
  | nil =>
      simp only [applyAll_nil, Except.ok.injEq] at applied
      rwa [← applied]
  | cons effect effects induction =>
      obtain ⟨reached, done, rest⟩ := applyAll_cons_ok applied
      have now := preserves effect List.mem_cons_self state reached good done
      exact induction (fun other member => preserves other (List.mem_cons_of_mem _ member)) now rest

/-- Where the steps of two parts with one between them are cut. -/
theorem cut_cases {Item : Type} {first second before after : List Item} {between cut : Item}
    (same : first ++ between :: second = before ++ cut :: after) :
    (∃ rest, first = before ++ cut :: rest ∧ after = rest ++ between :: second) ∨
      (before = first ∧ cut = between ∧ after = second) ∨
        ∃ middle, before = first ++ between :: middle ∧ second = middle ++ cut :: after := by
  rcases List.append_eq_append_iff.mp same with ⟨more, longer, rest⟩ | ⟨more, shorter, rest⟩
  · cases more with
    | nil =>
        simp only [List.nil_append, List.cons.injEq] at rest
        exact .inr (.inl ⟨by simpa using longer, rest.1.symm, rest.2.symm⟩)
    | cons item more =>
        simp only [List.cons_append, List.cons.injEq] at rest
        exact .inr (.inr ⟨more, by rw [longer, rest.1], rest.2⟩)
  · cases more with
    | nil =>
        simp only [List.nil_append, List.cons.injEq] at rest
        exact .inr (.inl ⟨by simpa using shorter.symm, rest.1, rest.2⟩)
    | cons item more =>
        simp only [List.cons_append, List.cons.injEq] at rest
        exact .inl ⟨more, by rw [shorter, rest.1], rest.2⟩

/-- Whether a position is the first one of a step, by the sizes of the steps. -/
def StartsStep : List Nat → Nat → Prop
  | [], position => position = 0
  | size :: sizes, position =>
    position = 0 ∨ size ≤ position ∧ StartsStep sizes (position - size)

private theorem startsStep_zero (sizes : List Nat) : StartsStep sizes 0 := by
  cases sizes with
  | nil => rfl
  | cons size sizes => exact .inl rfl

/-- Every position lies in a step. -/
theorem position_step {Item : Type} (steps : List (List Item)) (position : Nat)
    (inside : position < (steps.map List.length).sum) :
    ∃ before step after offset, steps = before ++ step :: after ∧
      position = before.flatten.length + offset ∧ offset < step.length ∧
        (StartsStep (steps.map List.length) position ↔ offset = 0) := by
  induction steps generalizing position with
  | nil => simp at inside
  | cons step steps induction =>
      rw [List.map_cons, List.sum_cons] at inside
      by_cases early : position < step.length
      · refine ⟨[], step, steps, position, rfl, by simp, early, ?_⟩
        simp only [List.map_cons, StartsStep]
        omega
      · obtain ⟨before, found, after, offset, split, place, within, starts⟩ :=
          induction (position - step.length) (by omega)
        refine ⟨step :: before, found, after, offset, by rw [split]; rfl, ?_, within, ?_⟩
        · rw [List.flatten_cons, List.length_append]
          omega
        · rw [← starts]
          simp only [List.map_cons, StartsStep]
          constructor
          · intro either
            rcases either with zero | ⟨_, rest⟩
            · have none : position - step.length = 0 := by omega
              rw [none]
              exact startsStep_zero _
            · exact rest
          · intro rest
            exact .inr ⟨by omega, rest⟩

/-- What was done up to a position: whole steps, and what comes before it in its own step. -/
theorem applyAll_position {before after : List (List (State → Except Error State))}
    {step : List (State → Except Error State)} {state final : State} {offset : Nat}
    (applied : applyAll (before ++ step :: after).flatten state = .ok final)
    (within : offset < step.length) :
    ∃ reached, applyAll before.flatten state = .ok reached ∧
      applyAll (step :: after).flatten reached = .ok final ∧
        applyAll ((before ++ step :: after).flatten.take (before.flatten.length + offset)) state =
          applyAll (step.take offset) reached := by
  rw [List.flatten_append] at applied ⊢
  obtain ⟨reached, first, rest⟩ := applyAll_append_ok applied
  refine ⟨reached, first, rest, ?_⟩
  rw [List.take_length_add_append, List.flatten_cons, List.take_append_of_le_length (by omega),
    applyAll_append_of_ok _ first]

end Andromeda.Library.Interruption
