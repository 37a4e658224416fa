import Mathlib.Logic.Relation

/-! Postconditions of stateful computations that may throw. An exception keeps
the state it was thrown in, so a computation has two exits and a postcondition
for each. -/

set_option autoImplicit false

namespace Andromeda.Library

variable {ε σ α β : Type}

/-! What the operations on the state do when they run. -/

theorem run_get (state : σ) : (get : EStateM ε σ σ) state = .ok state state := rfl

theorem run_set (next state : σ) : (set next : EStateM ε σ PUnit) state = .ok ⟨⟩ next := rfl

theorem run_modify (change : σ → σ) (state : σ) :
    (modify change : EStateM ε σ PUnit) state = .ok ⟨⟩ (change state) := rfl

theorem run_throw (exception : ε) (state : σ) :
    (throw exception : EStateM ε σ α) state = .error exception state := rfl

theorem run_tryCatch (computation : EStateM ε σ α) (handler : ε → EStateM ε σ α) (state : σ) :
    (tryCatch computation handler) state = match computation state with
      | .ok value final => .ok value final
      | .error exception middle => handler exception middle := by
  change EStateM.tryCatch computation handler state = _
  delta EStateM.tryCatch
  cases computation state <;> rfl

/-- Running from `state` either returns into `Returned` or throws into `Thrown`. -/
def Outcome (computation : EStateM ε σ α) (state : σ) (Returned : α → σ → Prop)
    (Thrown : ε → σ → Prop) : Prop :=
  match computation state with
  | .ok value final => Returned value final
  | .error exception final => Thrown exception final

namespace Outcome

variable {Returned : α → σ → Prop} {Thrown : ε → σ → Prop} {state : σ}

theorem of_ok {computation : EStateM ε σ α} {value : α} {final : σ}
    (outcome : Outcome computation state Returned Thrown)
    (returned : computation state = .ok value final) : Returned value final := by
  simpa only [Outcome, returned] using outcome

theorem of_error {computation : EStateM ε σ α} {exception : ε} {final : σ}
    (outcome : Outcome computation state Returned Thrown)
    (thrown : computation state = .error exception final) : Thrown exception final := by
  simpa only [Outcome, thrown] using outcome

/-- Every run ends in what it computes. -/
theorem ran (computation : EStateM ε σ α) (state : σ) :
    Outcome computation state (fun value final => computation state = .ok value final)
      (fun exception final => computation state = .error exception final) := by
  unfold Outcome
  split
  · assumption
  · assumption

theorem mono {computation : EStateM ε σ α} {Returned' : α → σ → Prop} {Thrown' : ε → σ → Prop}
    (outcome : Outcome computation state Returned Thrown)
    (returned : ∀ value final, Returned value final → Returned' value final)
    (thrown : ∀ exception final, Thrown exception final → Thrown' exception final) :
    Outcome computation state Returned' Thrown' := by
  unfold Outcome at *
  split at outcome
  · exact returned _ _ outcome
  · exact thrown _ _ outcome

theorem and {computation : EStateM ε σ α} {Returned' : α → σ → Prop} {Thrown' : ε → σ → Prop}
    (left : Outcome computation state Returned Thrown)
    (right : Outcome computation state Returned' Thrown') :
    Outcome computation state (fun value final => Returned value final ∧ Returned' value final)
      (fun exception final => Thrown exception final ∧ Thrown' exception final) := by
  unfold Outcome at *
  split at left
  · next result => simp only [result] at right; exact ⟨left, right⟩
  · next result => simp only [result] at right; exact ⟨left, right⟩

@[simp] theorem pure_iff {value : α} :
    Outcome (pure value : EStateM ε σ α) state Returned Thrown ↔ Returned value state := Iff.rfl

@[simp] theorem throw_iff {exception : ε} :
    Outcome (throw exception : EStateM ε σ α) state Returned Thrown ↔
      Thrown exception state := Iff.rfl

@[simp] theorem bind_iff {computation : EStateM ε σ β} {next : β → EStateM ε σ α} :
    Outcome (computation >>= next) state Returned Thrown ↔
      Outcome computation state (fun value middle => Outcome (next value) middle Returned Thrown)
        Thrown := by
  simp only [Outcome, bind, EStateM.bind]
  cases computation state <;> rfl

@[simp] theorem get_iff {Returned : σ → σ → Prop} :
    Outcome (get : EStateM ε σ σ) state Returned Thrown ↔ Returned state state := Iff.rfl

@[simp] theorem set_iff {Returned : PUnit → σ → Prop} {next : σ} :
    Outcome (set next : EStateM ε σ PUnit) state Returned Thrown ↔ Returned ⟨⟩ next := Iff.rfl

@[simp] theorem modify_iff {Returned : PUnit → σ → Prop} {change : σ → σ} :
    Outcome (modify change : EStateM ε σ PUnit) state Returned Thrown ↔
      Returned ⟨⟩ (change state) := Iff.rfl

@[simp] theorem map_iff {computation : EStateM ε σ β} {change : β → α} :
    Outcome (change <$> computation) state Returned Thrown ↔
      Outcome computation state (fun value final => Returned (change value) final) Thrown := by
  simp only [Outcome, Functor.map, EStateM.map]
  cases computation state <;> rfl

@[simp] theorem tryCatch_iff {computation : EStateM ε σ α} {handler : ε → EStateM ε σ α} :
    Outcome (tryCatch computation handler) state Returned Thrown ↔
      Outcome computation state Returned
        (fun exception middle => Outcome (handler exception) middle Returned Thrown) := by
  rw [Outcome, run_tryCatch, Outcome]
  cases computation state <;> rfl

theorem ite_iff {condition : Prop} [Decidable condition] {yes no : EStateM ε σ α} :
    Outcome (if condition then yes else no) state Returned Thrown ↔
      (condition → Outcome yes state Returned Thrown) ∧
        (¬ condition → Outcome no state Returned Thrown) := by
  split <;> simp [*]

/-- A loop throws what its body throws at an item all before which returned. -/
theorem forM_thrown_iff {body : β → EStateM ε σ PUnit} {exception : ε} {items : List β} :
    (∃ stop, (forM items body : EStateM ε σ PUnit) state = .error exception stop) ↔
      ∃ earlier item later reached stop, items = earlier ++ item :: later ∧
        (forM earlier body : EStateM ε σ PUnit) state = .ok ⟨⟩ reached ∧
          body item reached = .error exception stop := by
  induction items generalizing state with
  | nil =>
      constructor
      · rintro ⟨stop, thrown⟩
        cases thrown
      · rintro ⟨earlier, item, later, _, _, split, _⟩
        exact absurd split (by simp)
  | cons head rest ih =>
      simp only [List.forM_cons, bind, EStateM.bind]
      cases ran : body head state with
      | error thrown stop =>
          constructor
          · rintro ⟨stop', same⟩
            cases same
            exact ⟨[], head, rest, state, stop, rfl, rfl, ran⟩
          · rintro ⟨earlier, item, later, reached, stop', split, before, same⟩
            cases earlier with
            | nil =>
                obtain ⟨rfl, -⟩ : head = item ∧ rest = later := by simpa using split
                cases before
                rw [ran] at same
                cases same
                exact ⟨stop, rfl⟩
            | cons first earlier =>
                obtain ⟨rfl, -⟩ : head = first ∧ rest = earlier ++ item :: later := by
                  simpa using split
                simp only [List.forM_cons, bind, EStateM.bind, ran] at before
                cases before
      | ok value middle =>
          rw [ih]
          constructor
          · rintro ⟨earlier, item, later, reached, stop, split, before, thrown⟩
            refine ⟨head :: earlier, item, later, reached, stop, by rw [split]; rfl, ?_, thrown⟩
            simp only [List.forM_cons, bind, EStateM.bind, ran]
            exact before
          · rintro ⟨earlier, item, later, reached, stop, split, before, thrown⟩
            cases earlier with
            | nil =>
                obtain ⟨rfl, -⟩ : head = item ∧ rest = later := by simpa using split
                cases before
                rw [ran] at thrown
                cases thrown
            | cons first earlier =>
                obtain ⟨rfl, rest'⟩ : head = first ∧ rest = earlier ++ item :: later := by
                  simpa using split
                simp only [List.forM_cons, bind, EStateM.bind, ran] at before
                exact ⟨earlier, item, later, reached, stop, rest', before, thrown⟩

/-- A loop over a list keeps an invariant its body keeps. -/
theorem forM_invariant {items : List β} {body : β → EStateM ε σ PUnit} {Invariant : σ → Prop}
    (start : Invariant state)
    (keep : ∀ item ∈ items, ∀ middle, Invariant middle →
      Outcome (body item) middle (fun _ => Invariant) Thrown) :
    Outcome (forM items body) state (fun _ => Invariant) Thrown := by
  induction items generalizing state with
  | nil => simpa using start
  | cons item rest ih =>
      rw [List.forM_cons, bind_iff]
      refine (keep item List.mem_cons_self state start).mono ?_ fun _ _ => id
      intro _ middle kept
      exact ih kept fun later member => keep later (List.mem_cons_of_mem _ member)

end Outcome

/-- A computation on the first part of a state. -/
def onFirst {τ : Type} (computation : EStateM ε σ α) : EStateM ε (σ × τ) α := fun state =>
  match computation state.1 with
  | .ok value final => .ok value (final, state.2)
  | .error exception final => .error exception (final, state.2)

@[simp] theorem onFirst_iff {τ : Type} {computation : EStateM ε σ α} {state : σ} {rest : τ}
    {Returned : α → σ × τ → Prop} {Thrown : ε → σ × τ → Prop} :
    Outcome (onFirst computation) (state, rest) Returned Thrown ↔
      Outcome computation state (fun value final => Returned value (final, rest))
        (fun exception final => Thrown exception (final, rest)) := by
  unfold Outcome onFirst
  cases computation state <;> rfl

/-- An invariant that a computation keeps at both exits. -/
def Keeps (Invariant : σ → Prop) (computation : EStateM ε σ α) : Prop :=
  ∀ state, Invariant state → Outcome computation state (fun _ => Invariant) (fun _ => Invariant)

section

variable {Invariant : σ → Prop}

theorem keeps_pure (value : α) : Keeps Invariant (pure value : EStateM ε σ α) := fun _ => id

theorem keeps_throw (exception : ε) :
    Keeps Invariant (throw exception : EStateM ε σ α) := fun _ => id

theorem keeps_bind {computation : EStateM ε σ β} {next : β → EStateM ε σ α}
    (first : Keeps Invariant computation) (rest : ∀ value, Keeps Invariant (next value)) :
    Keeps Invariant (computation >>= next) := by
  intro state kept
  rw [Outcome.bind_iff]
  exact (first state kept).mono (fun value middle => rest value middle) fun _ _ => id

/-- After reading the state the invariant is known of it. -/
theorem keeps_get_bind {next : σ → EStateM ε σ α}
    (rest : ∀ state, Invariant state → Keeps Invariant (next state)) :
    Keeps Invariant (get >>= next) := by
  intro state kept
  rw [Outcome.bind_iff]
  exact rest state kept state kept

theorem keeps_set {next : σ} (kept : Invariant next) :
    Keeps Invariant (set next : EStateM ε σ PUnit) := fun _ _ => kept

theorem keeps_modify {change : σ → σ} (kept : ∀ state, Invariant state → Invariant (change state)) :
    Keeps Invariant (modify change : EStateM ε σ PUnit) := fun state => kept state

theorem keeps_map {computation : EStateM ε σ β} (change : β → α)
    (kept : Keeps Invariant computation) : Keeps Invariant (change <$> computation) := by
  intro state start
  rw [Outcome.map_iff]
  exact kept state start

theorem keeps_ite {condition : Prop} [Decidable condition] {yes no : EStateM ε σ α}
    (left : condition → Keeps Invariant yes) (right : ¬ condition → Keeps Invariant no) :
    Keeps Invariant (if condition then yes else no) := by
  split
  · exact left ‹_›
  · exact right ‹_›

/-- A step that is done under a condition, and what follows it. -/
theorem keeps_when {condition : Prop} [Decidable condition] {first : EStateM ε σ PUnit}
    {next : PUnit → EStateM ε σ α} (left : condition → Keeps Invariant first)
    (rest : Keeps Invariant (next ⟨⟩)) :
    Keeps Invariant (if condition then first >>= next else next ⟨⟩) :=
  keeps_ite (fun yes => keeps_bind (left yes) fun _ => rest) fun _ => rest

theorem keeps_tryCatch {computation : EStateM ε σ α} {handler : ε → EStateM ε σ α}
    (first : Keeps Invariant computation) (rest : ∀ exception, Keeps Invariant (handler exception)) :
    Keeps Invariant (tryCatch computation handler) := by
  intro state start
  rw [Outcome.tryCatch_iff]
  exact (first state start).mono (fun _ _ => id) fun exception middle => rest exception middle

theorem keeps_forM {items : List β} {body : β → EStateM ε σ PUnit}
    (kept : ∀ item, Keeps Invariant (body item)) :
    Keeps Invariant (forM items body : EStateM ε σ PUnit) :=
  fun _ start => Outcome.forM_invariant start fun item _ middle => kept item middle

end

/-- Every exception of a computation is one that is allowed. -/
def Raises (Allowed : ε → Prop) (computation : EStateM ε σ α) : Prop :=
  ∀ state, Outcome computation state (fun _ _ => True) (fun exception _ => Allowed exception)

section

variable {Allowed : ε → Prop}

theorem raises_pure (value : α) : Raises Allowed (pure value : EStateM ε σ α) := fun _ => trivial

theorem raises_throw {exception : ε} (allowed : Allowed exception) :
    Raises Allowed (throw exception : EStateM ε σ α) := fun _ => allowed

theorem raises_get : Raises Allowed (get : EStateM ε σ σ) := fun _ => trivial

theorem raises_modify (change : σ → σ) :
    Raises Allowed (modify change : EStateM ε σ PUnit) := fun _ => trivial

theorem raises_bind {computation : EStateM ε σ β} {next : β → EStateM ε σ α}
    (first : Raises Allowed computation) (rest : ∀ value, Raises Allowed (next value)) :
    Raises Allowed (computation >>= next) := by
  intro state
  rw [Outcome.bind_iff]
  exact (first state).mono (fun value middle _ => rest value middle) fun _ _ => id

theorem raises_ite {condition : Prop} [Decidable condition] {yes no : EStateM ε σ α}
    (left : condition → Raises Allowed yes) (right : ¬ condition → Raises Allowed no) :
    Raises Allowed (if condition then yes else no) := by
  split
  · exact left ‹_›
  · exact right ‹_›

theorem raises_forM {items : List β} {body : β → EStateM ε σ PUnit}
    (each : ∀ item, Raises Allowed (body item)) :
    Raises Allowed (forM items body : EStateM ε σ PUnit) := by
  induction items with
  | nil => exact raises_pure _
  | cons item rest ih =>
      rw [List.forM_cons]
      exact raises_bind (each item) fun _ => ih

end

end Andromeda.Library
