import Andromeda.Library.Outcome
import Mathlib.Data.List.Basic

/-! Computations that ask an oracle, each time with a tick of a clock in their state. What a run
asks decides it, so that it is the same under an oracle that says no to everything else. -/

set_option autoImplicit false

namespace Andromeda.Library

variable {ε σ κ α β : Type} {clock : σ → Nat}

/-- What the run from `state` asks: one question a tick, and their answers decide the run. -/
structure Transcript (clock : σ → Nat) (computation : (σ → κ → Bool) → EStateM ε σ α)
    (oracle : σ → κ → Bool) (state : σ) (asked : List (σ × κ)) : Prop where
  ticks : asked.map (fun query => clock query.1) = List.range' (clock state) asked.length
  ended : Outcome (computation oracle) state (fun _ final => clock final = clock state + asked.length)
    (fun _ final => clock final = clock state + asked.length)
  decides (other : σ → κ → Bool) :
    (∀ query ∈ asked, other query.1 query.2 = oracle query.1 query.2) →
      computation other state = computation oracle state

/-- Under every oracle the run from `state` has a transcript. -/
def AsksFrom (clock : σ → Nat) (computation : (σ → κ → Bool) → EStateM ε σ α) (state : σ) : Prop :=
  ∀ oracle, ∃ asked, Transcript clock computation oracle state asked

def Asks (clock : σ → Nat) (computation : (σ → κ → Bool) → EStateM ε σ α) : Prop :=
  ∀ state, AsksFrom clock computation state

/-- A run that goes on after what its first part asked. -/
theorem Transcript.append {first : (σ → κ → Bool) → EStateM ε σ β}
    {computation next : (σ → κ → Bool) → EStateM ε σ α} {oracle : σ → κ → Bool} {state middle : σ}
    {asked later : List (σ × κ)} (left : Transcript clock first oracle state asked)
    (right : Transcript clock next oracle middle later)
    (reached : clock middle = clock state + asked.length)
    (continues : ∀ other, first other state = first oracle state →
      computation other state = next other middle) :
    Transcript clock computation oracle state (asked ++ later) where
  ticks := by
    rw [List.map_append, left.ticks, right.ticks, reached, List.length_append,
      ← List.range'_append_1]
  ended := by
    have ended := right.ended
    unfold Outcome at ended ⊢
    rw [continues oracle rfl, List.length_append, ← Nat.add_assoc, ← reached]
    exact ended
  decides other agree := by
    have same := left.decides other fun query member => agree query (List.mem_append_left _ member)
    rw [continues other same, continues oracle rfl]
    exact right.decides other fun query member => agree query (List.mem_append_right _ member)

private theorem asksFrom_silent {computation : EStateM ε σ α} {state : σ}
    (silent : Outcome computation state (fun _ final => clock final = clock state)
      (fun _ final => clock final = clock state)) :
    AsksFrom clock (fun _ : σ → κ → Bool => computation) state :=
  fun _ => ⟨[], rfl, silent, fun _ _ => rfl⟩

theorem asks_pure (value : α) : Asks clock fun _ : σ → κ → Bool => (pure value : EStateM ε σ α) :=
  fun _ => asksFrom_silent rfl

theorem asks_throw (exception : ε) :
    Asks clock fun _ : σ → κ → Bool => (throw exception : EStateM ε σ α) :=
  fun _ => asksFrom_silent rfl

theorem asks_modify {change : σ → σ} (same : ∀ state, clock (change state) = clock state) :
    Asks clock fun _ : σ → κ → Bool => (modify change : EStateM ε σ PUnit) :=
  fun state => asksFrom_silent (same state)

theorem asksFrom_set {state next : σ} (same : clock next = clock state) :
    AsksFrom clock (fun _ : σ → κ → Bool => (set next : EStateM ε σ PUnit)) state :=
  asksFrom_silent same

theorem asksFrom_bind {first : (σ → κ → Bool) → EStateM ε σ β}
    {next : (σ → κ → Bool) → β → EStateM ε σ α} {state : σ} (left : AsksFrom clock first state)
    (right : ∀ value, Asks clock fun oracle => next oracle value) :
    AsksFrom clock (fun oracle => first oracle >>= next oracle) state := by
  intro oracle
  obtain ⟨asked, transcript⟩ := left oracle
  have ended := transcript.ended
  cases ran : first oracle state with
  | error exception final =>
      have thrown : (first oracle >>= next oracle) state = .error exception final := by
        simp only [bind, EStateM.bind, ran]
      refine ⟨asked, transcript.ticks, ?_, fun other agree => ?_⟩
      · unfold Outcome
        rw [thrown]
        exact ended.of_error ran
      · simp only [bind, EStateM.bind, transcript.decides other agree, ran]
  | ok value middle =>
      obtain ⟨later, rest⟩ := right value middle oracle
      refine ⟨asked ++ later, transcript.append rest (ended.of_ok ran) fun other same => ?_⟩
      simp only [bind, EStateM.bind, same, ran]

theorem asks_bind {first : (σ → κ → Bool) → EStateM ε σ β}
    {next : (σ → κ → Bool) → β → EStateM ε σ α} (left : Asks clock first)
    (right : ∀ value, Asks clock fun oracle => next oracle value) :
    Asks clock fun oracle => first oracle >>= next oracle :=
  fun state => asksFrom_bind (left state) right

/-- The state read is the one the run goes on from. -/
theorem asksFrom_get_bind {next : (σ → κ → Bool) → σ → EStateM ε σ α} {state : σ}
    (rest : AsksFrom clock (fun oracle => next oracle state) state) :
    AsksFrom clock (fun oracle => get >>= next oracle) state := by
  intro oracle
  obtain ⟨asked, transcript⟩ := rest oracle
  exact ⟨asked, transcript.ticks, transcript.ended, transcript.decides⟩

theorem asks_get_bind {next : (σ → κ → Bool) → σ → EStateM ε σ α}
    (rest : ∀ state, Asks clock fun oracle => next oracle state) :
    Asks clock fun oracle => get >>= next oracle :=
  fun state => asksFrom_get_bind (rest state state)

theorem asks_map {computation : (σ → κ → Bool) → EStateM ε σ β} (change : β → α)
    (asks : Asks clock computation) : Asks clock fun oracle => change <$> computation oracle := by
  intro state oracle
  obtain ⟨asked, transcript⟩ := asks state oracle
  refine ⟨asked, transcript.ticks, ?_, fun other agree => ?_⟩
  · rw [Outcome.map_iff]
    exact transcript.ended
  · simp only [Functor.map, EStateM.map, transcript.decides other agree]

theorem asks_ite {condition : Prop} [Decidable condition]
    {yes no : (σ → κ → Bool) → EStateM ε σ α} (left : Asks clock yes) (right : Asks clock no) :
    Asks clock fun oracle => if condition then yes oracle else no oracle := by
  split
  · exact left
  · exact right

/-- A step that is done under a condition, and what follows it. -/
theorem asks_when {condition : Prop} [Decidable condition]
    {first : (σ → κ → Bool) → EStateM ε σ PUnit} {next : (σ → κ → Bool) → PUnit → EStateM ε σ α}
    (left : Asks clock first) (rest : Asks clock fun oracle => next oracle ⟨⟩) :
    Asks clock fun oracle => if condition then first oracle >>= next oracle else next oracle ⟨⟩ :=
  asks_ite (asks_bind left fun _ => rest) rest

theorem asks_tryCatch {computation : (σ → κ → Bool) → EStateM ε σ α}
    {handler : (σ → κ → Bool) → ε → EStateM ε σ α} (left : Asks clock computation)
    (right : ∀ exception, Asks clock fun oracle => handler oracle exception) :
    Asks clock fun oracle => tryCatch (computation oracle) (handler oracle) := by
  intro state oracle
  obtain ⟨asked, transcript⟩ := left state oracle
  have ended := transcript.ended
  cases ran : computation oracle state with
  | ok value final =>
      have returned : tryCatch (computation oracle) (handler oracle) state = .ok value final := by
        rw [run_tryCatch, ran]
      refine ⟨asked, transcript.ticks, ?_, fun other agree => ?_⟩
      · unfold Outcome
        rw [returned]
        exact ended.of_ok ran
      · rw [returned, run_tryCatch, transcript.decides other agree, ran]
  | error exception middle =>
      obtain ⟨later, rest⟩ := right exception middle oracle
      refine ⟨asked ++ later, transcript.append rest (ended.of_error ran) fun other same => ?_⟩
      rw [run_tryCatch, same, ran]

theorem asks_forM {items : List β} {body : (σ → κ → Bool) → β → EStateM ε σ PUnit}
    (asks : ∀ item, Asks clock fun oracle => body oracle item) :
    Asks clock fun oracle => (forM items (body oracle) : EStateM ε σ PUnit) := by
  induction items with
  | nil => exact asks_pure _
  | cons item rest ih => exact asks_bind (asks item) fun _ => ih

section

variable [DecidableEq σ] [DecidableEq κ]

/-- The oracle that says no to what was not asked. -/
def onlyAsked (oracle : σ → κ → Bool) (asked : List (σ × κ)) : σ → κ → Bool := fun state query =>
  oracle state query && decide ((state, query) ∈ asked)

theorem onlyAsked_eq_true {oracle : σ → κ → Bool} {asked : List (σ × κ)} {state : σ} {query : κ} :
    onlyAsked oracle asked state query = true ↔
      (state, query) ∈ asked ∧ oracle state query = true := by
  simp [onlyAsked, and_comm]

theorem Transcript.onlyAsked {computation : (σ → κ → Bool) → EStateM ε σ α}
    {oracle : σ → κ → Bool} {state : σ} {asked : List (σ × κ)}
    (transcript : Transcript clock computation oracle state asked) :
    computation (onlyAsked oracle asked) state = computation oracle state :=
  transcript.decides _ fun query member => by simp [Library.onlyAsked, member]

end

end Andromeda.Library
