import Mathlib.Data.Fintype.Card
import Mathlib.Data.Finset.Card

/-! Counting the members of a finite set whose value meets a test, while one value at a time
changes. -/

set_option autoImplicit false

namespace Andromeda.Library

variable {ι β : Type*} {members : Finset ι} {values : ι → β} {test : β → Bool}

/-- How many members have a value that meets the test. -/
def count (members : Finset ι) (test : β → Bool) (values : ι → β) : Nat :=
  (members.filter fun member => test (values member)).card

/-- Counted others that are all images of counted members are no more than these. -/
theorem count_le_of_images {κ γ : Type*} {others : Finset κ} {otherTest : γ → Bool}
    {otherValues : κ → γ} (image : ι → κ)
    (covered : ∀ other ∈ others, otherTest (otherValues other) = true →
      ∃ member ∈ members, test (values member) = true ∧ image member = other) :
    count others otherTest otherValues ≤ count members test values := by
  apply Finset.card_le_card_of_surjOn image
  intro other counted
  obtain ⟨inside, meets⟩ := Finset.mem_filter.mp counted
  obtain ⟨member, among, memberMeets, same⟩ := covered other inside meets
  exact ⟨member, Finset.mem_filter.mpr ⟨among, memberMeets⟩, same⟩

section

variable [DecidableEq ι]

/-- Changing one value changes the count by that member. -/
theorem count_update {member : ι} (inside : member ∈ members) (value : β) :
    count members test (Function.update values member value) + (test (values member)).toNat =
      count members test values + (test value).toNat := by
  have others : ((members.erase member).filter fun other =>
        test (Function.update values member value other)) =
      (members.erase member).filter fun other => test (values other) := by
    apply Finset.filter_congr
    intro other erased
    rw [Function.update_of_ne (Finset.ne_of_mem_erase erased)]
  have split (assigned : ι → β) : count members test assigned =
      ((members.erase member).filter fun other => test (assigned other)).card +
        (test (assigned member)).toNat := by
    unfold count
    conv_lhs => rw [← Finset.insert_erase inside]
    rw [Finset.filter_insert]
    cases met : test (assigned member) with
    | true => simp
    | false => simp
  rw [split (Function.update values member value), split values, others, Function.update_self]
  omega

/-- A member outside the set does not count. -/
theorem count_update_of_notMem {member : ι} (outside : member ∉ members) (value : β) :
    count members test (Function.update values member value) = count members test values := by
  unfold count
  congr 1
  apply Finset.filter_congr
  intro other inside
  rw [Function.update_of_ne]
  rintro rfl
  exact outside inside

end

end Andromeda.Library
