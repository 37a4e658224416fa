import Mathlib.Data.Finset.Card
import Mathlib.Data.List.Count
import Mathlib.Algebra.BigOperators.Ring.Finset
import Mathlib.Algebra.Order.BigOperators.Group.Finset
import Mathlib.Order.Interval.Finset.Nat

/-! Blocks of consecutive places, and how often a list of blocks covers each place. Blocks that
cover no place twice are apart. -/

set_option autoImplicit false

namespace Andromeda.Library

/-- Some places in a row. -/
structure Block where
  start : Nat
  length : Nat
  deriving DecidableEq, Repr

namespace Block

def holds (block : Block) (place : Nat) : Bool :=
  decide (block.start ≤ place ∧ place < block.start + block.length)

/-- Two blocks without a common place. -/
def Apart (block other : Block) : Prop :=
  ∀ place, ¬(block.holds place = true ∧ other.holds place = true)

/-- Whether all places of a piece are in this block. -/
def contains (block piece : Block) : Bool :=
  decide (block.start ≤ piece.start ∧ piece.start + piece.length ≤ block.start + block.length)

/-- What is left of a block without a piece of it, on both sides. -/
def without (block piece : Block) : List Block :=
  [⟨block.start, piece.start - block.start⟩,
    ⟨piece.start + piece.length,
      block.start + block.length - (piece.start + piece.length)⟩].filter fun part =>
    decide (part.length ≠ 0)

/-- How many of the blocks hold a place. -/
def cover (blocks : List Block) (place : Nat) : Nat :=
  blocks.countP fun block => block.holds place

/-- How many places the blocks have together. -/
def total (blocks : List Block) : Nat :=
  (blocks.map length).sum

/-- Take a piece out of the first block that contains it. -/
def takeOut : List Block → Block → List Block
  | [], _ => []
  | block :: rest, piece =>
    if block.contains piece then block.without piece ++ rest
    else block :: takeOut rest piece

@[simp] theorem cover_nil (place : Nat) : cover [] place = 0 := rfl

theorem cover_cons (block : Block) (rest : List Block) (place : Nat) :
    cover (block :: rest) place = (block.holds place).toNat + cover rest place := by
  unfold cover
  rw [List.countP_cons, Nat.add_comm]
  cases block.holds place <;> rfl

theorem cover_append (first second : List Block) (place : Nat) :
    cover (first ++ second) place = cover first place + cover second place :=
  List.countP_append

theorem cover_perm {first second : List Block} (same : first.Perm second) (place : Nat) :
    cover first place = cover second place :=
  same.countP_eq _

@[simp] theorem total_nil : total [] = 0 := rfl

theorem total_cons (block : Block) (rest : List Block) :
    total (block :: rest) = block.length + total rest := rfl

theorem total_append (first second : List Block) :
    total (first ++ second) = total first + total second := by
  simp [total]

theorem total_perm {first second : List Block} (same : first.Perm second) :
    total first = total second :=
  (same.map _).sum_eq

theorem holds_start {block : Block} (some : block.length ≠ 0) :
    block.holds block.start = true := by
  unfold holds
  apply decide_eq_true
  omega

instance : Std.Symm Apart :=
  ⟨fun _ _ apart place both => apart place ⟨both.2, both.1⟩⟩

/-- Blocks that cover no place twice are apart. -/
theorem pairwise_apart {blocks : List Block} (once : ∀ place, cover blocks place ≤ 1) :
    blocks.Pairwise Apart := by
  induction blocks with
  | nil => exact .nil
  | cons block rest ih =>
      rw [List.pairwise_cons]
      constructor
      · intro other member place both
        have held : 0 < cover rest place := List.countP_pos_iff.mpr ⟨other, member, both.2⟩
        have twice := once place
        rw [cover_cons, both.1, Bool.toNat_true] at twice
        omega
      · apply ih
        intro place
        have bound := once place
        rw [cover_cons] at bound
        omega

/-- A block falls into a piece and what is left of it. -/
theorem holds_without {block piece : Block} (inside : block.contains piece = true) (place : Nat) :
    (block.holds place).toNat =
      (piece.holds place).toNat + cover (block.without piece) place := by
  have bounds := of_decide_eq_true inside
  have drops (part : Block) : cover ([part].filter fun part => decide (part.length ≠ 0)) place =
      (part.holds place).toNat := by
    by_cases empty : part.length = 0
    · have none : part.holds place = false := by
        unfold holds
        apply decide_eq_false
        omega
      simp [empty, none]
    · simp [empty, cover_cons]
  have two (first second : Block) :
      cover ([first, second].filter fun part => decide (part.length ≠ 0)) place =
        (first.holds place).toNat + (second.holds place).toNat := by
    have split : [first, second] = [first] ++ [second] := rfl
    rw [split, List.filter_append, cover_append, drops, drops]
  rw [without, two]
  have toNat (block : Block) : (block.holds place).toNat =
      if block.start ≤ place ∧ place < block.start + block.length then 1 else 0 := by
    unfold holds
    by_cases held : block.start ≤ place ∧ place < block.start + block.length
    · simp [held]
    · simp [held]
  simp only [toNat]
  split <;> split <;> split <;> split <;> omega

theorem total_without {block piece : Block} (inside : block.contains piece = true) :
    block.length = piece.length + total (block.without piece) := by
  have bounds := of_decide_eq_true inside
  have drops (part : Block) :
      total ([part].filter fun part => decide (part.length ≠ 0)) = part.length := by
    by_cases empty : part.length = 0
    · simp [empty]
    · simp [empty, total_cons]
  have two (first second : Block) :
      total ([first, second].filter fun part => decide (part.length ≠ 0)) =
        first.length + second.length := by
    have split : [first, second] = [first] ++ [second] := rfl
    rw [split, List.filter_append, total_append, drops, drops]
  rw [without, two]
  show block.length = piece.length + (piece.start - block.start +
    (block.start + block.length - (piece.start + piece.length)))
  omega

theorem length_of_mem_without {block piece part : Block} (member : part ∈ block.without piece) :
    part.length ≠ 0 := by
  simpa using (List.mem_filter.mp member).2

/-- A piece taken out of the blocks. -/
theorem cover_takeOut {blocks : List Block} {piece : Block}
    (inside : ∃ block ∈ blocks, block.contains piece = true) (place : Nat) :
    cover blocks place = (piece.holds place).toNat + cover (takeOut blocks piece) place := by
  induction blocks with
  | nil =>
      obtain ⟨_, member, _⟩ := inside
      cases member
  | cons block rest ih =>
      unfold takeOut
      split
      · next here =>
        rw [cover_cons, cover_append, holds_without here, Nat.add_assoc]
      · next elsewhere =>
        obtain ⟨other, member, contained⟩ := inside
        rcases List.mem_cons.mp member with rfl | later
        · exact absurd contained elsewhere
        · rw [cover_cons, cover_cons, ih ⟨other, later, contained⟩]
          omega

theorem total_takeOut {blocks : List Block} {piece : Block}
    (inside : ∃ block ∈ blocks, block.contains piece = true) :
    total blocks = piece.length + total (takeOut blocks piece) := by
  induction blocks with
  | nil =>
      obtain ⟨_, member, _⟩ := inside
      cases member
  | cons block rest ih =>
      unfold takeOut
      split
      · next here =>
        rw [total_cons, total_append, total_without here, Nat.add_assoc]
      · next elsewhere =>
        obtain ⟨other, member, contained⟩ := inside
        rcases List.mem_cons.mp member with rfl | later
        · exact absurd contained elsewhere
        · rw [total_cons, total_cons, ih ⟨other, later, contained⟩]
          omega

theorem length_of_mem_takeOut {blocks : List Block} {piece part : Block}
    (some : ∀ block ∈ blocks, block.length ≠ 0) (member : part ∈ takeOut blocks piece) :
    part.length ≠ 0 := by
  induction blocks with
  | nil => cases member
  | cons block rest ih =>
      unfold takeOut at member
      split at member
      · rcases List.mem_append.mp member with left | later
        · exact length_of_mem_without left
        · exact some part (List.mem_cons_of_mem _ later)
      · rcases List.mem_cons.mp member with rfl | later
        · exact some part List.mem_cons_self
        · exact ih (fun other inside => some other (List.mem_cons_of_mem _ inside)) later

private theorem card_filter_holds {places : Finset Nat} {block : Block}
    (within : ∀ place, block.holds place = true → place ∈ places) :
    (places.filter fun place => block.holds place).card = block.length := by
  have same : (places.filter fun place => block.holds place) =
      Finset.Ico block.start (block.start + block.length) := by
    ext place
    rw [Finset.mem_filter, Finset.mem_Ico]
    constructor
    · intro inside
      exact of_decide_eq_true inside.2
    · intro inside
      have held : block.holds place = true := decide_eq_true inside
      exact ⟨within place held, held⟩
  rw [same, Nat.card_Ico]
  omega

private theorem total_eq_sum {places : Finset Nat} {blocks : List Block}
    (within : ∀ block ∈ blocks, ∀ place, block.holds place = true → place ∈ places) :
    total blocks = ∑ place ∈ places, cover blocks place := by
  induction blocks with
  | nil => simp
  | cons block rest ih =>
      have card := card_filter_holds (within block List.mem_cons_self)
      have sum : ∑ place ∈ places, (block.holds place).toNat = block.length := by
        rw [← card, Finset.card_filter]
        apply Finset.sum_congr rfl
        intro place _
        cases block.holds place <;> rfl
      simp only [cover_cons]
      rw [Finset.sum_add_distrib, sum, total_cons,
        ih fun other member => within other (List.mem_cons_of_mem _ member)]

/-- Blocks apart within some places have no more places than these. -/
theorem total_le_card {places : Finset Nat} {blocks : List Block}
    (within : ∀ block ∈ blocks, ∀ place, block.holds place = true → place ∈ places)
    (once : ∀ place, cover blocks place ≤ 1) : total blocks ≤ places.card := by
  rw [total_eq_sum within, Finset.card_eq_sum_ones]
  exact Finset.sum_le_sum fun place _ => once place

end Block

end Andromeda.Library
