import Mathlib.Data.List.Infix

/-! The patterns of SQL's LIKE over any symbols, with a wildcard for one symbol, one for any number
of them, and an escape symbol. -/

set_option autoImplicit false

namespace Andromeda.Library.Like

variable {σ τ : Type*} [DecidableEq τ]

/-- The symbols that mean something in a pattern. -/
structure Wildcards (σ : Type*) where
  many : σ
  one : σ
  escape : σ
  many_ne_escape : many ≠ escape
  one_ne_escape : one ≠ escape

/-- An element of a pattern. -/
inductive Element (σ : Type*) where
  | literal (symbol : σ)
  | one
  | many
  deriving DecidableEq

/-- A pattern read: the symbol after an escape stands for itself. One that ends with an escape is not
a pattern. -/
def parse [DecidableEq σ] (wildcards : Wildcards σ) : List σ → Option (List (Element σ))
  | [] => some []
  | symbol :: rest =>
    if symbol = wildcards.escape then
      match rest with
      | [] => none
      | escaped :: rest => (parse wildcards rest).map (.literal escaped :: ·)
    else if symbol = wildcards.many then (parse wildcards rest).map (.many :: ·)
    else if symbol = wildcards.one then (parse wildcards rest).map (.one :: ·)
    else (parse wildcards rest).map (.literal symbol :: ·)

/-- Whether a string matches, comparing symbols as they are folded. -/
def Matches (fold : σ → τ) : List (Element σ) → List σ → Bool
  | [], str => str.isEmpty
  | .literal _ :: _, [] => false
  | .literal symbol :: rest, head :: tail =>
    decide (fold symbol = fold head) && Matches fold rest tail
  | .one :: _, [] => false
  | .one :: rest, _ :: tail => Matches fold rest tail
  | .many :: rest, str => str.tails.any (Matches fold rest)

/-- `LIKE` with an `ESCAPE`. -/
def like [DecidableEq σ] (wildcards : Wildcards σ) (fold : σ → τ) (pattern str : List σ) : Bool :=
  match parse wildcards pattern with
  | none => false
  | some elements => Matches fold elements str

/-- A string with an escape before each symbol that means something. -/
def escaped [DecidableEq σ] (wildcards : Wildcards σ) (str : List σ) : List σ :=
  str.flatMap fun symbol =>
    if symbol = wildcards.escape ∨ symbol = wildcards.one ∨ symbol = wildcards.many then
      [wildcards.escape, symbol]
    else [symbol]

section Parse

variable [DecidableEq σ] {wildcards : Wildcards σ} {str rest : List σ}

private theorem parse_cons {symbol : σ} :
    parse wildcards (symbol :: rest) =
      if symbol = wildcards.escape then
        match rest with
        | [] => none
        | escaped :: rest => (parse wildcards rest).map (.literal escaped :: ·)
      else if symbol = wildcards.many then (parse wildcards rest).map (.many :: ·)
      else if symbol = wildcards.one then (parse wildcards rest).map (.one :: ·)
      else (parse wildcards rest).map (.literal symbol :: ·) := by
  rw [parse.eq_def]

private theorem parse_many : parse wildcards (wildcards.many :: rest) =
    (parse wildcards rest).map (.many :: ·) := by
  rw [parse_cons, if_neg wildcards.many_ne_escape, if_pos rfl]

private theorem parse_escaped_append :
    parse wildcards (escaped wildcards str ++ rest) =
      (parse wildcards rest).map (str.map .literal ++ ·) := by
  induction str with
  | nil => simp [escaped]
  | cons symbol str ih =>
      rw [escaped, List.flatMap_cons, List.append_assoc, ← escaped]
      split
      · rw [List.cons_append, List.singleton_append, parse_cons, if_pos rfl]
        simp only [ih, Option.map_map]
        rfl
      · rename_i plain
        simp only [not_or] at plain
        rw [List.singleton_append, parse_cons, if_neg plain.1, if_neg plain.2.2, if_neg plain.2.1, ih,
          Option.map_map]
        rfl

private theorem parse_anywhere :
    parse wildcards (wildcards.many :: (escaped wildcards str ++ [wildcards.many])) =
      some (.many :: (str.map .literal ++ [.many])) := by
  rw [parse_many, parse_escaped_append, parse_many]
  rfl

end Parse

section Matching

variable {fold : σ → τ} {wanted str : List σ}

private theorem matches_many {elements : List (Element σ)} :
    Matches fold (.many :: elements) str = true ↔
      ∃ rest, rest <:+ str ∧ Matches fold elements rest = true := by
  simp only [Matches, List.any_eq_true, List.mem_tails]

private theorem matches_literals :
    Matches fold (wanted.map .literal ++ [.many]) str = true ↔
      wanted.map fold <+: str.map fold := by
  induction wanted generalizing str with
  | nil =>
      simp only [List.map_nil, List.nil_append, List.nil_prefix, iff_true]
      exact matches_many.mpr ⟨[], List.nil_suffix, rfl⟩
  | cons symbol wanted ih =>
      cases str with
      | nil => simp [Matches]
      | cons head tail =>
        rw [List.map_cons, List.cons_append, Matches, Bool.and_eq_true, decide_eq_true_eq, ih,
          List.map_cons, List.map_cons, List.cons_prefix_cons]

/-- A string matches an escaped one between wildcards if that occurs in it, up to the folding. -/
theorem like_anywhere_iff [DecidableEq σ] {wildcards : Wildcards σ} :
    like wildcards fold (wildcards.many :: (escaped wildcards wanted ++ [wildcards.many])) str =
        true ↔
      wanted.map fold <:+: str.map fold := by
  rw [like, parse_anywhere]
  simp only [matches_many, matches_literals]
  rw [List.infix_iff_prefix_suffix]
  constructor
  · rintro ⟨rest, after, here⟩
    exact ⟨rest.map fold, here, after.map fold⟩
  · rintro ⟨rest, here, before, equal⟩
    obtain ⟨first, second, rfl, _, folded⟩ := List.map_eq_append_iff.mp equal.symm
    exact ⟨second, List.suffix_append first second, by rw [folded]; exact here⟩

end Matching

end Andromeda.Library.Like
