import Andromeda.Library.Sql.Token

/-! The expressions of SQL: their values, in which comparisons with null are unknown, and how a list of
tokens is read by the precedence of its operators. -/

set_option autoImplicit false

namespace Andromeda.Library.Sql

inductive Comparison where
  | equals
  | notEquals
  | less
  | lessEquals
  | greater
  | greaterEquals
  deriving DecidableEq

/-- An expression with parameters of a type. -/
inductive Expression (ρ : Type*) where
  | column (name : List Char)
  | param (param : ρ)
  | null
  | text (text : List Char)
  | isNull (operand : Expression ρ)
  | compare (comparison : Comparison) (left right : Expression ρ)
  | like (left pattern : Expression ρ)
  | likeEscape (left pattern escape : Expression ρ)
  | add (left right : Expression ρ)
  | not (operand : Expression ρ)
  | and (left right : Expression ρ)
  | or (left right : Expression ρ)

/-- A truth value; none is unknown. -/
abbrev Truth := Option Bool

namespace Truth

def not (truth : Truth) : Truth := truth.map (!·)

/-- `AND`: false with anything false, and else unknown with anything unknown. -/
def and : Truth → Truth → Truth
  | some false, _ => some false
  | some true, right => right
  | none, some false => some false
  | none, _ => none

/-- `OR`: true with anything true, and else unknown with anything unknown. -/
def or : Truth → Truth → Truth
  | some true, _ => some true
  | some false, right => right
  | none, some true => some true
  | none, _ => none

theorem and_assoc (first second third : Truth) :
    (first.and second).and third = first.and (second.and third) := by
  rcases first with _ | _ | _ <;> rcases second with _ | _ | _ <;> rcases third with _ | _ | _ <;>
    rfl

theorem or_assoc (first second third : Truth) :
    (first.or second).or third = first.or (second.or third) := by
  rcases first with _ | _ | _ <;> rcases second with _ | _ | _ <;> rcases third with _ | _ | _ <;>
    rfl

theorem and_true (truth : Truth) : truth.and (some true) = truth := by
  rcases truth with _ | _ | _ <;> rfl

theorem or_false (truth : Truth) : truth.or (some false) = truth := by
  rcases truth with _ | _ | _ <;> rfl

end Truth

/-- What the operators do to values, which are read as truth values and hold them. -/
structure Operators (ν : Type*) where
  null : ν
  text : List Char → ν
  ofTruth : Truth → ν
  truth : ν → Truth
  truth_ofTruth : ∀ value, truth (ofTruth value) = value
  isNull : ν → Bool
  compare : Comparison → ν → ν → Truth
  like : ν → ν → Option ν → Truth
  add : ν → ν → ν

namespace Expression

variable {ρ σ ν : Type*}

/-- The expression with other parameters. -/
def map (change : ρ → σ) : Expression ρ → Expression σ
  | column name => column name
  | param value => param (change value)
  | null => null
  | text value => text value
  | isNull operand => isNull (operand.map change)
  | compare comparison left right => compare comparison (left.map change) (right.map change)
  | like left pattern => like (left.map change) (pattern.map change)
  | likeEscape left pattern escape =>
    likeEscape (left.map change) (pattern.map change) (escape.map change)
  | add left right => add (left.map change) (right.map change)
  | not operand => not (operand.map change)
  | and left right => and (left.map change) (right.map change)
  | or left right => or (left.map change) (right.map change)

/-- The value of an expression in a row. -/
def eval (operators : Operators ν) (row : List Char → ν) : Expression ν → ν
  | column name => row name
  | param value => value
  | null => operators.null
  | text value => operators.text value
  | isNull operand => operators.ofTruth (some (operators.isNull (operand.eval operators row)))
  | compare comparison left right =>
    operators.ofTruth
      (operators.compare comparison (left.eval operators row) (right.eval operators row))
  | like left pattern =>
    operators.ofTruth (operators.like (left.eval operators row) (pattern.eval operators row) none)
  | likeEscape left pattern escape =>
    operators.ofTruth (operators.like (left.eval operators row) (pattern.eval operators row)
      (some (escape.eval operators row)))
  | add left right => operators.add (left.eval operators row) (right.eval operators row)
  | not operand => operators.ofTruth (operators.truth (operand.eval operators row)).not
  | and left right =>
    operators.ofTruth ((operators.truth (left.eval operators row)).and
      (operators.truth (right.eval operators row)))
  | or left right =>
    operators.ofTruth ((operators.truth (left.eval operators row)).or
      (operators.truth (right.eval operators row)))

theorem map_map {τ : Type*} (first : ρ → σ) (second : σ → τ) (expression : Expression ρ) :
    (expression.map first).map second = expression.map fun param => second (first param) := by
  induction expression with
  | column name => rfl
  | param name => rfl
  | null => rfl
  | text value => rfl
  | isNull operand ih => simp [map, ih]
  | not operand ih => simp [map, ih]
  | compare comparison left right leftIH rightIH => simp [map, leftIH, rightIH]
  | like left pattern leftIH patternIH => simp [map, leftIH, patternIH]
  | likeEscape left pattern escape leftIH patternIH escapeIH =>
      simp [map, leftIH, patternIH, escapeIH]
  | add left right leftIH rightIH => simp [map, leftIH, rightIH]
  | and left right leftIH rightIH => simp [map, leftIH, rightIH]
  | or left right leftIH rightIH => simp [map, leftIH, rightIH]

/-- Parameters that are given values keep them where more are given. -/
theorem map_some_mono {first second : ρ → Option σ}
    (keep : ∀ param value, first param = some value → second param = some value)
    {expression : Expression ρ} {valued : Expression σ}
    (given : expression.map first = valued.map some) :
    expression.map second = valued.map some := by
  induction expression generalizing valued with
  | param name =>
      cases valued with
      | param value =>
          simp only [map, param.injEq] at given ⊢
          exact keep name value given
      | _ => cases given
  | column name => cases valued <;> simp_all [map]
  | null => cases valued <;> simp_all [map]
  | text value => cases valued <;> simp_all [map]
  | isNull operand ih =>
      cases valued with
      | isNull other =>
          simp only [map, isNull.injEq] at given ⊢
          exact ih given
      | _ => cases given
  | not operand ih =>
      cases valued with
      | not other =>
          simp only [map, not.injEq] at given ⊢
          exact ih given
      | _ => cases given
  | compare comparison left right leftIH rightIH =>
      cases valued with
      | compare other otherLeft otherRight =>
          simp only [map, compare.injEq] at given ⊢
          exact ⟨given.1, leftIH given.2.1, rightIH given.2.2⟩
      | _ => cases given
  | like left pattern leftIH patternIH =>
      cases valued with
      | like otherLeft otherPattern =>
          simp only [map, like.injEq] at given ⊢
          exact ⟨leftIH given.1, patternIH given.2⟩
      | _ => cases given
  | likeEscape left pattern escape leftIH patternIH escapeIH =>
      cases valued with
      | likeEscape otherLeft otherPattern otherEscape =>
          simp only [map, likeEscape.injEq] at given ⊢
          exact ⟨leftIH given.1, patternIH given.2.1, escapeIH given.2.2⟩
      | _ => cases given
  | add left right leftIH rightIH =>
      cases valued with
      | add otherLeft otherRight =>
          simp only [map, add.injEq] at given ⊢
          exact ⟨leftIH given.1, rightIH given.2⟩
      | _ => cases given
  | and left right leftIH rightIH =>
      cases valued with
      | and otherLeft otherRight =>
          simp only [map, and.injEq] at given ⊢
          exact ⟨leftIH given.1, rightIH given.2⟩
      | _ => cases given
  | or left right leftIH rightIH =>
      cases valued with
      | or otherLeft otherRight =>
          simp only [map, or.injEq] at given ⊢
          exact ⟨leftIH given.1, rightIH given.2⟩
      | _ => cases given

/-- Whether an expression is true of a row. -/
def holds (operators : Operators ν) (row : List Char → ν) (expression : Expression ν) : Truth :=
  operators.truth (expression.eval operators row)

end Expression

/-- The comparison that a symbol is, and how tightly it binds. -/
def comparison? : Symbol → Option (Comparison × Nat)
  | .equals => some (.equals, 4)
  | .notEquals => some (.notEquals, 4)
  | .less => some (.less, 5)
  | .lessEquals => some (.lessEquals, 5)
  | .greater => some (.greater, 5)
  | .greaterEquals => some (.greaterEquals, 5)
  | _ => none

mutual

/-- The operand that a list of tokens begins with, and the tokens after it. -/
def operand : Nat → List Token → Option (Expression (List Char) × List Token)
  | 0, _ => none
  | fuel + 1, tokens =>
    match tokens with
    | .name name :: rest => some (.column name, rest)
    | .param name :: rest => some (.param name, rest)
    | .quoted text :: rest => some (.text text, rest)
    | .keyword .null :: rest => some (.null, rest)
    | .keyword .not :: rest =>
      match expression fuel 3 rest with
      | none => none
      | some (operand, rest) => some (.not operand, rest)
    | .symbol .opening :: rest =>
      match expression fuel 1 rest with
      | some (inner, .symbol .closing :: rest) => some (inner, rest)
      | _ => none
    | _ => none

/-- The operators that go on from an operand, as far as they bind tightly enough. -/
def operators : Nat → Nat → Expression (List Char) → List Token →
    Option (Expression (List Char) × List Token)
  | 0, _, _, _ => none
  | fuel + 1, tightness, left, tokens =>
    match tokens with
    | .keyword .or :: rest =>
      if tightness ≤ 1 then
        match expression fuel 2 rest with
        | none => none
        | some (right, rest) => operators fuel tightness (.or left right) rest
      else some (left, tokens)
    | .keyword .and :: rest =>
      if tightness ≤ 2 then
        match expression fuel 3 rest with
        | none => none
        | some (right, rest) => operators fuel tightness (.and left right) rest
      else some (left, tokens)
    | .keyword .is :: .keyword .null :: rest =>
      if tightness ≤ 4 then operators fuel tightness (.isNull left) rest else some (left, tokens)
    | .keyword .like :: rest =>
      if tightness ≤ 4 then
        match expression fuel 5 rest with
        | none => none
        | some (pattern, .keyword .escape :: rest) =>
          match expression fuel 6 rest with
          | none => none
          | some (escape, rest) =>
            operators fuel tightness (.likeEscape left pattern escape) rest
        | some (pattern, rest) => operators fuel tightness (.like left pattern) rest
      else some (left, tokens)
    | .symbol .plus :: rest =>
      if tightness ≤ 7 then
        match expression fuel 8 rest with
        | none => none
        | some (right, rest) => operators fuel tightness (.add left right) rest
      else some (left, tokens)
    | .symbol symbol :: rest =>
      match comparison? symbol with
      | none => some (left, tokens)
      | some (comparison, level) =>
        if tightness ≤ level then
          match expression fuel (level + 1) rest with
          | none => none
          | some (right, rest) => operators fuel tightness (.compare comparison left right) rest
        else some (left, tokens)
    | _ => some (left, tokens)

/-- The expression that a list of tokens begins with. Its operators bind as tightly as is asked
for: `OR` least, then `AND`, `NOT`, the equalities, the other comparisons, `ESCAPE` and `+`. -/
def expression : Nat → Nat → List Token → Option (Expression (List Char) × List Token)
  | 0, _, _ => none
  | fuel + 1, tightness, tokens =>
    match operand fuel tokens with
    | none => none
    | some (left, rest) => operators fuel tightness left rest

end

end Andromeda.Library.Sql
