import Andromeda.Library.Sql.Expression

/-! Lists of tokens that read as an expression wherever they stand, and how such lists are put
together. -/

set_option autoImplicit false

namespace Andromeda.Library.Sql

variable {ρ ν : Type*}

/-- `AND` or `OR`. -/
inductive Connective where
  | and
  | or
  deriving DecidableEq

namespace Connective

def keyword : Connective → Keyword
  | and => .and
  | or => .or

def tightness : Connective → Nat
  | and => 2
  | or => 1

def combine : Connective → Expression ρ → Expression ρ → Expression ρ
  | and => .and
  | or => .or

def truth : Connective → Truth → Truth → Truth
  | and => .and
  | or => .or

/-- The truth of no operands. -/
def unit : Connective → Truth
  | and => some true
  | or => some false

private theorem truth_assoc (connective : Connective) (first second third : Truth) :
    connective.truth (connective.truth first second) third =
      connective.truth first (connective.truth second third) := by
  cases connective with
  | and => exact Truth.and_assoc first second third
  | or => exact Truth.or_assoc first second third

private theorem truth_unit (connective : Connective) (value : Truth) :
    connective.truth value connective.unit = value := by
  cases connective with
  | and => exact Truth.and_true value
  | or => exact Truth.or_false value

/-- Operands one after the other, joined from the left. -/
def chain (connective : Connective) (first : Expression ρ) (rest : List (Expression ρ)) :
    Expression ρ :=
  rest.foldl connective.combine first

private theorem holds_combine (connective : Connective) (operators : Operators ν)
    (row : List Char → ν)
    (left right : Expression ν) :
    (connective.combine left right).holds operators row =
      connective.truth (left.holds operators row) (right.holds operators row) := by
  cases connective with
  | and => simp [combine, truth, Expression.holds, Expression.eval, operators.truth_ofTruth]
  | or => simp [combine, truth, Expression.holds, Expression.eval, operators.truth_ofTruth]

/-- A chain is true as its operands are, all or any of them. -/
theorem holds_chain (connective : Connective) (operators : Operators ν) (row : List Char → ν)
    (first : Expression ν) (rest : List (Expression ν)) :
    (connective.chain first rest).holds operators row =
      ((first :: rest).map (Expression.holds operators row)).foldr connective.truth
        connective.unit := by
  induction rest generalizing first with
  | nil => simp [chain, truth_unit]
  | cons second rest ih =>
      have joined : connective.chain first (second :: rest) =
          connective.chain (connective.combine first second) rest := rfl
      rw [joined, ih]
      simp [holds_combine, truth_assoc]

theorem map_chain {σ : Type*} (connective : Connective) (change : ρ → σ) (first : Expression ρ)
    (rest : List (Expression ρ)) :
    (connective.chain first rest).map change =
      connective.chain (first.map change) (rest.map (Expression.map change)) := by
  induction rest generalizing first with
  | nil => rfl
  | cons second rest ih =>
      have combined : (connective.combine first second).map change =
          connective.combine (first.map change) (second.map change) := by
        cases connective <;> rfl
      have joined : connective.chain first (second :: rest) =
          connective.chain (connective.combine first second) rest := rfl
      rw [joined, ih, combined]
      rfl

end Connective

/-- Whether an expression ends before a list of tokens. -/
def closes : List Token → Bool
  | [] => true
  | .symbol .closing :: _ => true
  | .symbol .comma :: _ => true
  | .keyword .where_ :: _ => true
  | _ => false

/-- Whether an expression ends there, or goes on with a connective. -/
def ends : List Token → Bool
  | .keyword .and :: _ => true
  | .keyword .or :: _ => true
  | tokens => closes tokens

theorem ends_of_closes {tokens : List Token} (closed : closes tokens = true) :
    ends tokens = true := by
  unfold ends
  split
  · rfl
  · rfl
  · exact closed

private theorem ends_keyword (connective : Connective) (tokens : List Token) :
    ends (.keyword connective.keyword :: tokens) = true := by
  cases connective <;> rfl

section Operators

attribute [local simp] operand operators expression

variable {fuel tightness level : Nat} {left right : Expression (List Char)}
  {rest later : List Token}

theorem operators_closed (closed : closes rest = true) :
    operators (fuel + 1) tightness left rest = some (left, rest) := by
  unfold closes at closed
  split at closed
  · rfl
  · rfl
  · rfl
  · rfl
  · cases closed

private theorem operators_loose (connective : Connective)
    (loose : connective.tightness < tightness) :
    operators (fuel + 1) tightness left (.keyword connective.keyword :: rest) =
      some (left, .keyword connective.keyword :: rest) := by
  cases connective with
  | and =>
      have not_ : ¬ tightness ≤ 2 := Nat.not_le.mpr loose
      simp [Connective.keyword, not_]
  | or =>
      have not_ : ¬ tightness ≤ 1 := Nat.not_le.mpr loose
      simp [Connective.keyword, not_]

private theorem operators_ended (ended : ends rest = true) (tight : 2 < tightness) :
    operators (fuel + 1) tightness left rest = some (left, rest) := by
  unfold ends at ended
  split at ended
  · next more => exact operators_loose .and tight
  · next more => exact operators_loose .or (Nat.lt_trans Nat.one_lt_two tight)
  · exact operators_closed ended

private theorem operators_connective {connective : Connective}
    (tight : tightness ≤ connective.tightness)
    (read : expression fuel (connective.tightness + 1) rest = some (right, later)) :
    operators (fuel + 1) tightness left (.keyword connective.keyword :: rest) =
      operators fuel tightness (connective.combine left right) later := by
  cases connective with
  | and =>
      rw [Connective.tightness] at read tight
      simp [Connective.keyword, Connective.combine, tight, read]
  | or =>
      rw [Connective.tightness] at read tight
      simp [Connective.keyword, Connective.combine, tight, read]

private theorem operators_comparison {symbol : Symbol} {comparison : Comparison}
    (found : comparison? symbol = some (comparison, level)) (tight : tightness ≤ level)
    (read : expression fuel (level + 1) rest = some (right, later)) :
    operators (fuel + 1) tightness left (.symbol symbol :: rest) =
      operators fuel tightness (.compare comparison left right) later := by
  cases symbol with
  | opening => cases found
  | closing => cases found
  | comma => cases found
  | plus => cases found
  | _ =>
      cases found
      simp only [operators, comparison?, if_pos tight, read]

theorem operators_plus (tight : tightness ≤ 7)
    (read : expression fuel 8 rest = some (right, later)) :
    operators (fuel + 1) tightness left (.symbol .plus :: rest) =
      operators fuel tightness (.add left right) later := by
  simp only [operators, if_pos tight, read]

private theorem operators_isNull (tight : tightness ≤ 4) :
    operators (fuel + 1) tightness left (.keyword .is :: .keyword .null :: rest) =
      operators fuel tightness (.isNull left) rest := by
  simp only [operators, if_pos tight]

private theorem operators_escape :
    operators (fuel + 1) tightness left (.keyword .escape :: rest) =
      some (left, .keyword .escape :: rest) := rfl

private theorem operators_like {pattern mark : Expression (List Char)} {escape : List Token}
    (tight : tightness ≤ 4)
    (patternRead : expression fuel 5 rest = some (pattern, .keyword .escape :: escape))
    (markRead : expression fuel 6 escape = some (mark, later)) :
    operators (fuel + 1) tightness left (.keyword .like :: rest) =
      operators fuel tightness (.likeEscape left pattern mark) later := by
  simp only [operators, if_pos tight, patternRead, markRead]

end Operators

/-- Tokens that read as an expression where it may go on with a connective. -/
def Reads (tokens : List Token) (expr : Expression (List Char)) : Prop :=
  ∀ fuel tightness rest, tightness ≤ 4 → ends rest = true →
    2 * (tokens.length + rest.length) + 2 ≤ fuel →
    ∃ more, 2 * rest.length + 1 ≤ more ∧
      expression fuel tightness (tokens ++ rest) = operators more tightness expr rest

/-- Tokens that read as an expression where it ends. -/
def ReadsWhole (tokens : List Token) (expr : Expression (List Char)) : Prop :=
  ∀ fuel rest, closes rest = true → 2 * (tokens.length + rest.length) + 2 ≤ fuel →
    expression fuel 1 (tokens ++ rest) = some (expr, rest)

section Reads

variable {tokens : List Token} {expr : Expression (List Char)}

theorem Reads.whole (reads : Reads tokens expr) : ReadsWhole tokens expr := by
  intro fuel rest closed enough
  obtain ⟨more, positive, read⟩ := reads fuel 1 rest (by omega) (ends_of_closes closed) enough
  obtain ⟨less, rfl⟩ : ∃ less, more = less + 1 := ⟨more - 1, by omega⟩
  rw [read, operators_closed closed]

private theorem reads_operand {name : List Char} (tail : List Token)
    (reads : ∀ fuel tightness rest, tightness ≤ 4 → ends rest = true →
      2 * (tail.length + rest.length) + 3 ≤ fuel → ∃ more, 2 * rest.length + 1 ≤ more ∧
        operators fuel tightness (.column name) (tail ++ rest) = operators more tightness expr rest) :
    Reads (.name name :: tail) expr := by
  intro fuel tightness rest tight ended enough
  obtain ⟨less, rfl⟩ : ∃ less, fuel = less + 2 := ⟨fuel - 2, by simp at enough; omega⟩
  simp only [List.length_cons] at enough
  simp only [expression, List.cons_append, operand]
  exact reads (less + 1) tightness rest tight ended (by omega)

theorem expression_param {name : List Char} {fuel tightness : Nat} {rest : List Token}
    (ended : ends rest = true) (tight : 2 < tightness) :
    expression (fuel + 2) tightness (.param name :: rest) = some (.param name, rest) := by
  simp only [expression, operand]
  exact operators_ended ended tight

theorem reads_comparison {name param : List Char} {symbol : Symbol} {comparison : Comparison}
    {level : Nat} (found : comparison? symbol = some (comparison, level)) :
    Reads [.name name, .symbol symbol, .param param]
      (.compare comparison (.column name) (.param param)) := by
  have levels : 4 ≤ level := by
    cases symbol <;> simp [comparison?] at found <;> omega
  apply reads_operand
  intro fuel tightness rest tight ended enough
  simp only [List.length_cons, List.length_nil] at enough
  obtain ⟨less, rfl⟩ : ∃ less, fuel = less + 3 := ⟨fuel - 3, by omega⟩
  refine ⟨less + 2, by omega, ?_⟩
  exact operators_comparison found (by omega) (expression_param ended (by omega))

theorem reads_isNull {name : List Char} :
    Reads [.name name, .keyword .is, .keyword .null] (.isNull (.column name)) := by
  apply reads_operand
  intro fuel tightness rest tight ended enough
  simp only [List.length_cons, List.length_nil] at enough
  obtain ⟨less, rfl⟩ : ∃ less, fuel = less + 1 := ⟨fuel - 1, by omega⟩
  exact ⟨less, by omega, operators_isNull tight⟩

theorem reads_like {name param escape : List Char} :
    Reads [.name name, .keyword .like, .param param, .keyword .escape, .quoted escape]
      (.likeEscape (.column name) (.param param) (.text escape)) := by
  apply reads_operand
  intro fuel tightness rest tight ended enough
  simp only [List.length_cons, List.length_nil] at enough
  obtain ⟨less, rfl⟩ : ∃ less, fuel = less + 4 := ⟨fuel - 4, by omega⟩
  have pattern : expression (less + 3) 5
      (.param param :: .keyword .escape :: .quoted escape :: rest) =
      some (.param param, .keyword .escape :: .quoted escape :: rest) := by
    simp only [expression, operand]
    exact operators_escape
  have mark : expression (less + 3) 6 (.quoted escape :: rest) = some (.text escape, rest) := by
    simp only [expression, operand]
    exact operators_ended ended (by omega)
  exact ⟨less + 3, by omega, operators_like tight pattern mark⟩

/-- Parentheses around an expression. -/
theorem ReadsWhole.parens (reads : ReadsWhole tokens expr) :
    Reads (.symbol .opening :: (tokens ++ [.symbol .closing])) expr := by
  intro fuel tightness rest tight ended enough
  simp only [List.length_cons, List.length_append, List.length_nil] at enough
  obtain ⟨less, rfl⟩ : ∃ less, fuel = less + 2 := ⟨fuel - 2, by omega⟩
  have inner := reads less (.symbol .closing :: rest) rfl (by simp only [List.length_cons]; omega)
  refine ⟨less + 1, by omega, ?_⟩
  have split : .symbol .opening :: (tokens ++ [.symbol .closing]) ++ rest =
      .symbol .opening :: (tokens ++ .symbol .closing :: rest) := by simp
  rw [split]
  simp only [expression, operand, inner]

theorem Reads.not (reads : Reads tokens expr) : ReadsWhole (.keyword .not :: tokens) (.not expr) := by
  intro fuel rest closed enough
  simp only [List.length_cons] at enough
  obtain ⟨less, rfl⟩ : ∃ less, fuel = less + 2 := ⟨fuel - 2, by omega⟩
  obtain ⟨more, positive, read⟩ := reads less 3 rest (by omega) (ends_of_closes closed) (by omega)
  obtain ⟨enoughLeft, rfl⟩ : ∃ left, more = left + 1 := ⟨more - 1, by omega⟩
  rw [operators_closed closed] at read
  simp only [expression, List.cons_append, operand, read]
  exact operators_closed closed

/-- Operands joined by a connective. -/
theorem Reads.chain (reads : Reads tokens expr) (connective : Connective)
    (operands : List (List Token × Expression (List Char)))
    (each : ∀ operand ∈ operands, Reads operand.1 operand.2) :
    ReadsWhole (tokens ++ operands.flatMap fun operand => .keyword connective.keyword :: operand.1)
      (connective.chain expr (operands.map Prod.snd)) := by
  have loop (operands : List (List Token × Expression (List Char)))
      (each : ∀ operand ∈ operands, Reads operand.1 operand.2) (rest : List Token)
      (closed : closes rest = true) (left : Expression (List Char)) (fuel : Nat)
      (enough : 2 * ((operands.flatMap fun operand =>
        .keyword connective.keyword :: operand.1).length + rest.length) + 1 ≤ fuel) :
      operators fuel 1 left
          ((operands.flatMap fun operand => .keyword connective.keyword :: operand.1) ++ rest) =
        some (connective.chain left (operands.map Prod.snd), rest) := by
    induction operands generalizing left fuel with
    | nil =>
        obtain ⟨less, rfl⟩ : ∃ less, fuel = less + 1 := ⟨fuel - 1, by omega⟩
        exact operators_closed closed
    | cons first others ih =>
        obtain ⟨head, tail⟩ := List.forall_mem_cons.mp each
        simp only [List.flatMap_cons, List.cons_append, List.append_assoc, List.length_cons,
          List.length_append] at enough ⊢
        obtain ⟨less, rfl⟩ : ∃ less, fuel = less + 1 := ⟨fuel - 1, by omega⟩
        have ended : ends ((others.flatMap fun operand =>
            .keyword connective.keyword :: operand.1) ++ rest) = true := by
          cases others with
          | nil => exact ends_of_closes closed
          | cons second others => exact ends_keyword connective _
        have levels : connective.tightness + 1 ≤ 4 ∧ 1 ≤ connective.tightness := by
          cases connective <;> decide
        obtain ⟨more, positive, read⟩ := head less (connective.tightness + 1) _ levels.1 ended
          (by simp only [List.length_append]; omega)
        obtain ⟨enoughLeft, rfl⟩ : ∃ left, more = left + 1 := ⟨more - 1, by omega⟩
        have stopped : operators (enoughLeft + 1) (connective.tightness + 1) first.2
            ((others.flatMap fun operand => .keyword connective.keyword :: operand.1) ++ rest) =
            some (first.2, (others.flatMap fun operand =>
              .keyword connective.keyword :: operand.1) ++ rest) := by
          cases others with
          | nil => exact operators_closed closed
          | cons second others => exact operators_loose connective (Nat.lt_succ_self _)
        rw [operators_connective levels.2 (read.trans stopped)]
        exact ih tail (connective.combine left first.2) less (by omega)
  intro fuel rest closed enough
  simp only [List.length_append] at enough
  have ended : ends ((operands.flatMap fun operand =>
      .keyword connective.keyword :: operand.1) ++ rest) = true := by
    cases operands with
    | nil => exact ends_of_closes closed
    | cons first others => exact ends_keyword connective _
  obtain ⟨more, positive, read⟩ := reads fuel 1 _ (by omega) ended
    (by simp only [List.length_append]; omega)
  rw [List.append_assoc, read]
  exact loop operands each rest closed expr more (by simpa only [List.length_append] using positive)

end Reads

/-- The condition after `WHERE`. -/
def parseWhere : List Token → Option (Expression (List Char))
  | .keyword .where_ :: rest =>
    match expression (2 * rest.length + 2) 1 rest with
    | some (condition, []) => some condition
    | _ => none
  | _ => none

theorem ReadsWhole.parseWhere {tokens : List Token} {expr : Expression (List Char)}
    (reads : ReadsWhole tokens expr) : parseWhere (.keyword .where_ :: tokens) = some expr := by
  have read := reads (2 * tokens.length + 2) [] rfl (by simp)
  rw [List.append_nil] at read
  simp [Sql.parseWhere, read]

end Andromeda.Library.Sql
