import Andromeda.Library.Sql.Reading

/-! The statements of SQL that change a table: how they are read and what they do to its rows. -/

set_option autoImplicit false

namespace Andromeda.Library.Sql

variable {ρ ν κ : Type*}

/-- An `UPDATE` of the rows that meet a condition, or an `INSERT` of a row. -/
inductive Statement (ρ : Type*) where
  | update (table : List Char) (sets : List (List Char × Expression ρ)) (condition : Expression ρ)
  | insert (table : List Char) (columns : List (List Char)) (values : List (Expression ρ))

namespace Statement

/-- The statement with other parameters. -/
def map {σ : Type*} (change : ρ → σ) : Statement ρ → Statement σ
  | update table sets condition =>
    update table (sets.map fun set => (set.1, set.2.map change)) (condition.map change)
  | insert table columns values => insert table columns (values.map (Expression.map change))

end Statement

/-- The rows of tables, by their places. -/
abbrev Tables (κ ν : Type*) := List Char → κ → Option (List Char → ν)

/-- What a statement does. An `UPDATE` reads the old row, and a column that an `INSERT` does not give
has its default value. -/
def Statement.run [DecidableEq κ] (operators : Operators ν) (defaults : List Char → List Char → ν)
    (place : κ) (tables : Tables κ ν) : Statement ν → Tables κ ν
  | .update table sets condition => fun name key =>
    if name = table then
      (tables name key).map fun row =>
        if condition.holds operators row = some true then
          fun column =>
            match sets.lookup column with
            | none => row column
            | some value => value.eval operators row
        else row
    else tables name key
  | .insert table columns values => fun name key =>
    if name = table ∧ key = place then
      some fun column =>
        match (columns.zip values).lookup column with
        | none => defaults table column
        | some value => value.eval operators fun _ => operators.null
    else tables name key

/-- The columns of an `UPDATE` and their new values. -/
def parseSets : Nat → List Token → Option (List (List Char × Expression (List Char)) × List Token)
  | 0, _ => none
  | fuel + 1, .name column :: .symbol .equals :: rest =>
    match expression (2 * rest.length + 2) 1 rest with
    | none => none
    | some (value, .symbol .comma :: rest) =>
      match parseSets fuel rest with
      | none => none
      | some (sets, rest) => some ((column, value) :: sets, rest)
    | some (value, rest) => some ([(column, value)], rest)
  | _, _ => none

/-- A list of names, up to the closing parenthesis. -/
def parseNames : List Token → Option (List (List Char) × List Token)
  | .name name :: .symbol .closing :: rest => some ([name], rest)
  | .name name :: .symbol .comma :: rest =>
    match parseNames rest with
    | none => none
    | some (names, rest) => some (name :: names, rest)
  | _ => none

/-- A list of values, up to the closing parenthesis. -/
def parseValues : Nat → List Token → Option (List (Expression (List Char)) × List Token)
  | 0, _ => none
  | fuel + 1, tokens =>
    match expression (2 * tokens.length + 2) 1 tokens with
    | some (value, .symbol .closing :: rest) => some ([value], rest)
    | some (value, .symbol .comma :: rest) =>
      match parseValues fuel rest with
      | none => none
      | some (values, rest) => some (value :: values, rest)
    | _ => none

/-- The statement that a list of tokens is. No column is given twice. -/
def parseStatement : List Token → Option (Statement (List Char))
  | .keyword .update :: .name table :: .keyword .set :: rest =>
    match parseSets rest.length rest with
    | some (sets, condition) =>
      match parseWhere condition with
      | none => none
      | some condition =>
        if (sets.map Prod.fst).Nodup then some (.update table sets condition) else none
    | none => none
  | .keyword .insert :: .keyword .into :: .name table :: .symbol .opening :: rest =>
    match parseNames rest with
    | some (columns, .keyword .values :: .symbol .opening :: rest) =>
      match parseValues rest.length rest with
      | some (values, []) =>
        if values.length = columns.length ∧ columns.Nodup then
          some (.insert table columns values)
        else none
      | _ => none
    | _ => none
  | _ => none

/-- The placeholders of a statement, in their order. -/
def placeholders (tokens : List Token) : List (List Char) :=
  tokens.filterMap fun token =>
    match token with
    | .param name => some name
    | _ => none

@[simp] theorem placeholders_append (first second : List Token) :
    placeholders (first ++ second) = placeholders first ++ placeholders second :=
  List.filterMap_append

@[simp] theorem placeholders_flatMap {α : Type*} (list : List α) (tokens : α → List Token) :
    placeholders (list.flatMap tokens) = list.flatMap fun element => placeholders (tokens element) :=
  List.filterMap_flatMap

section Reading

variable {rest : List Token}

theorem reads_param (name : List Char) : ReadsWhole [.param name] (.param name) := by
  intro fuel rest closed enough
  simp only [List.length_cons, List.length_nil] at enough
  obtain ⟨less, rfl⟩ : ∃ less, fuel = less + 2 := ⟨fuel - 2, by omega⟩
  simp only [expression, List.cons_append, operand]
  exact operators_closed closed

theorem reads_null : ReadsWhole [.keyword .null] .null := by
  intro fuel rest closed enough
  simp only [List.length_cons, List.length_nil] at enough
  obtain ⟨less, rfl⟩ : ∃ less, fuel = less + 2 := ⟨fuel - 2, by omega⟩
  simp only [expression, List.cons_append, operand]
  exact operators_closed closed

theorem reads_add (column name : List Char) :
    ReadsWhole [.name column, .symbol .plus, .param name] (.add (.column column) (.param name)) := by
  intro fuel rest closed enough
  simp only [List.length_cons, List.length_nil] at enough
  obtain ⟨less, rfl⟩ : ∃ less, fuel = less + 4 := ⟨fuel - 4, by omega⟩
  have right : expression (less + 2) 8 (.param name :: rest) = some (.param name, rest) :=
    expression_param (ends_of_closes closed) (by omega)
  have sum : operators (less + 3) 1 (.column column) (.symbol .plus :: .param name :: rest) =
      some (.add (.column column) (.param name), rest) :=
    (operators_plus (by omega) right).trans (operators_closed closed)
  rw [expression]
  exact sum

/-- A value that is set, or given: its tokens and its expression. -/
abbrev Reading := List Token × Expression (List Char)

/-- Columns with their new values, separated by commas. -/
theorem parseSets_reads (column : List Char) (value : Reading)
    (others : List (List Char × Reading)) (reads : ReadsWhole value.1 value.2)
    (each : ∀ other ∈ others, ReadsWhole other.2.1 other.2.2) (fuel : Nat)
    (enough : others.length < fuel) (rest : List Token) :
    parseSets fuel (.name column :: .symbol .equals :: (value.1 ++
        (others.flatMap fun other =>
          .symbol .comma :: .name other.1 :: .symbol .equals :: other.2.1) ++
        .keyword .where_ :: rest)) =
      some ((column, value.2) :: others.map fun other => (other.1, other.2.2),
        .keyword .where_ :: rest) := by
  induction others generalizing column value fuel with
  | nil =>
      obtain ⟨less, rfl⟩ : ∃ less, fuel = less + 1 := ⟨fuel - 1, by omega⟩
      have read := reads (2 * (value.1 ++ .keyword .where_ :: rest).length + 2)
        (.keyword .where_ :: rest) rfl (by simp)
      simp only [List.flatMap_nil, List.append_nil, parseSets, read]
      rfl
  | cons second others ih =>
      obtain ⟨less, rfl⟩ : ∃ less, fuel = less + 1 := ⟨fuel - 1, by omega⟩
      obtain ⟨head, tail⟩ := List.forall_mem_cons.mp each
      simp only [List.flatMap_cons, List.cons_append, List.append_assoc, parseSets]
      rw [reads _ _ rfl (by simp)]
      have next := ih second.1 second.2 head tail less (by simpa using enough)
      simp only [List.append_assoc] at next
      simp only [next, List.map_cons]

/-- Names separated by commas. -/
theorem parseNames_reads (name : List Char) (others : List (List Char)) (rest : List Token) :
    parseNames (.name name :: ((others.flatMap fun other => [.symbol .comma, .name other]) ++
        .symbol .closing :: rest)) = some (name :: others, rest) := by
  induction others generalizing name with
  | nil => rfl
  | cons second others ih =>
      simp only [List.flatMap_cons, List.cons_append, List.nil_append, parseNames, ih second]

/-- Values separated by commas. -/
theorem parseValues_reads (value : Reading) (others : List Reading)
    (reads : ReadsWhole value.1 value.2) (each : ∀ other ∈ others, ReadsWhole other.1 other.2)
    (fuel : Nat) (enough : others.length < fuel) (rest : List Token) :
    parseValues fuel (value.1 ++ (others.flatMap fun other => .symbol .comma :: other.1) ++
        .symbol .closing :: rest) = some (value.2 :: others.map Prod.snd, rest) := by
  induction others generalizing value fuel with
  | nil =>
      obtain ⟨less, rfl⟩ : ∃ less, fuel = less + 1 := ⟨fuel - 1, by omega⟩
      have read := reads (2 * (value.1 ++ .symbol .closing :: rest).length + 2)
        (.symbol .closing :: rest) rfl (by simp)
      simp only [List.flatMap_nil, List.append_nil, parseValues, read]
      rfl
  | cons second others ih =>
      obtain ⟨less, rfl⟩ : ∃ less, fuel = less + 1 := ⟨fuel - 1, by omega⟩
      obtain ⟨head, tail⟩ := List.forall_mem_cons.mp each
      simp only [List.flatMap_cons, List.cons_append, List.append_assoc, parseValues]
      rw [reads _ _ rfl (by simp)]
      have next := ih second head tail less (by simpa using enough)
      simp only [List.append_assoc] at next
      simp only [next, List.map_cons]

end Reading

end Andromeda.Library.Sql
