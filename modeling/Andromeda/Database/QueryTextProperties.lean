import Andromeda.Database.QueryCriteriaProperties
import Andromeda.Database.QueryProperties

/-! The conditions of a query and the texts they are sent as: both put together the same text with
the same parameters, and SQLite finds the rows of which that text holds. -/

set_option autoImplicit false

namespace Andromeda.Database

open Andromeda.Library

section Texts

variable {δ : Type}

private theorem implode_eq_intercalate (glue : List Char) (parts : List (List Char)) :
    Text.implode glue parts = glue.intercalate parts := by
  induction parts with
  | nil => rfl
  | cons part rest ih =>
      cases rest with
      | nil => simp [Text.implode]
      | cons next rest => rw [List.intercalate_cons_cons, ← ih]; simp [Text.implode]

private theorem equals_text (builder : QueryBuilder δ) (key : String) (value : MixedValue δ) :
    QueryText.equals builder key.toList value =
      ((builder.equals key value).1.text.toList, (builder.equals key value).2) := by
  simp [QueryText.equals, QueryText.compare, QueryBuilder.equals, Comparison.text]

theorem notEquals_text (builder : QueryBuilder δ) (key : String) (value : MixedValue δ) :
    QueryText.notEquals builder key.toList value =
      ((builder.notEquals key value).1.text.toList, (builder.notEquals key value).2) := by
  simp [QueryText.notEquals, QueryText.compare, QueryBuilder.notEquals, Comparison.text]

theorem equalsNull_text (key : String) :
    QueryText.equalsNull key.toList = (QueryBuilder.equalsNull key).text.toList := by
  simp [QueryText.equalsNull, QueryText.isNull, QueryBuilder.equalsNull, Condition.text,
    Comparison.text]

theorem notEqualsNull_text (key : String) :
    QueryText.notEqualsNull key.toList = (QueryBuilder.notEqualsNull key).text.toList := by
  simp [QueryText.notEqualsNull, QueryText.isNull, QueryText.not, QueryBuilder.notEqualsNull,
    Condition.text, Comparison.text]

private theorem manyEquals_text (builder : QueryBuilder δ) (key : String) (values : List CString) :
    QueryText.manyEquals builder key.toList values =
      ((builder.manyEquals key values).1.map fun comparison => comparison.text.toList,
        (builder.manyEquals key values).2) := by
  induction values generalizing builder with
  | nil => rfl
  | cons value rest ih =>
      rw [QueryText.manyEquals, equals_text]
      simp only [ih, QueryBuilder.manyEquals, List.map_cons]

theorem manyEqualsOr_text (builder : QueryBuilder δ) (key : String) (values : List CString) :
    QueryText.manyEqualsOr builder key.toList values =
      ((builder.manyEqualsOr key values).1.text.toList, (builder.manyEqualsOr key values).2) := by
  rw [QueryText.manyEqualsOr, manyEquals_text]
  simp [QueryBuilder.manyEqualsOr, Condition.text, implode_eq_intercalate, Function.comp_def]

end Texts

section Values

variable {δ : Type} [DecidableEq δ] (sqlite : Sqlite δ)

/-- The operators of SQL on SQLite's values; those that no condition uses are given. -/
def Sqlite.operators (others : Sql.Operators (SqliteValue δ)) : Sql.Operators (SqliteValue δ) :=
  { others with
    null := .null
    isNull := fun value => decide (value = .null)
    compare := fun comparison left right =>
      match comparison with
      | .equals => left.eqv sqlite right
      | .notEquals => Sql.Truth.not (left.eqv sqlite right)
      | _ => others.compare comparison left right }

/-- The expression a comparison stands for, with its placeholder. -/
def Comparison.expression : Comparison → Sql.Expression String
  | .isNull key => .isNull (.column key.toList)
  | .equals key param => .compare .equals (.column key.toList) (.param param)
  | .notEquals key param => .compare .notEquals (.column key.toList) (.param param)

def Condition.expression : Condition → Option (Sql.Expression String)
  | .compare comparison => some comparison.expression
  | .not comparison => some (.not comparison.expression)
  | .anyOf [] => none
  | .anyOf (first :: rest) =>
    some (Sql.Connective.or.chain first.expression (rest.map Comparison.expression))

private theorem orElse_eq_or (left right : Option Bool) :
    orElse left right = Sql.Truth.or left right := by
  rcases left with _ | _ | _ <;> rcases right with _ | _ | _ <;> rfl

variable {sqlite} (others : Sql.Operators (SqliteValue δ))
  {params : List (String × SqliteValue δ)} {row : String → SqliteValue δ}

private theorem Comparison.eval_eq_holds (comparison : Comparison) :
    comparison.eval sqlite params row =
      (comparison.expression.map fun param => (params.lookup param).getD .null).holds
        (sqlite.operators others) fun column => row (String.ofList column) := by
  cases comparison with
  | isNull key =>
      simp [Comparison.eval, Comparison.expression, Sql.Expression.map, Sql.Expression.holds,
        Sql.Expression.eval, Sqlite.operators, others.truth_ofTruth]
  | equals key param =>
      simp [Comparison.eval, Comparison.expression, Sql.Expression.map, Sql.Expression.holds,
        Sql.Expression.eval, Sqlite.operators, others.truth_ofTruth]
  | notEquals key param =>
      simp [Comparison.eval, Comparison.expression, Sql.Expression.map, Sql.Expression.holds,
        Sql.Expression.eval, Sqlite.operators, others.truth_ofTruth, Sql.Truth.not]

private theorem foldr_eval (comparisons : List Comparison) :
    comparisons.foldr (fun comparison => orElse (comparison.eval sqlite params row)) (some false) =
      (comparisons.map fun comparison =>
        (comparison.expression.map fun param => (params.lookup param).getD .null).holds
          (sqlite.operators others) fun column => row (String.ofList column)).foldr
        Sql.Connective.or.truth Sql.Connective.or.unit := by
  induction comparisons with
  | nil => rfl
  | cons comparison rest ih =>
      rw [List.foldr_cons, orElse_eq_or, ih, comparison.eval_eq_holds others]
      rfl

private theorem Condition.eval_eq_holds {condition : Condition} {expression : Sql.Expression String}
    (stands : condition.expression = some expression) :
    condition.eval sqlite params row =
      (expression.map fun param => (params.lookup param).getD .null).holds
        (sqlite.operators others) fun column => row (String.ofList column) := by
  cases condition with
  | compare comparison =>
      cases stands
      exact comparison.eval_eq_holds others
  | not comparison =>
      cases stands
      rw [Condition.eval, comparison.eval_eq_holds others]
      simp [Sql.Expression.map, Sql.Expression.holds, Sql.Expression.eval, Sql.Truth.not,
        (sqlite.operators others).truth_ofTruth]
  | anyOf comparisons =>
      cases comparisons with
      | nil => cases stands
      | cons first rest =>
          cases stands
          rw [Sql.Connective.map_chain, Sql.Connective.holds_chain, List.map_map]
          exact (foldr_eval others (first :: rest)).trans (by simp [Function.comp_def])

/-- A query finds the rows of which the expression of its condition holds. -/
theorem Condition.matches_iff_holds [Zero δ] {condition : Condition} {expression : Sql.Expression String}
    (stands : condition.expression = some expression) {params : List (String × MixedValue δ)} :
    condition.matches sqlite params row = true ↔ ∃ bound, bindAll sqlite params = some bound ∧
      (expression.map fun param => (bound.lookup param).getD .null).holds (sqlite.operators others)
        (fun column => row (String.ofList column)) = some true := by
  simp only [Condition.matches_iff, Condition.eval_eq_holds others stands]

end Values

end Andromeda.Database
