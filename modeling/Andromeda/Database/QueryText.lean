import Andromeda.Database.QueryBuilder
import Andromeda.Text.StringUtil

/-! The texts that a `QueryBuilder` puts together. -/

set_option autoImplicit false

namespace Andromeda.Database

/-- `EscapeWildcards`: the underscore, the percent sign and the backslash. -/
def escapeWildcards (q : StdString) : StdString := Text.escapeAll q [95, 37] 92

/-- The value that `Like` binds; one that has a match of its own is bound as it is. -/
def likeValue (val : StdString) (hasMatch : Bool) : StdString :=
  if hasMatch then val else [37] ++ escapeWildcards val ++ [37]

/-- A `QueryBuilder` with its clauses. -/
structure QueryClauses (δ : Type) extends QueryBuilder δ where
  whereText : List Char
  orderBy : List Char
  orderDesc : Bool
  limit : Option Nat
  offset : Option Nat

namespace QueryText

variable {δ : Type}

/-- `IsNull`. -/
def isNull (key : List Char) : List Char := key ++ " IS NULL".toList

/-- `Like`. -/
def like (builder : QueryBuilder δ) (key : List Char) (val : StdString) (hasMatch : Bool) :
    List Char × QueryBuilder δ :=
  let (idx, builder) := builder.addParam (.string (likeValue val hasMatch))
  (key ++ " LIKE ".toList ++ idx.toList ++ " ESCAPE '\\'".toList, builder)

/-- A column, an operator and the placeholder of a value. -/
def compare (operator : String) (builder : QueryBuilder δ) (key : List Char)
    (val : MixedValue δ) : List Char × QueryBuilder δ :=
  let (idx, builder) := builder.addParam val
  (key ++ operator.toList ++ idx.toList, builder)

/-- `LessThan`. -/
def lessThan (builder : QueryBuilder δ) : List Char → MixedValue δ → List Char × QueryBuilder δ :=
  compare " < " builder

/-- `LessThanEquals`. -/
def lessThanEquals (builder : QueryBuilder δ) :
    List Char → MixedValue δ → List Char × QueryBuilder δ :=
  compare " <= " builder

/-- `GreaterThan`. -/
def greaterThan (builder : QueryBuilder δ) :
    List Char → MixedValue δ → List Char × QueryBuilder δ :=
  compare " > " builder

/-- `GreaterThanEquals`. -/
def greaterThanEquals (builder : QueryBuilder δ) :
    List Char → MixedValue δ → List Char × QueryBuilder δ :=
  compare " >= " builder

/-- `IsTrue`. -/
def isTrue (builder : QueryBuilder δ) (key : List Char) : List Char × QueryBuilder δ :=
  greaterThan builder key (.int 0)

/-- `Equals`. -/
def equals (builder : QueryBuilder δ) : List Char → MixedValue δ → List Char × QueryBuilder δ :=
  compare " = " builder

/-- `NotEquals`. -/
def notEquals (builder : QueryBuilder δ) : List Char → MixedValue δ → List Char × QueryBuilder δ :=
  compare " <> " builder

/-- `Not`. -/
def not (arg : List Char) : List Char := "(NOT ".toList ++ arg ++ ")".toList

/-- `Or`. -/
def or (strs : List (List Char)) : List Char :=
  "(".toList ++ Text.implode " OR ".toList strs ++ ")".toList

/-- `And`. -/
def and (strs : List (List Char)) : List Char :=
  "(".toList ++ Text.implode " AND ".toList strs ++ ")".toList

/-- `Equals` with `nullptr`. -/
def equalsNull (key : List Char) : List Char := isNull key

/-- `NotEquals` with `nullptr`. -/
def notEqualsNull (key : List Char) : List Char := not (isNull key)

/-- The parts of `ManyEqualsOr`. -/
def manyEquals (builder : QueryBuilder δ) (key : List Char) :
    List CString → List (List Char) × QueryBuilder δ
  | [] => ([], builder)
  | val :: rest =>
    let (part, builder) := equals builder key (.chars val)
    let (parts, builder) := manyEquals builder key rest
    (part :: parts, builder)

/-- `ManyEqualsOr`. -/
def manyEqualsOr (builder : QueryBuilder δ) (key : List Char) (vals : List CString) :
    List Char × QueryBuilder δ :=
  let (parts, builder) := manyEquals builder key vals
  ("(".toList ++ Text.implode " OR ".toList parts ++ ")".toList, builder)

end QueryText

namespace QueryClauses

variable {δ : Type}

/-- A new `QueryBuilder`. -/
def new : QueryClauses δ where
  paramIdx := 0
  params := []
  whereText := []
  orderBy := []
  orderDesc := false
  limit := none
  offset := none

/-- `Where`. -/
def where_ (clauses : QueryClauses δ) (text : List Char) : QueryClauses δ :=
  if text ≠ [] ∧ clauses.whereText ≠ [] then
    { clauses with whereText := QueryText.and [clauses.whereText, text] }
  else { clauses with whereText := text }

/-- `GetText`. -/
def getText (clauses : QueryClauses δ) : List Char :=
  let query := if clauses.whereText ≠ [] then " WHERE ".toList ++ clauses.whereText else []
  let query :=
    if clauses.orderBy ≠ [] then
      query ++ " ORDER BY ".toList ++ clauses.orderBy ++
        if clauses.orderDesc then " DESC".toList else []
    else query
  let query :=
    match clauses.limit with
    | none => query
    | some limit => query ++ " LIMIT ".toList ++ (toString limit).toList
  let query :=
    match clauses.offset with
    | none => query
    | some offset => query ++ " OFFSET ".toList ++ (toString offset).toList
  Text.trim query

end QueryClauses

end Andromeda.Database
