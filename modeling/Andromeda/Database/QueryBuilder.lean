import Andromeda.Database.StoredFields

/-! Conditions of a query: the texts and parameters a `QueryBuilder` gives, and the rows that
SQLite matches with them. -/

set_option autoImplicit false

namespace Andromeda.Database

variable {δ : Type}

/-- A comparison of a column with a parameter, or with null. -/
inductive Comparison where
  | isNull (key : String)
  | equals (key param : String)
  | notEquals (key param : String)
  deriving DecidableEq

/-- A condition built of comparisons. -/
inductive Condition where
  | compare (comparison : Comparison)
  | not (comparison : Comparison)
  | anyOf (comparisons : List Comparison)
  deriving DecidableEq

def Comparison.text : Comparison → String
  | .isNull key => key ++ " IS NULL"
  | .equals key param => key ++ " = " ++ param
  | .notEquals key param => key ++ " <> " ++ param

/-- The text of a condition. -/
def Condition.text : Condition → String
  | .compare comparison => comparison.text
  | .not comparison => "(NOT " ++ comparison.text ++ ")"
  | .anyOf comparisons => "(" ++ " OR ".intercalate (comparisons.map Comparison.text) ++ ")"

/-- The parameters of a `QueryBuilder`. -/
structure QueryBuilder (δ : Type) where
  paramIdx : Nat
  params : List (String × MixedValue δ)

namespace QueryBuilder

/-- `AddParam`. -/
def addParam (builder : QueryBuilder δ) (value : MixedValue δ) : String × QueryBuilder δ :=
  let idx := ":d" ++ toString builder.paramIdx
  (idx, ⟨builder.paramIdx + 1,
    if (builder.params.lookup idx).isSome then builder.params
    else builder.params ++ [(idx, value)]⟩)

/-- `Equals`. -/
def equals (builder : QueryBuilder δ) (key : String) (value : MixedValue δ) :
    Comparison × QueryBuilder δ :=
  let (param, builder) := builder.addParam value
  (.equals key param, builder)

/-- `NotEquals`. -/
def notEquals (builder : QueryBuilder δ) (key : String) (value : MixedValue δ) :
    Comparison × QueryBuilder δ :=
  let (param, builder) := builder.addParam value
  (.notEquals key param, builder)

/-- `Equals` with `nullptr`. -/
def equalsNull (key : String) : Condition := .compare (.isNull key)

/-- `NotEquals` with `nullptr`. -/
def notEqualsNull (key : String) : Condition := .not (.isNull key)

/-- The comparisons of `ManyEqualsOr`. -/
def manyEquals (builder : QueryBuilder δ) (key : String) :
    List CString → List Comparison × QueryBuilder δ
  | [] => ([], builder)
  | value :: rest =>
    let (comparison, builder) := builder.equals key (.chars value)
    let (comparisons, builder) := builder.manyEquals key rest
    (comparison :: comparisons, builder)

/-- `ManyEqualsOr`. -/
def manyEqualsOr (builder : QueryBuilder δ) (key : String) (values : List CString) :
    Condition × QueryBuilder δ :=
  let (comparisons, builder) := builder.manyEquals key values
  (.anyOf comparisons, builder)

end QueryBuilder

section Matching

variable [DecidableEq δ] (sqlite : Sqlite δ)

/-- `=` of SQLite: unknown with null, and never true of different storage classes, apart from
numbers. -/
def SqliteValue.eqv : SqliteValue δ → SqliteValue δ → Option Bool
  | .null, _ => none
  | _, .null => none
  | .text left, .text right => some (left = right)
  | .blob left, .blob right => some (left = right)
  | .integer left, .integer right => some (left = right)
  | .real left, .real right => some (left = right)
  | .integer left, .real right => some (sqlite.integerToReal left = right)
  | .real left, .integer right => some (left = sqlite.integerToReal right)
  | _, _ => some false

/-- The parameters of a query, bound. -/
def bindAll : List (String × MixedValue δ) → Option (List (String × SqliteValue δ))
  | [] => some []
  | (name, value) :: rest =>
    match value.bind sqlite, bindAll rest with
    | some bound, some others => some ((name, bound) :: others)
    | _, _ => none

/-- What a comparison is of a row; a parameter that is not bound is null. -/
def Comparison.eval (params : List (String × SqliteValue δ)) (row : String → SqliteValue δ) :
    Comparison → Option Bool
  | .isNull key => some (row key = .null)
  | .equals key param => (row key).eqv sqlite ((params.lookup param).getD .null)
  | .notEquals key param =>
    ((row key).eqv sqlite ((params.lookup param).getD .null)).map (!·)

/-- `OR` of SQLite. -/
def orElse (left right : Option Bool) : Option Bool :=
  match left, right with
  | some true, _ => some true
  | _, some true => some true
  | some false, some false => some false
  | _, _ => none

/-- What a condition is of a row. -/
def Condition.eval (params : List (String × SqliteValue δ)) (row : String → SqliteValue δ) :
    Condition → Option Bool
  | .compare comparison => comparison.eval sqlite params row
  | .not comparison => (comparison.eval sqlite params row).map (!·)
  | .anyOf comparisons =>
    comparisons.foldr (fun comparison => orElse (comparison.eval sqlite params row)) (some false)

/-- Whether a query returns a row; one whose parameters cannot be bound throws. -/
def Condition.matches (condition : Condition) (params : List (String × MixedValue δ))
    (row : String → SqliteValue δ) : Bool :=
  match bindAll sqlite params with
  | none => false
  | some bound => condition.eval sqlite bound row == some true

/-- Whether `Equals` of a new builder finds a row. -/
def findsEqual (row : String → SqliteValue δ) (key : String) (value : MixedValue δ) : Bool :=
  let (comparison, builder) := (⟨0, []⟩ : QueryBuilder δ).equals key value
  (Condition.compare comparison).matches sqlite builder.params row

/-- Whether `ManyEqualsOr` of a new builder finds a row. -/
def findsAny (row : String → SqliteValue δ) (key : String) (values : List CString) : Bool :=
  let (condition, builder) := (⟨0, []⟩ : QueryBuilder δ).manyEqualsOr key values
  condition.matches sqlite builder.params row

end Matching

end Andromeda.Database
