import Andromeda.Database.QueryText
import Andromeda.Library.Sql.Reading

/-! The boolean expressions that are built with a `QueryBuilder`: what they mean, and the calls that
build them and set them as its conditions. -/

set_option autoImplicit false

namespace Andromeda.Database

open Andromeda.Library

/-- A comparison that is built by one call. -/
inductive Leaf (δ : Type) where
  | isNull (key : Sql.Name)
  | like (key : Sql.Name) (val : StdString) (hasMatch : Bool)
  | compare (comparison : Sql.Comparison) (key : Sql.Name) (val : MixedValue δ)
  | isTrue (key : Sql.Name)
  | equalsNull (key : Sql.Name)
  | notEqualsNull (key : Sql.Name)
  | manyEqualsOr (key : Sql.Name) (first : CString) (rest : List CString)

/-- A boolean expression; `And` and `Or` have one or more arguments. -/
inductive Criterion (δ : Type) where
  | leaf (leaf : Leaf δ)
  | not (criterion : Criterion δ)
  | connect (connective : Sql.Connective) (first : Criterion δ) (rest : List (Criterion δ))

section Meaning

variable {δ ν : Type} (operators : Sql.Operators ν) (bind : MixedValue δ → ν)
  (row : List Char → ν)

/-- Whether a comparison is true of a row. -/
def Leaf.holds : Leaf δ → Sql.Truth
  | .isNull key => some (operators.isNull (row key.text))
  | .like key val hasMatch =>
    operators.like (row key.text) (bind (.string (likeValue val hasMatch)))
      (some (operators.text ['\\']))
  | .compare comparison key val => operators.compare comparison (row key.text) (bind val)
  | .isTrue key => operators.compare .greater (row key.text) (bind (.int 0))
  | .equalsNull key => some (operators.isNull (row key.text))
  | .notEqualsNull key => some (!operators.isNull (row key.text))
  | .manyEqualsOr key first rest =>
    ((first :: rest).map fun val => operators.compare .equals (row key.text) (bind (.chars val))).foldr
      Sql.Truth.or (some false)

mutual

/-- Whether an expression is true of a row. -/
def Criterion.holds : Criterion δ → Sql.Truth
  | .leaf single => single.holds operators bind row
  | .not criterion => criterion.holds.not
  | .connect connective first rest => connective.truth first.holds (Criterion.holdAll connective rest)

def Criterion.holdAll (connective : Sql.Connective) : List (Criterion δ) → Sql.Truth
  | [] => connective.unit
  | criterion :: rest => connective.truth criterion.holds (Criterion.holdAll connective rest)

end

end Meaning

section Calls

variable {δ : Type}

/-- The call that builds a comparison. -/
def Leaf.build (builder : QueryBuilder δ) : Leaf δ → List Char × QueryBuilder δ
  | .isNull key => (QueryText.isNull key.text, builder)
  | .like key val hasMatch => QueryText.like builder key.text val hasMatch
  | .compare .equals key val => QueryText.equals builder key.text val
  | .compare .notEquals key val => QueryText.notEquals builder key.text val
  | .compare .less key val => QueryText.lessThan builder key.text val
  | .compare .lessEquals key val => QueryText.lessThanEquals builder key.text val
  | .compare .greater key val => QueryText.greaterThan builder key.text val
  | .compare .greaterEquals key val => QueryText.greaterThanEquals builder key.text val
  | .isTrue key => QueryText.isTrue builder key.text
  | .equalsNull key => (QueryText.equalsNull key.text, builder)
  | .notEqualsNull key => (QueryText.notEqualsNull key.text, builder)
  | .manyEqualsOr key first rest => QueryText.manyEqualsOr builder key.text (first :: rest)

/-- `And` or `Or`. -/
def connectText : Sql.Connective → List (List Char) → List Char
  | .and => QueryText.and
  | .or => QueryText.or

/-- A text that was built, with the expression that it was built for. -/
structure Built (δ : Type) where
  text : List Char
  criterion : Criterion δ

/-- A call of a `QueryBuilder`; its arguments are texts that were built before, by their places in
the order in which they were. -/
inductive BuilderCall (δ : Type) where
  | leaf (leaf : Leaf δ)
  | not (arg : Nat)
  | connect (connective : Sql.Connective) (first : Nat) (rest : List Nat)
  | where_ (arg : Nat)

/-- A `QueryBuilder` with the texts that it has built and the expressions that `Where` has been
called with. -/
structure Building (δ : Type) where
  clauses : QueryClauses δ
  built : List (Built δ)
  criteria : List (Criterion δ)

namespace Building

def new : Building δ := ⟨QueryClauses.new, [], []⟩

/-- A call. -/
def step (building : Building δ) : BuilderCall δ → Building δ
  | .leaf leaf =>
    let (text, builder) := leaf.build building.clauses.toQueryBuilder
    { building with
      clauses := { building.clauses with toQueryBuilder := builder }
      built := building.built ++ [⟨text, .leaf leaf⟩] }
  | .not arg =>
    match building.built[arg]? with
    | none => building
    | some arg =>
      { building with built := building.built ++ [⟨QueryText.not arg.text, .not arg.criterion⟩] }
  | .connect connective first rest =>
    match building.built[first]? with
    | none => building
    | some first =>
      let rest := rest.filterMap (building.built[·]?)
      { building with
        built := building.built ++
          [⟨connectText connective ((first :: rest).map Built.text),
            .connect connective first.criterion (rest.map Built.criterion)⟩] }
  | .where_ arg =>
    match building.built[arg]? with
    | none => building
    | some arg =>
      { building with
        clauses := building.clauses.where_ arg.text
        criteria := building.criteria ++ [arg.criterion] }

end Building

/-- The value that a placeholder is bound to. -/
def QueryBuilder.value (builder : QueryBuilder δ) (name : List Char) : Option (MixedValue δ) :=
  builder.params.lookup (String.ofList (':' :: name))

end Calls

end Andromeda.Database
