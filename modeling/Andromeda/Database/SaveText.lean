import Andromeda.Database.Fields
import Andromeda.Library.Sql.Statement
import Andromeda.Text.StringUtil

/-! The texts and parameters of the queries that objects are saved with. -/

set_option autoImplicit false

namespace Andromeda.Database

open Andromeda.Library

variable {δ ω : Type} [DecidableEq δ] [Zero δ]

/-- `GetClassTableName`. -/
def classTableName (className : List Char) : List Char :=
  let pieces := Text.explode className ['\\'] 0 false (2 ^ 64 - 1)
  let pieces := pieces.tail -- no Andromeda_ prefix
  "a2obj_".toList ++ (Text.implode ['_'] pieces).map Char.toLower

/-- A class of objects, whose table has a name. -/
structure SavedClass where
  className : List Char
  table : Sql.Name
  named : classTableName className = table.text

/-- Fields of an object that are passed to a save, by their names. -/
structure FieldList (δ ω : Type) where
  fields : List (Sql.Name × Field δ ω)
  distinct : (fields.map fun field => field.1.text).Nodup

/-- The column of the IDs. -/
def idName : Sql.Name where
  text := "id".toList
  filled := by decide
  word := List.all_eq_true.mp (by decide)
  notNumber := fun symbol first => by
    cases first
    rfl
  notKeyword := by decide

/-- The ID field of an object that was created. Nothing sets it again. -/
def createdIdField (id : String) : Field δ ω :=
  .scalar .text ((ScalarType.construct "" none).1.setValue id false).1

/-- An object that was created and has not been saved, with its fields in any order. -/
structure CreatedObject (δ ω : Type) [DecidableEq δ] [Zero δ] where
  id : String
  fields : List (Sql.Name × Field δ ω)
  distinct : (fields.map fun field => field.1.text).Nodup
  idField : (idName, createdIdField id) ∈ fields

/-- The fields that `Save` passes on. -/
def CreatedObject.modifiedFields (object : CreatedObject δ ω) : FieldList δ ω where
  fields := object.fields.filter fun field => field.2.isModified
  distinct := object.distinct.sublist (List.filter_sublist.map _)

/-- The parameters of a query. -/
abbrev Params (δ : Type) := List (String × Value δ)

/-- `emplace`, which keeps what is there. -/
def Params.emplace (data : Params δ) (name : String) (val : Value δ) : Params δ :=
  if (data.lookup name).isSome then data else data ++ [(name, val)]

section

variable (codec : Codec δ ω)

/-- The loop of `UpdateObject_Query`. -/
def updateLoop : List (Sql.Name × Field δ ω) → List (List Char) → Params δ → Nat →
    Except Exception (List (List Char) × Params δ)
  | [], sets, data, _ => .ok (sets, data)
  | (name, field) :: rest, sets, data, i =>
    let key := name.text
    match field.getDBValue codec with
    | .error exception => .error exception
    | .ok val =>
      if val = .null then updateLoop rest (sets ++ [key ++ "=NULL".toList]) data i
      else
        let istr := toString i
        if field.useDBIncrement then
          updateLoop rest
            (sets ++ [key ++ "=".toList ++ key ++ "+:d".toList ++ istr.toList])
            (data.emplace (":d" ++ istr) val) (i + 1)
        else
          updateLoop rest (sets ++ [key ++ "=:d".toList ++ istr.toList])
            (data.emplace (":d" ++ istr) val) (i + 1)

/-- The query that `UpdateObject_Query` sends, if there is anything to do. -/
def updateObjectText (className : List Char) (id : String)
    (fields : List (Sql.Name × Field δ ω)) :
    Except Exception (Option (List Char × Params δ)) :=
  match updateLoop codec fields [] [(":id", .text id)] 0 with
  | .error exception => .error exception
  | .ok (sets, data) =>
    if sets.isEmpty then .ok none -- nothing to do
    else
      let setstr := Text.implode ", ".toList sets
      .ok (some ("UPDATE ".toList ++ classTableName className ++ " SET ".toList ++ setstr ++
        " WHERE id=:id".toList, data))

/-- The loop of `InsertObject_Query`. -/
def insertLoop : List (Sql.Name × Field δ ω) → List (List Char) → List (List Char) → Params δ →
    Nat → Except Exception (List (List Char) × List (List Char) × Params δ)
  | [], columns, indexes, data, _ => .ok (columns, indexes, data)
  | (name, field) :: rest, columns, indexes, data, i =>
    let key := name.text
    match field.getDBValue codec with
    | .error exception => .error exception
    | .ok val =>
      if val = .null then
        insertLoop rest (columns ++ [key]) (indexes ++ ["NULL".toList]) data i
      else
        let istr := toString i
        insertLoop rest (columns ++ [key]) (indexes ++ [(":d" ++ istr).toList])
          (data.emplace (":d" ++ istr) val) (i + 1)

/-- The query that `InsertObject_Query` sends. -/
def insertObjectText (className : List Char) (fields : List (Sql.Name × Field δ ω)) :
    Except Exception (List Char × Params δ) :=
  match insertLoop codec fields [] [] [] 0 with
  | .error exception => .error exception
  | .ok (columns, indexes, data) =>
    let colstr := Text.implode ",".toList columns
    let idxstr := Text.implode ",".toList indexes
    .ok ("INSERT INTO ".toList ++ classTableName className ++ " (".toList ++ colstr ++
      ") VALUES (".toList ++ idxstr ++ ")".toList, data)

end

section Meaning

variable {ν κ : Type} [DecidableEq κ] (operators : Sql.Operators ν) (bind : Value δ → ν)

/-- The value of a column that is set to a field's value. -/
def savedValue (val : Value δ) : ν := if val = .null then operators.null else bind val

/-- What an UPDATE makes of a column: it changes a counter by its delta, and sets the others. -/
def updatedValue (field : Field δ ω) (val : Value δ) (old : ν) : ν :=
  match field with
  | .counter counter => operators.add old (bind (.integer counter.delta))
  | _ => savedValue operators bind val

/-- What an INSERT makes of a column: a counter is its delta. -/
def insertedValue (field : Field δ ω) (val : Value δ) : ν :=
  match field with
  | .counter counter => bind (.integer counter.delta)
  | _ => savedValue operators bind val

/-- A row with the columns of the fields saved. -/
def updatedRow (codec : Codec δ ω) (fields : List (Sql.Name × Field δ ω)) (row : List Char → ν) :
    List Char → ν := fun column =>
  match fields.find? fun field => field.1.text = column with
  | none => row column
  | some (_, field) =>
    match field.getDBValue codec with
    | .error _ => row column
    | .ok val => updatedValue operators bind field val (row column)

/-- A new row with the columns of the fields. -/
def insertedRow (codec : Codec δ ω) (fields : List (Sql.Name × Field δ ω))
    (defaults : List Char → ν) : List Char → ν := fun column =>
  match fields.find? fun field => field.1.text = column with
  | none => defaults column
  | some (_, field) =>
    match field.getDBValue codec with
    | .error _ => defaults column
    | .ok val => insertedValue operators bind field val

/-- The tables with the columns of the fields set in the row with the ID. -/
def updatedTables (codec : Codec δ ω) (table : List Char) (id : String)
    (fields : List (Sql.Name × Field δ ω)) (tables : Sql.Tables κ ν) : Sql.Tables κ ν :=
  fun name key =>
    if name = table then
      (tables name key).map fun row =>
        if operators.compare .equals (row "id".toList) (bind (.text id)) = some true then
          updatedRow operators bind codec fields row
        else row
    else tables name key

/-- The tables with a new row of the fields at a place. -/
def insertedTables (codec : Codec δ ω) (defaults : List Char → List Char → ν) (place : κ)
    (table : List Char) (fields : List (Sql.Name × Field δ ω)) (tables : Sql.Tables κ ν) :
    Sql.Tables κ ν := fun name key =>
  if name = table ∧ key = place then
    some (insertedRow operators bind codec fields (defaults table))
  else tables name key

/-- The value of a placeholder; one that is not bound is null. -/
def paramValue (data : Params δ) (name : List Char) : ν :=
  ((data.lookup (String.ofList (':' :: name))).map bind).getD operators.null

/-- A query is one statement, has each of its placeholders once in its text and once in its
parameters, and does this to the tables. -/
def Executes (defaults : List Char → List Char → ν) (place : κ) (tables : Sql.Tables κ ν)
    (sent : List Char × Params δ) (result : Sql.Tables κ ν) : Prop :=
  ∃ tokens statement, Sql.lex sent.1 = some tokens ∧ Sql.parseStatement tokens = some statement ∧
    (sent.2.map Prod.fst).Nodup ∧
    ((Sql.placeholders tokens).map fun name => String.ofList (':' :: name)).Perm
      (sent.2.map Prod.fst) ∧
    (statement.map (paramValue operators bind sent.2)).run operators defaults place tables = result

end Meaning

end Andromeda.Database
