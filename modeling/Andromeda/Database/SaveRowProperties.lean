import Andromeda.Database.SaveProperties
import Andromeda.Database.SaveQueryProperties

/-! The tables that the texts of saves leave are the contents that the object database is described
with. -/

set_option autoImplicit false
set_option linter.unusedSectionVars false

namespace Andromeda.Database

open Andromeda.Library

section

variable {δ ω : Type} [DecidableEq δ] [Zero δ] {codec : Codec δ ω}
  {operators : Sql.Operators (Value δ)}

/-- SQL's null, `+` and `=` are those of the object database. -/
structure Implements (codec : Codec δ ω) (operators : Sql.Operators (Value δ)) : Prop where
  null : operators.null = codec.stored .null
  add : ∀ value delta, operators.add value (codec.stored (.integer delta)) = codec.add value delta
  equals : ∀ left right, operators.compare .equals (.text left) (.text right) =
    some (decide (left = right))

/-- The contents of the database as tables of SQL, with each row at its ID. -/
def Contents.tables (rows : Contents δ) : Sql.Tables String (Value δ) := fun table id =>
  (rows (String.ofList table, id)).map fun row column => row (String.ofList column)

/-- The fields, by their columns' names as strings. -/
def columnFields (fields : List (Sql.Name × Field δ ω)) : List (String × Field δ ω) :=
  fields.map fun field => (String.ofList field.1.text, field.2)

private theorem Implements.savedValue (implements : Implements codec operators) (val : Value δ) :
    savedValue operators codec.stored val = codec.stored val := by
  unfold Database.savedValue
  split
  · next null => rw [null, implements.null]
  · rfl

private theorem Implements.setter (implements : Implements codec operators) {field : Field δ ω}
    {val : Value δ}
    (got : field.getDBValue codec = .ok val) (old : Value δ) :
    (setterOf field val).apply codec old =
      updatedValue operators codec.stored field val old := by
  cases field with
  | counter counter =>
      have delta : Value.integer counter.delta = val := Except.ok.inj got
      subst delta
      exact (implements.add old counter.delta).symm
  | _ =>
      unfold updatedValue setterOf
      dsimp only
      rw [implements.savedValue]
      split
      · next null =>
          rw [null]
          rfl
      · rfl

section Rows

variable {fields : List (Sql.Name × Field δ ω)} {values : List (String × Field δ ω × Value δ)}

private theorem find?_converted (converted : dbValues codec (columnFields fields) = .ok values)
    (column : List Char) :
    match values.find? fun entry => entry.1 = String.ofList column with
    | none => (fields.find? fun field => field.1.text = column) = none
    | some (_, field, val) =>
      field.getDBValue codec = .ok val ∧
        ∃ name, (fields.find? fun field => field.1.text = column) = some (name, field) := by
  obtain ⟨same, each⟩ := dbValues_spec converted
  have finds : (values.find? fun entry => entry.1 = String.ofList column).map
        (fun entry => (entry.1, entry.2.1)) =
      (fields.find? fun field => field.1.text = column).map
        fun field => (String.ofList field.1.text, field.2) := by
    have mapped := congrArg (List.find? fun field => field.1 = String.ofList column) same
    rw [columnFields, List.find?_map, List.find?_map] at mapped
    simpa [Function.comp_def, String.ofList_inj] using mapped
  cases found : values.find? fun entry => entry.1 = String.ofList column with
  | none =>
      rw [found] at finds
      exact Option.map_eq_none_iff.mp finds.symm
  | some entry =>
      rw [found] at finds
      obtain ⟨⟨name, field⟩, there, equal⟩ := Option.map_eq_some_iff.mp finds.symm
      obtain ⟨key, entryField, val⟩ := entry
      cases equal
      exact ⟨each _ (List.mem_of_find?_eq_some found), name, there⟩

private theorem Implements.updateRow_eq (implements : Implements codec operators)
    (converted : dbValues codec (columnFields fields) = .ok values) (row : Row δ)
    (column : List Char) :
    updateRow codec row (values.map fun entry => (entry.1, setterOf entry.2.1 entry.2.2))
        (String.ofList column) =
      updatedRow operators codec.stored codec fields (fun column => row (String.ofList column)) column := by
  have spec := find?_converted converted column
  unfold updateRow updatedRow
  rw [lookup_map_eq_find?]
  cases found : values.find? fun entry => entry.1 = String.ofList column with
  | none =>
      rw [found] at spec
      rw [spec]
      rfl
  | some entry =>
      obtain ⟨key, field, val⟩ := entry
      rw [found] at spec
      obtain ⟨got, name, there⟩ := spec
      rw [there]
      simp only [Option.map_some, got]
      exact implements.setter got _

private theorem Implements.insertRow_eq (implements : Implements codec operators)
    (converted : dbValues codec (columnFields fields) = .ok values) (column : List Char) :
    insertRow codec (values.map fun entry => (entry.1, entry.2.2)) (String.ofList column) =
      insertedRow operators codec.stored codec fields (fun _ => .null) column := by
  have spec := find?_converted converted column
  unfold insertRow insertedRow
  rw [lookup_map_eq_find?]
  cases found : values.find? fun entry => entry.1 = String.ofList column with
  | none =>
      rw [found] at spec
      rw [spec]
      rfl
  | some entry =>
      obtain ⟨key, field, val⟩ := entry
      rw [found] at spec
      obtain ⟨got, name, there⟩ := spec
      rw [there]
      simp only [Option.map_some, got]
      rw [insertedValue_eq got, implements.savedValue]

private theorem Implements.updatedTables_eq (implements : Implements codec operators)
    (converted : dbValues codec (columnFields fields) = .ok values) {rows : Contents δ}
    (keyed : ∀ key row, rows key = some row → row "id" = .text key.2) {table : List Char}
    {id : String} (kept : codec.stored (.text id) = .text id) {row : Row δ}
    (found : rows (String.ofList table, id) = some row) :
    updatedTables operators codec.stored codec table id fields rows.tables =
      Contents.tables (Function.update rows (String.ofList table, id) (some (updateRow codec row
        (values.map fun entry => (entry.1, setterOf entry.2.1 entry.2.2))))) := by
  funext name key
  unfold updatedTables Contents.tables
  by_cases sameTable : name = table
  · subst sameTable
    rw [if_pos rfl]
    by_cases sameKey : key = id
    · subst sameKey
      rw [Function.update_self, found]
      have own : row (String.ofList "id".toList) = .text key := keyed _ row found
      simp only [Option.map_some, own, kept, implements.equals, decide_true, if_true]
      refine congrArg some (funext fun column => ?_)
      exact (implements.updateRow_eq converted row column).symm
    · have differs : (String.ofList name, key) ≠ (String.ofList name, id) :=
        fun same => sameKey (congrArg Prod.snd same)
      rw [Function.update_of_ne differs]
      cases there : rows (String.ofList name, key) with
      | none => rfl
      | some other =>
          have own : other (String.ofList "id".toList) = .text key := keyed _ other there
          simp only [Option.map_some, own, kept, implements.equals, Option.some.injEq,
            decide_eq_true_eq, if_neg sameKey]
  · have differs : (String.ofList name, key) ≠ (String.ofList table, id) :=
      fun same => sameTable (String.ofList_inj.mp (congrArg Prod.fst same))
    rw [if_neg sameTable, Function.update_of_ne differs]

private theorem Implements.insertedTables_eq (implements : Implements codec operators)
    (converted : dbValues codec (columnFields fields) = .ok values) (rows : Contents δ)
    (table : List Char) (id : String) :
    insertedTables operators codec.stored codec (fun _ _ => .null) id table fields rows.tables =
      Contents.tables (Function.update rows (String.ofList table, id)
        (some (insertRow codec (values.map fun entry => (entry.1, entry.2.2))))) := by
  funext name key
  unfold insertedTables Contents.tables
  by_cases same : name = table ∧ key = id
  · obtain ⟨rfl, rfl⟩ := same
    rw [if_pos ⟨rfl, rfl⟩, Function.update_self]
    refine congrArg some (funext fun column => ?_)
    exact (implements.insertRow_eq converted column).symm
  · have differs : (String.ofList name, key) ≠ (String.ofList table, id) := fun equal =>
      same ⟨String.ofList_inj.mp (congrArg Prod.fst equal), congrArg Prod.snd equal⟩
    rw [if_neg same, Function.update_of_ne differs]

end Rows

/-- The text that updates an object leaves the contents that its UPDATE does. -/
theorem Implements.update_executes (implements : Implements codec operators) (saved : SavedClass)
    (fields : FieldList δ ω) {values : List (String × Field δ ω × Value δ)}
    (converted : dbValues codec (columnFields fields.fields) = .ok values) {rows : Contents δ}
    (keyed : ∀ key row, rows key = some row → row "id" = .text key.2) {id : String}
    (kept : codec.stored (.text id) = .text id) {row : Row δ}
    (found : rows (String.ofList saved.table.text, id) = some row) (place : String)
    {sent : List Char × Params δ}
    (text : updateObjectText codec saved.className id fields.fields = .ok (some sent)) :
    Executes operators codec.stored (fun _ _ => .null) place rows.tables sent
      (Contents.tables (Function.update rows (String.ofList saved.table.text, id)
        (some (updateRow codec row
          (values.map fun entry => (entry.1, setterOf entry.2.1 entry.2.2)))))) := by
  have executes := updateObjectText_executes codec operators codec.stored saved id fields
    (fun _ _ => .null) place rows.tables
  rw [text] at executes
  rw [← implements.updatedTables_eq converted keyed kept found]
  exact executes

/-- The text that inserts a created object leaves the contents that its INSERT does. -/
theorem Implements.insert_executes (implements : Implements codec operators) (saved : SavedClass)
    (created : CreatedObject δ ω) {values : List (String × Field δ ω × Value δ)}
    (converted : dbValues codec (columnFields created.modifiedFields.fields) = .ok values)
    (rows : Contents δ) {sent : List Char × Params δ}
    (text : insertObjectText codec saved.className created.modifiedFields.fields = .ok sent) :
    Executes operators codec.stored (fun _ _ => .null) created.id rows.tables sent
      (Contents.tables (Function.update rows (String.ofList saved.table.text, created.id)
        (some (insertRow codec (values.map fun entry => (entry.1, entry.2.2)))))) := by
  have executes := insertObjectText_executes codec operators codec.stored saved
    created.modifiedFields (fun _ _ => .null) created.id rows.tables
  rw [text] at executes
  rw [← implements.insertedTables_eq converted rows]
  have notEmpty := List.ne_nil_of_mem created.idField_mem
  cases fields : created.modifiedFields.fields with
  | nil => exact absurd fields notEmpty
  | cons field rest =>
      rw [fields] at executes
      exact executes

end

namespace Scenario

/-- Null, and numbers and texts that are compared for equality; other comparisons are unknown. -/
def operators : Sql.Operators (Value Int) where
  null := .null
  text data := .text (String.ofList data)
  ofTruth
    | none => .null
    | some truth => .integer (if truth then 1 else 0)
  truth
    | .integer value => some (value != 0)
    | _ => none
  truth_ofTruth value := by rcases value with _ | _ | _ <;> rfl
  isNull value := decide (value = .null)
  compare
    | .equals, left, right =>
      if left = .null ∨ right = .null then none else some (decide (left = right))
    | _, _, _ => none
  like _ _ _ := none
  add
    | value, .integer delta => codec.add value delta
    | _, _ => .null

private theorem implements : Implements codec operators where
  null := rfl
  add _ _ := rfl
  equals left right := by simp [operators]

def countName : Sql.Name where
  text := "count".toList
  filled := by decide
  word := List.all_eq_true.mp (by decide)
  notNumber := fun symbol first => by
    cases first
    rfl
  notKeyword := by decide

/-- The class of the settings and its table. -/
def savedSettings : SavedClass where
  className := "Andromeda\\Settings".toList
  table :=
    { text := "a2obj_settings".toList
      filled := by decide
      word := List.all_eq_true.mp (by decide)
      notNumber := fun symbol first => by
        cases first
        rfl
      notKeyword := by decide }
  named := by decide +kernel

/-- New settings with a counter that went up. -/
def createdSettings : CreatedObject Int Json where
  id := "a"
  fields := [(countName, .counter ⟨5, 5⟩), (idName, createdIdField "a")]
  distinct := by decide
  idField := List.mem_cons_of_mem _ List.mem_cons_self

/-- The query that inserts the new settings, and the row it leaves in an empty database. -/
theorem settings_queries : ∃ sent,
    insertObjectText codec savedSettings.className createdSettings.modifiedFields.fields =
      .ok sent ∧
    sent.1 = "INSERT INTO a2obj_settings (count,id) VALUES (:d0,:d1)".toList ∧
    Executes operators codec.stored (fun _ _ => .null) "a" (Contents.tables fun _ => none) sent
      (insertedTables operators codec.stored codec (fun _ _ => .null) "a"
        savedSettings.table.text createdSettings.modifiedFields.fields
        (Contents.tables fun _ => none)) ∧
    insertedRow operators codec.stored codec createdSettings.modifiedFields.fields (fun _ => .null)
      "id".toList = .text "a" := by
  obtain ⟨_, inserted, _, idColumn⟩ := saveObject_queries codec operators codec.stored savedSettings
    "a" createdSettings.modifiedFields createdSettings (fun _ _ => .null) "a"
    (Contents.tables fun _ => none)
  have built : insertObjectText codec savedSettings.className
      createdSettings.modifiedFields.fields =
        .ok ("INSERT INTO a2obj_settings (count,id) VALUES (:d0,:d1)".toList,
          [(":d0", .integer 5), (":d1", .text "a")]) := by
    decide +kernel
  rw [built] at inserted
  exact ⟨_, built, rfl, inserted, idColumn⟩

end Scenario

end Andromeda.Database
