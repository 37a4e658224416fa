import Andromeda.Database.MixedValue

/-! What fields give to a query and read back from a row: each field type with the values it is
assigned, the column it is saved to and the field a later load makes of that column. -/

set_option autoImplicit false

namespace Andromeda.Database

variable {δ ω : Type} [DecidableEq δ] [Zero δ]

/-- `dump` and `parse` of the JSON library; both may throw. A value is finite if JSON has a text for
it: no infinite number, NaN, binary or discarded value in it. An integer is one value whether it is
held signed or unsigned, and another than the equal double. -/
structure JsonLibrary (ω : Type) where
  dump : ω → Option StdString
  parse : StdString → Option ω
  finite : ω → Bool

/-- `CounterType`, with the width of its integers. -/
structure Counter where
  value : Int32
  delta : Int32
  deriving DecidableEq

/-- `ObjectRef` and `NullObjectRef` without their cached pointer. -/
structure Reference where
  objId : StdString
  delta : Int
  deriving DecidableEq

/-- The value a field shows. -/
inductive FieldValue (δ ω : Type) where
  | null
  | scalar (kind : ScalarKind) (value : kind.Data δ)
  | json (value : ω)
  | object (objId : StdString)

section Fields

variable (sqlite : Sqlite δ)

namespace ScalarType

variable (kind : ScalarKind)

/-- `GetDBValue`. -/
def getDBValue (field : ScalarType (kind.Data δ)) : Except Exception (MixedValue δ) :=
  if field.realInitd then .ok (kind.toMixed field.realValue) else .error .database

/-- `InitDBValue`. -/
def initDBValue (value : MixedValue δ) : Except Exception (ScalarType (kind.Data δ)) :=
  if value.isNull sqlite then .error .database
  else
    match kind.getTo sqlite value with
    | .error exception => .error exception
    | .ok data => .ok ⟨true, data, true, data, 0⟩

/-- `GetValue`. -/
def shown (field : ScalarType (kind.Data δ)) : FieldValue δ ω :=
  if field.tempInitd then .scalar kind field.tempValue else .null

end ScalarType

namespace NullScalarType

variable (kind : ScalarKind)

/-- `GetDBValue`. -/
def getDBValue (field : NullScalarType (kind.Data δ)) : MixedValue δ :=
  if field.realNull then .null else kind.toMixed field.realValue

/-- `InitDBValue`. -/
def initDBValue (value : MixedValue δ) (field : NullScalarType (kind.Data δ)) :
    Except Exception (NullScalarType (kind.Data δ)) :=
  if value.isNull sqlite then .ok { field with tempNull := true, realNull := true, delta := 0 }
  else
    match kind.getTo sqlite value with
    | .error exception => .error exception
    | .ok data => .ok ⟨false, data, false, data, 0⟩

/-- `TryGetValue`. -/
def shown (field : NullScalarType (kind.Data δ)) : FieldValue δ ω :=
  if field.tempNull then .null else .scalar kind field.tempValue

end NullScalarType

namespace Counter

/-- `DeltaValue`. -/
def deltaValue (field : Counter) (delta : Int32) : Counter :=
  if delta = 0 then field else ⟨field.value + delta, field.delta + delta⟩

/-- `GetDBValue`. -/
def getDBValue (field : Counter) : MixedValue δ := .int field.delta

/-- `InitDBValue`. -/
def initDBValue (value : MixedValue δ) : Except Exception Counter :=
  match value.getInt sqlite with
  | .error exception => .error exception
  | .ok data => .ok ⟨data, 0⟩

end Counter

namespace JsonType

variable (json : JsonLibrary ω)

/-- `GetDBValue`. -/
def getDBValue (field : JsonType ω) : Except Exception (MixedValue δ) :=
  match field.json with
  | none => .ok .null
  | some value =>
    match json.dump value with
    | none => .error .other
    | some text => .ok (.string text)

/-- `InitDBValue`. -/
def initDBValue (value : MixedValue δ) : Except Exception (JsonType ω) :=
  if value.isNull sqlite then .ok ⟨none, 0⟩
  else
    match value.getString sqlite with
    | .error exception => .error exception
    | .ok text =>
      match json.parse text with
      | none => .error .database
      | some parsed => .ok ⟨some parsed, 0⟩

/-- `TryGetJson`. -/
def shown (field : JsonType ω) : FieldValue δ ω :=
  match field.json with
  | none => .null
  | some value => .json value

end JsonType

namespace Reference

/-- `SetObject`, of an object's ID, or of the empty one for null. -/
def setObject (field : Reference) (objId : StdString) : Reference :=
  if field.objId = objId then field else ⟨objId, field.delta + 1⟩

/-- `GetDBValue` of an `ObjectRef`. -/
def getDBValue (field : Reference) : Except Exception (MixedValue δ) :=
  if field.objId = [] then .error .database else .ok (.string field.objId)

/-- `GetDBValue` of a `NullObjectRef`. -/
def getDBValueNull (field : Reference) : MixedValue δ :=
  if field.objId = [] then .null else .string field.objId

/-- `InitDBValue` of an `ObjectRef`. -/
def initDBValue (value : MixedValue δ) : Except Exception Reference :=
  if value.isNull sqlite then .error .database
  else
    match value.getString sqlite with
    | .error exception => .error exception
    | .ok objId => .ok ⟨objId, 0⟩

/-- `InitDBValue` of a `NullObjectRef`. -/
def initDBValueNull (value : MixedValue δ) (field : Reference) : Except Exception Reference :=
  if value.isNull sqlite then .ok { field with delta := 0 }
  else
    match value.getString sqlite with
    | .error exception => .error exception
    | .ok objId => .ok ⟨objId, 0⟩

/-- The object a reference names. -/
def shown (field : Reference) : FieldValue δ ω :=
  if field.objId = [] then .null else .object field.objId

end Reference

end Fields

/-- The query that saves a field: an INSERT, or an UPDATE of what the column holds. -/
inductive Statement (δ : Type) where
  | insert
  | update (old : SqliteValue δ)

/-- The column after `InsertObject_Query` or `UpdateObject_Query`. Null is written out and not
bound; an UPDATE adds a relative increment. -/
def Statement.write (sqlite : Sqlite δ) (statement : Statement δ) (useDBIncrement : Bool)
    (value : MixedValue δ) : Except Exception (SqliteValue δ) :=
  if value.isNull sqlite then .ok .null
  else
    match value.bind sqlite with
    | none => .error .database
    | some bound =>
      match statement, useDBIncrement, bound with
      | .update old, true, .integer added => .ok (old.plus sqlite added)
      | _, _, _ => .ok bound

/-- A value assigned to a field of each type, in any state. A counter is new, or loaded from a
column that holds null or an integer; the ID of an object is not empty. -/
inductive Assignment (δ ω : Type) where
  | scalar (kind : ScalarKind) (field : ScalarType (kind.Data δ)) (value : kind.Data δ)
  | nullScalar (kind : ScalarKind) (field : NullScalarType (kind.Data δ))
      (value : Option (kind.Data δ))
  | counter (loaded : Option (Option Int32)) (delta : Int32)
  | json (field : JsonType ω) (value : Option ω)
  | objectRef (field : Reference) (objId : StdString) (named : objId ≠ [])
  | nullObjectRef (field : Reference) (objId : StdString)

namespace Assignment

variable (sqlite : Sqlite δ) (json : JsonLibrary ω)

/-- A counter's column before, and the query that saves it. -/
def counterStatement : Option (Option Int32) → Statement δ
  | none => .insert
  | some none => .update .null
  | some (some value) => .update (.integer value.toInt64)

/-- A counter before its value is changed. -/
def counterBefore (loaded : Option (Option Int32)) : Except Exception Counter :=
  match counterStatement (δ := δ) loaded with
  | .insert => .ok ⟨0, 0⟩
  | .update old => Counter.initDBValue sqlite (.sqlite old)

/-- The column the assigned value is saved to. -/
def column (statement : Statement δ) : Assignment δ ω → Except Exception (SqliteValue δ)
  | .scalar kind field value =>
    match ScalarType.getDBValue kind (field.setValue value false).1 with
    | .error exception => .error exception
    | .ok dbValue => statement.write sqlite false dbValue
  | .nullScalar kind field (some value) =>
    statement.write sqlite false (NullScalarType.getDBValue kind (field.setValue value false).1)
  | .nullScalar kind field none =>
    statement.write sqlite false (NullScalarType.getDBValue kind (field.setNull false).1)
  | .counter loaded delta =>
    match counterBefore sqlite loaded with
    | .error exception => .error exception
    | .ok field =>
      (counterStatement loaded).write sqlite true (field.deltaValue delta).getDBValue
  | .json field value =>
    match JsonType.getDBValue json (field.setJson value).1 with
    | .error exception => .error exception
    | .ok dbValue => statement.write sqlite false dbValue
  | .objectRef field objId _ =>
    match (field.setObject objId).getDBValue with
    | .error exception => .error exception
    | .ok dbValue => statement.write sqlite false dbValue
  | .nullObjectRef field objId =>
    statement.write sqlite false (field.setObject objId).getDBValueNull

/-- The value the field shows once it is assigned. -/
def value : Assignment δ ω → FieldValue δ ω
  | .scalar kind _ value => .scalar kind value
  | .nullScalar kind _ (some value) => .scalar kind value
  | .nullScalar _ _ none => .null
  | .counter loaded delta => .scalar .int ((loaded.join).getD 0 + delta : Int32)
  | .json _ (some value) => .json value
  | .json _ none => .null
  | .objectRef _ objId _ => .object objId
  | .nullObjectRef _ objId => if objId = [] then .null else .object objId

/-- The value a new field of the same type shows when it is loaded from a column. -/
def load (column : SqliteValue δ) : Assignment δ ω → Except Exception (FieldValue δ ω)
  | .scalar kind _ _ =>
    (ScalarType.initDBValue sqlite kind (.sqlite column)).map (ScalarType.shown kind)
  | .nullScalar kind _ _ =>
    (NullScalarType.initDBValue sqlite kind (.sqlite column)
      (NullScalarType.construct kind.zero none).1).map (NullScalarType.shown kind)
  | .counter _ _ =>
    (Counter.initDBValue sqlite (.sqlite column)).map fun field => .scalar .int field.value
  | .json _ _ => (JsonType.initDBValue sqlite json (.sqlite column)).map JsonType.shown
  | .objectRef _ _ _ => (Reference.initDBValue sqlite (.sqlite column)).map Reference.shown
  | .nullObjectRef _ _ =>
    (Reference.initDBValueNull sqlite (.sqlite column) ⟨[], 0⟩).map Reference.shown

/-- What a load gives back of a value that was assigned and saved. -/
def reload (statement : Statement δ) (assignment : Assignment δ ω) :
    Except Exception (FieldValue δ ω) :=
  match assignment.column sqlite json statement with
  | .error exception => .error exception
  | .ok column => assignment.load sqlite json column

end Assignment

end Andromeda.Database
