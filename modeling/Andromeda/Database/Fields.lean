import Mathlib.Algebra.Ring.Int.Defs
import Mathlib.Algebra.Ring.Nat

/-! Database columns and the field types that hold them in memory: scalars, nullable
scalars, counters, JSON and object references. -/

set_option autoImplicit false

namespace Andromeda.Database

/-- A value as SQLite stores it. Doubles are taken up to `==`, and a NaN as equal to itself. -/
inductive Value (δ : Type) where
  | null
  | text (data : String)
  | integer (value : Int)
  | real (value : δ)
  deriving DecidableEq

/-- The exceptions that leave the database layer: its own, and those of others. -/
inductive Exception where
  | database
  | other
  deriving DecidableEq

/-- What SQLite's casts and its `+` do and what it stores of a value that is bound, and the JSON
library's `dump`, which may throw, and `parse`. A JSON value is finite if JSON has a text for it: no
infinite number, NaN, binary or discarded value in it. -/
structure Codec (δ ω : Type) where
  stored : Value δ → Value δ
  toText : Value δ → String
  toInteger : Value δ → Int
  toReal : Value δ → δ
  add : Value δ → Int → Value δ
  dump : ω → Option String
  parse : String → Option ω
  finite : ω → Bool

/-- The scalar types a field can be instantiated at. -/
inductive Kind where
  | text
  | integer
  | real
  deriving DecidableEq

/-- The C++ type of a kind. -/
abbrev Kind.Data (δ : Type) : Kind → Type
  | .text => String
  | .integer => Int
  | .real => δ

variable {δ ω : Type} [DecidableEq δ] [Zero δ]

instance (kind : Kind) : DecidableEq (kind.Data δ) :=
  match kind with
  | .text => inferInstanceAs (DecidableEq String)
  | .integer => inferInstanceAs (DecidableEq Int)
  | .real => inferInstanceAs (DecidableEq δ)

/-- `T{}`. -/
def Kind.zero : (kind : Kind) → kind.Data δ
  | .text => ""
  | .integer => (0 : Int)
  | .real => (0 : δ)

/-- `MixedValue` of a scalar. -/
def Kind.toValue : (kind : Kind) → kind.Data δ → Value δ
  | .text, data => .text data
  | .integer, value => .integer value
  | .real, value => .real value

/-- `MixedValue::get_to` of a stored value. -/
def Kind.getTo (codec : Codec δ ω) : (kind : Kind) → Value δ → kind.Data δ
  | .text, value => codec.toText value
  | .integer, value => codec.toInteger value
  | .real, value => codec.toReal value

/-- `MixedValue::is_null` of a stored value: it has no bytes. -/
def Value.isNull : Value δ → Bool
  | .null => true
  | .text data => data.isEmpty
  | .integer _ => false
  | .real _ => false

/-- `ScalarType`. -/
structure ScalarType (T : Type) where
  tempInitd : Bool
  tempValue : T
  realInitd : Bool
  realValue : T
  delta : Int
  deriving DecidableEq

/-- `NullScalarType`. -/
structure NullScalarType (T : Type) where
  tempNull : Bool
  tempValue : T
  realNull : Bool
  realValue : T
  delta : Int
  deriving DecidableEq

/-- `CounterType`. -/
structure CounterType where
  value : Int
  delta : Int
  deriving DecidableEq

/-- `JsonType`. -/
structure JsonType (ω : Type) where
  json : Option ω
  delta : Int
  deriving DecidableEq

/-- `NullObjectRef` and `ObjectRef`: the ID of the object, empty for none. -/
structure ObjectRef where
  objId : String
  delta : Int
  deriving DecidableEq

namespace ScalarType

variable {T : Type} [DecidableEq T]

/-- `SetValue`, and whether the database was notified. -/
def setValue (field : ScalarType T) (value : T) (isTemp : Bool) : ScalarType T × Bool :=
  let field := { field with tempInitd := true, tempValue := value }
  if isTemp = false ∧ (field.realInitd = false ∨ field.realValue ≠ value) then
    ({ field with realInitd := true, realValue := value, delta := field.delta + 1 }, true)
  else (field, false)

/-- The constructors, without and with a default value. -/
def construct (zero : T) : Option T → ScalarType T × Bool
  | none => (⟨false, zero, false, zero, 0⟩, false)
  | some value => setValue ⟨false, zero, false, zero, 1⟩ value false

end ScalarType

namespace NullScalarType

variable {T : Type} [DecidableEq T]

/-- `SetValue` of a value. -/
def setValue (field : NullScalarType T) (value : T) (isTemp : Bool) : NullScalarType T × Bool :=
  let field := { field with tempNull := false, tempValue := value }
  if isTemp = false ∧ field.realValue ≠ value then
    ({ field with realNull := false, realValue := value, delta := field.delta + 1 }, true)
  else (field, false)

/-- `SetValue` of null. -/
def setNull (field : NullScalarType T) (isTemp : Bool) : NullScalarType T × Bool :=
  let field := { field with tempNull := true }
  if isTemp = false ∧ field.realNull = false then
    ({ field with realNull := true, delta := field.delta + 1 }, true)
  else (field, false)

/-- The constructors, without and with a default value. -/
def construct (zero : T) : Option T → NullScalarType T × Bool
  | none => (⟨true, zero, true, zero, 0⟩, false)
  | some value => setValue ⟨true, zero, true, zero, 1⟩ value false

end NullScalarType

/-- `DeltaValue`. -/
def CounterType.deltaValue (field : CounterType) (delta : Int) : CounterType × Bool :=
  if delta = 0 then (field, false) else (⟨field.value + delta, field.delta + delta⟩, true)

/-- `SetJson`, of a value or of null. -/
def JsonType.setJson (field : JsonType ω) (json : Option ω) : JsonType ω × Bool :=
  (⟨json, field.delta + 1⟩, true)

/-- The constructors, without and with a default value. -/
def JsonType.construct : Option ω → JsonType ω × Bool
  | none => (⟨none, 0⟩, false)
  | some json => setJson ⟨none, 1⟩ (some json)

/-- `SetObject`, of an object's ID or, in a nullable reference, the empty one for null. -/
def ObjectRef.setObject (field : ObjectRef) (objId : String) : ObjectRef × Bool :=
  if field.objId = objId then (field, false) else (⟨objId, field.delta + 1⟩, true)

/-- A field of an object. -/
inductive Field (δ ω : Type) where
  | scalar (kind : Kind) (field : ScalarType (kind.Data δ))
  | nullScalar (kind : Kind) (field : NullScalarType (kind.Data δ))
  | counter (field : CounterType)
  | json (field : JsonType ω)
  | objectRef (field : ObjectRef)
  | nullObjectRef (field : ObjectRef)

/-- How a field is constructed. -/
inductive FieldSpec (δ ω : Type) where
  | scalar (kind : Kind) (value : Option (kind.Data δ))
  | nullScalar (kind : Kind) (value : Option (kind.Data δ))
  | counter
  | json (value : Option ω)
  | objectRef
  | nullObjectRef

/-- The constructor of a field, and whether it notified the database. -/
def FieldSpec.construct : FieldSpec δ ω → Field δ ω × Bool
  | .scalar kind value =>
    let (field, notified) := ScalarType.construct kind.zero value
    (.scalar kind field, notified)
  | .nullScalar kind value =>
    let (field, notified) := NullScalarType.construct kind.zero value
    (.nullScalar kind field, notified)
  | .counter => (.counter ⟨0, 0⟩, false)
  | .json value =>
    let (field, notified) := JsonType.construct value
    (.json field, notified)
  | .objectRef => (.objectRef ⟨"", 0⟩, false)
  | .nullObjectRef => (.nullObjectRef ⟨"", 0⟩, false)

namespace Field

/-- `GetDelta`. -/
def delta : Field δ ω → Int
  | .scalar _ field => field.delta
  | .nullScalar _ field => field.delta
  | .counter field => field.delta
  | .json field => field.delta
  | .objectRef field => field.delta
  | .nullObjectRef field => field.delta

/-- `isModified`. -/
def isModified (field : Field δ ω) : Bool := decide (0 < field.delta)

/-- `SetUnmodified`. -/
def setUnmodified : Field δ ω → Field δ ω
  | .scalar kind field => .scalar kind { field with delta := 0 }
  | .nullScalar kind field => .nullScalar kind { field with delta := 0 }
  | .counter field => .counter { field with delta := 0 }
  | .json field => .json { field with delta := 0 }
  | .objectRef field => .objectRef { field with delta := 0 }
  | .nullObjectRef field => .nullObjectRef { field with delta := 0 }

/-- `UseDBIncrement`. -/
def useDBIncrement : Field δ ω → Bool
  | .counter _ => true
  | _ => false

variable (codec : Codec δ ω)

/-- `GetDBValue`. A JSON value that cannot be dumped throws the library's exception. -/
def getDBValue : Field δ ω → Except Exception (Value δ)
  | .scalar kind field =>
    if field.realInitd then .ok (kind.toValue field.realValue) else .error .database
  | .nullScalar kind field =>
    .ok (if field.realNull then .null else kind.toValue field.realValue)
  | .counter field => .ok (.integer field.delta)
  | .json field =>
    match field.json with
    | none => .ok .null
    | some value =>
      match codec.dump value with
      | some data => .ok (.text data)
      | none => .error .other
  | .objectRef field =>
    if field.objId = "" then .error .database else .ok (.text field.objId)
  | .nullObjectRef field => .ok (if field.objId = "" then .null else .text field.objId)

/-- `InitDBValue`. -/
def initDBValue (value : Value δ) : Field δ ω → Except Exception (Field δ ω)
  | .scalar kind _ =>
    if value.isNull then .error .database
    else .ok (.scalar kind ⟨true, kind.getTo codec value, true, kind.getTo codec value, 0⟩)
  | .nullScalar kind field =>
    .ok (.nullScalar kind (if value.isNull then
        { field with tempNull := true, realNull := true, delta := 0 }
      else ⟨false, kind.getTo codec value, false, kind.getTo codec value, 0⟩))
  | .counter _ => .ok (.counter ⟨codec.toInteger value, 0⟩)
  | .json _ =>
    if value.isNull then .ok (.json ⟨none, 0⟩)
    else match codec.parse (codec.toText value) with
      | some parsed => .ok (.json ⟨some parsed, 0⟩)
      | none => .error .database
  | .objectRef _ =>
    if value.isNull then .error .database else .ok (.objectRef ⟨codec.toText value, 0⟩)
  | .nullObjectRef field =>
    .ok (.nullObjectRef (if value.isNull then { field with delta := 0 }
      else ⟨codec.toText value, 0⟩))

/-- The value a field shows in memory, nothing for null. -/
inductive Shown (δ ω : Type) where
  | nothing
  | scalar (kind : Kind) (value : kind.Data δ)
  | counter (value : Int)
  | json (value : ω)
  | object (objId : String)

/-- `isInitialized`, of the fields that have it. -/
def isInitialized : Field δ ω → Bool
  | .scalar _ field => field.tempInitd
  | .objectRef field => decide (field.objId ≠ "")
  | _ => true

/-- `GetValue` and its like, which throw for a field without a value. -/
def shown : Field δ ω → Except Exception (Shown δ ω)
  | .scalar kind field =>
    if field.tempInitd then .ok (.scalar kind field.tempValue) else .error .database
  | .nullScalar kind field =>
    .ok (if field.tempNull then .nothing else .scalar kind field.tempValue)
  | .counter field => .ok (.counter field.value)
  | .json field => .ok (field.json.elim .nothing .json)
  | .objectRef field => if field.objId = "" then .error .database else .ok (.object field.objId)
  | .nullObjectRef field => .ok (if field.objId = "" then .nothing else .object field.objId)

/-- A new field of the same type, without a default value. -/
def blank : Field δ ω → Field δ ω
  | .scalar kind _ => .scalar kind ⟨false, kind.zero, false, kind.zero, 0⟩
  | .nullScalar kind _ => .nullScalar kind ⟨true, kind.zero, true, kind.zero, 0⟩
  | .counter _ => .counter ⟨0, 0⟩
  | .json _ => .json ⟨none, 0⟩
  | .objectRef _ => .objectRef ⟨"", 0⟩
  | .nullObjectRef _ => .nullObjectRef ⟨"", 0⟩

/-- What the field shows when it is read again from a column, if it can be. -/
def reread (field : Field δ ω) (value : Value δ) : Except Exception (Shown δ ω) :=
  match field.blank.initDBValue codec value with
  | .ok read => read.shown
  | .error exception => .error exception

end Field

/-- A modification of a field. -/
inductive Change (δ ω : Type) where
  | setValue (kind : Kind) (value : kind.Data δ)
  | setNull
  | deltaValue (delta : Int)
  | setJson (json : Option ω)
  /-- The ID of an object is not empty. -/
  | setObject (objId : String) (named : objId ≠ "")
  | clearObject

/-- A modification applied to a field of its type, and whether the database was notified. -/
def Change.apply (change : Change δ ω) (field : Field δ ω) : Field δ ω × Bool :=
  match change, field with
  | .setValue kind value, .scalar fieldKind field =>
    if same : kind = fieldKind then
      let (field, notified) := field.setValue (same ▸ value) false
      (.scalar fieldKind field, notified)
    else (.scalar fieldKind field, false)
  | .setValue kind value, .nullScalar fieldKind field =>
    if same : kind = fieldKind then
      let (field, notified) := field.setValue (same ▸ value) false
      (.nullScalar fieldKind field, notified)
    else (.nullScalar fieldKind field, false)
  | .setNull, .nullScalar kind field =>
    let (field, notified) := field.setNull false
    (.nullScalar kind field, notified)
  | .deltaValue delta, .counter field =>
    let (field, notified) := field.deltaValue delta
    (.counter field, notified)
  | .setJson json, .json field =>
    let (field, notified) := field.setJson json
    (.json field, notified)
  | .setObject objId _, .objectRef field =>
    let (field, notified) := field.setObject objId
    (.objectRef field, notified)
  | .setObject objId _, .nullObjectRef field =>
    let (field, notified) := field.setObject objId
    (.nullObjectRef field, notified)
  | .clearObject, .nullObjectRef field =>
    let (field, notified) := field.setObject ""
    (.nullObjectRef field, notified)
  | _, field => (field, false)

end Andromeda.Database
