import Andromeda.Database.StoredFields

/-! The nullable scalar field over a value type compared as C++ compares it, and what its calls
are meant to leave in it. -/

set_option autoImplicit false

namespace Andromeda.Database

namespace NullableScalar

section Source

variable {T : Type} (type : ValueType T)

/-- `SetValue` of a value, and whether the database was notified. -/
def setValue (field : NullScalarType T) (value : T) (isTemp : Bool) : NullScalarType T × Bool :=
  let field := { field with tempNull := false, tempValue := value }
  if !isTemp && !type.equals field.realValue value then
    ({ field with realNull := false, realValue := value, delta := field.delta + 1 }, true)
  else (field, false)

/-- `SetValue` of null. -/
def setNull (field : NullScalarType T) (isTemp : Bool) : NullScalarType T × Bool :=
  let field := { field with tempNull := true }
  if !isTemp && !field.realNull then
    ({ field with realNull := true, delta := field.delta + 1 }, true)
  else (field, false)

/-- The constructors, without and with a default value. -/
def construct : Option T → NullScalarType T
  | none => ⟨true, type.zero, true, type.zero, 0⟩
  | some value => (setValue type ⟨true, type.zero, true, type.zero, 1⟩ value false).1

/-- `TryGetValue`. -/
def tryGetValue (field : NullScalarType T) (allowTemp : Bool) : Option T :=
  if allowTemp then if field.tempNull then none else some field.tempValue
  else if field.realNull then none else some field.realValue

/-- `isModified`. -/
def isModified (field : NullScalarType T) : Bool := decide (0 < field.delta)

/-- `SetUnmodified`. -/
def setUnmodified (field : NullScalarType T) : NullScalarType T := { field with delta := 0 }

end Source

variable {δ : Type} (sqlite : Sqlite δ) (double : ValueType δ) (kind : ScalarKind)

/-- What `InitDBValue` is given: a null value, or one that `get_to` reads. -/
structure ColumnValue where
  value : MixedValue δ
  readable : value.isNull sqlite = false → ∃ data, kind.getTo sqlite value = .ok data

/-- The value of a column, if it is not null. -/
def ColumnValue.data (column : ColumnValue sqlite kind) : Option (kind.Data δ) :=
  if column.value.isNull sqlite then none else (kind.getTo sqlite column.value).toOption

/-- A call on a field. -/
inductive Call where
  | initDBValue (column : ColumnValue sqlite kind)
  | setValue (value : kind.Data δ) (isTemp : Bool)
  | setNull (isTemp : Bool)
  | setUnmodified

/-- A call made on a field. -/
def Call.run (field : NullScalarType (kind.Data δ)) :
    Call sqlite kind → NullScalarType (kind.Data δ)
  | .initDBValue column =>
    match NullScalarType.initDBValue sqlite kind column.value field with
    | .ok read => read
    | .error _ => field
  | .setValue value isTemp =>
    (NullableScalar.setValue (kind.valueType double) field value isTemp).1
  | .setNull isTemp => (NullableScalar.setNull field isTemp).1
  | .setUnmodified => NullableScalar.setUnmodified field

/-- What a field is meant to hold: its last value, the last that is not temporary, and whether an
assignment has changed that since it was loaded or saved. -/
structure Meant (T : Type) where
  shown : Option T
  last : Option T
  changed : Bool

namespace Meant

variable {T : Type} (type : ValueType T)

/-- Whether an assignment differs from the value before it. -/
def differs : Option T → Option T → Bool
  | none, none => false
  | some before, some after => !type.equals before after
  | _, _ => true

/-- An assignment, of a value or of null. -/
def assign (meant : Meant T) (value : Option T) (isTemp : Bool) : Meant T :=
  if isTemp then { meant with shown := value }
  else ⟨value, value, meant.changed || differs type meant.last value⟩

/-- A new field; a default value is an assignment to it. -/
def construct : Option T → Meant T
  | none => ⟨none, none, false⟩
  | some value => assign type ⟨none, none, false⟩ (some value) false

/-- What a call is meant to do. -/
def run (meant : Meant (kind.Data δ)) : Call sqlite kind → Meant (kind.Data δ)
  | .initDBValue column => ⟨column.data, column.data, false⟩
  | .setValue value isTemp => meant.assign (kind.valueType double) (some value) isTemp
  | .setNull isTemp => meant.assign (kind.valueType double) none isTemp
  | .setUnmodified => { meant with changed := false }

/-- A value given back for one that was assigned: the same, or one it compares equal to. -/
def Gives (value : Option T) (given : Option T) : Prop :=
  match value, given with
  | none, none => True
  | some value, some given => given = value ∨ type.equals given value = true
  | _, _ => False

end Meant

/-- A field that shows and stores what it is meant to. -/
structure Correct (field : NullScalarType (kind.Data δ)) (meant : Meant (kind.Data δ)) :
    Prop where
  shown : tryGetValue field true = meant.shown
  stored : Meant.Gives (kind.valueType double) meant.last (tryGetValue field false)
  column : ∃ given, Meant.Gives (kind.valueType double) meant.last given ∧
    NullScalarType.getDBValue kind field = given.elim .null kind.toMixed
  modified : isModified field = meant.changed

/-- A field with what it is meant to hold. -/
abbrev State (δ : Type) (kind : ScalarKind) := NullScalarType (kind.Data δ) × Meant (kind.Data δ)

/-- A new field. -/
def begin_ (value : Option (kind.Data δ)) : State δ kind :=
  (construct (kind.valueType double) value, Meant.construct (kind.valueType double) value)

/-- A call on a field, and what it is meant to do. -/
def step (state : State δ kind) (call : Call sqlite kind) : State δ kind :=
  (call.run sqlite double kind state.1, state.2.run sqlite double kind call)

/-- The calls that do not assign to a null field the value that its null flag hides. -/
def NotHidden (state : State δ kind) : Call sqlite kind → Prop
  | .setValue value false =>
    state.1.realNull = true → (kind.valueType double).equals state.1.realValue value = false
  | _ => True

end NullableScalar

end Andromeda.Database
