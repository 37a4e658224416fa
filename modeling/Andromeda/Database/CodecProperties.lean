import Andromeda.Database.FieldProperties
import Andromeda.Database.RoundTripProperties

/-! The fields of an object database over SQLite. Their columns leave out the storage class of a
text and the width of an integer, so what SQLite and the JSON library do is a codec of theirs, and
the fields that are saved one by one are represented by theirs. -/

set_option autoImplicit false

namespace Andromeda.Database

/-- A string, with each of its bytes as the character of that number. -/
def ofBytes (bytes : StdString) : String :=
  String.ofList (bytes.map fun byte => Char.ofNat byte.toNat)

def toBytes (text : String) : StdString := text.toList.map fun symbol => UInt8.ofNat symbol.toNat

@[simp] theorem toBytes_ofBytes (bytes : StdString) : toBytes (ofBytes bytes) = bytes := by
  unfold toBytes ofBytes
  rw [String.toList_ofList, List.map_map, List.map_id'']
  intro byte
  have small := byte.toNat_lt
  have valid : byte.toNat.isValidChar := .inl (by omega)
  have same : (Char.ofNat byte.toNat).toNat = byte.toNat := by
    rw [Char.ofNat, dif_pos valid]
    rfl
  exact (congrArg UInt8.ofNat same).trans UInt8.ofNat_toNat

private theorem ofBytes_injective : Function.Injective ofBytes := fun left right same => by
  rw [← toBytes_ofBytes left, same, toBytes_ofBytes]

@[simp] theorem ofBytes_nil : ofBytes [] = "" := rfl

private theorem ofBytes_eq_empty {bytes : StdString} : ofBytes bytes = "" ↔ bytes = [] :=
  ⟨fun same => ofBytes_injective (same.trans ofBytes_nil.symm), fun same => by rw [same, ofBytes_nil]⟩

private theorem isEmpty_ofBytes (bytes : StdString) :
    (ofBytes bytes).isEmpty = (bytes.length == 0) := by
  cases bytes with
  | nil => rfl
  | cons head tail => simp [ofBytes]

variable {δ ω : Type}

/-- A column without its storage class. -/
def SqliteValue.toValue : SqliteValue δ → Value δ
  | .null => .null
  | .text bytes => .text (ofBytes bytes)
  | .blob bytes => .text (ofBytes bytes)
  | .integer value => .integer value.toInt
  | .real value => .real value

/-- What a field gives to a query. -/
def MixedValue.toValue : MixedValue δ → Value δ
  | .sqlite value => value.toValue
  | .null => .null
  | .string bytes => .text (ofBytes bytes)
  | .chars text => .text (ofBytes text.bytes)
  | .int value => .integer value.toInt
  | .int64 value => .integer value.toInt
  | .double value => .real value

/-- SQLite and the JSON library as the codec of an object database. -/
def Sqlite.codec (sqlite : Sqlite δ) (json : JsonLibrary ω) : Codec δ ω where
  stored
    | .real value => if sqlite.isNaN value then .null else .real value
    | value => value
  toText
    | .null => ""
    | .text data => data
    | .integer value => ofBytes (sqlite.integerText (Int64.ofInt value))
    | .real value => ofBytes (sqlite.realText value)
  toInteger
    | .null => 0
    | .text data => (sqlite.parseInteger (toBytes data)).toInt
    | .integer value => value
    | .real value => (sqlite.realToInteger value).toInt
  toReal
    | .null => sqlite.integerToReal 0
    | .text data => sqlite.parseReal (toBytes data)
    | .integer value => sqlite.integerToReal (Int64.ofInt value)
    | .real value => value
  add
    | .null, _ => .null
    | .text data, delta => (sqlite.addOther (.blob (toBytes data)) (Int64.ofInt delta)).toValue
    | .integer value, delta => .integer (value + delta)
    | .real value, delta => (sqlite.addOther (.real value) (Int64.ofInt delta)).toValue
  dump value := (json.dump value).map ofBytes
  parse data := json.parse (toBytes data)
  finite := json.finite

variable {sqlite : Sqlite δ} {json : JsonLibrary ω}

/-- It is one of those that the object database relies on. -/
theorem Sqlite.codec_lawful (lawful : json.Lawful) : Lawful (sqlite.codec json) where
  stored_null := rfl
  stored_integer _ := rfl
  toText_text _ := rfl
  toText_ne value filled := by
    cases value with
    | null => cases filled
    | text data =>
        show data ≠ ""
        simpa [Value.isNull] using filled
    | integer value => exact fun empty => sqlite.integerText_ne _ (ofBytes_eq_empty.mp empty)
    | real value => exact fun empty => sqlite.realText_ne _ (ofBytes_eq_empty.mp empty)
  toInteger_integer _ := rfl
  toReal_real _ := rfl
  toInteger_null := rfl
  add_integer _ _ := rfl
  dump_parse value data finite dumped := by
    obtain ⟨text, whole, rfl⟩ := Option.map_eq_some_iff.mp dumped
    refine ⟨fun empty => lawful.dump_ne whole (ofBytes_eq_empty.mp empty), ?_⟩
    exact (congrArg json.parse (toBytes_ofBytes text)).trans (lawful.parse_dump finite whole)

/-! Reading a column. -/

private theorem SqliteValue.isNull_toValue (sqlite : Sqlite δ) (value : SqliteValue δ) :
    value.toValue.isNull = (MixedValue.sqlite value).isNull sqlite := by
  cases value with
  | null => rfl
  | text bytes =>
      simp [toValue, Value.isNull, MixedValue.isNull, SqliteValue.bytes, blobOf, isEmpty_ofBytes]
  | blob bytes =>
      simp [toValue, Value.isNull, MixedValue.isNull, SqliteValue.bytes, blobOf, isEmpty_ofBytes]
  | integer value =>
      simp [toValue, Value.isNull, MixedValue.isNull, SqliteValue.bytes, blobOf,
        sqlite.integerText_ne]
  | real value =>
      simp [toValue, Value.isNull, MixedValue.isNull, SqliteValue.bytes, blobOf, sqlite.realText_ne]

private theorem SqliteValue.toText_toValue (value : SqliteValue δ) :
    (sqlite.codec json).toText value.toValue = ofBytes (value.blobOf sqlite) := by
  cases value with
  | integer value => simp [toValue, Sqlite.codec, blobOf]
  | _ => rfl

private theorem SqliteValue.toInteger_toValue (value : SqliteValue δ) :
    (sqlite.codec json).toInteger value.toValue = (value.int64Of sqlite).toInt := by
  cases value with
  | text bytes => simp [toValue, Sqlite.codec, int64Of]
  | blob bytes => simp [toValue, Sqlite.codec, int64Of]
  | _ => rfl

private theorem SqliteValue.toReal_toValue (value : SqliteValue δ) :
    (sqlite.codec json).toReal value.toValue = value.doubleOf sqlite := by
  cases value with
  | text bytes => simp [toValue, Sqlite.codec, doubleOf]
  | blob bytes => simp [toValue, Sqlite.codec, doubleOf]
  | integer value => simp [toValue, Sqlite.codec, doubleOf]
  | _ => rfl

/-! Fields and what they read and write. -/

namespace ScalarKind

/-- The kind of a scalar in an object database, which has one for both widths of integers. -/
def kind : ScalarKind → Kind
  | .string => .text
  | .int => .integer
  | .int64 => .integer
  | .double => .real

def data : (kind : ScalarKind) → kind.Data δ → kind.kind.Data δ
  | .string, bytes => ofBytes bytes
  | .int, value => Int32.toInt value
  | .int64, value => Int64.toInt value
  | .double, value => value

theorem data_injective (kind : ScalarKind) :
    Function.Injective (data kind : kind.Data δ → kind.kind.Data δ) := by
  cases kind with
  | string => exact ofBytes_injective
  | int => exact fun left right same => Int32.toInt_inj.mp same
  | int64 => exact fun left right same => Int64.toInt_inj.mp same
  | double => exact Function.injective_id

/-- A column that an `int` is read of holds no other integer. -/
def Narrow (sqlite : Sqlite δ) (kind : ScalarKind) (value : SqliteValue δ) : Prop :=
  kind = .int → (value.intOf sqlite).toInt = (value.int64Of sqlite).toInt

private theorem getTo_toValue (json : JsonLibrary ω) {kind : ScalarKind} {value : SqliteValue δ}
    (narrow : kind.Narrow sqlite value) :
    (kind.getTo sqlite (.sqlite value)).map kind.data =
      .ok (kind.kind.getTo (sqlite.codec json) value.toValue) := by
  cases kind with
  | string => exact congrArg Except.ok value.toText_toValue.symm
  | int => exact congrArg Except.ok ((narrow rfl).trans value.toInteger_toValue.symm)
  | int64 => exact congrArg Except.ok value.toInteger_toValue.symm
  | double => exact congrArg Except.ok value.toReal_toValue.symm

private theorem toMixed_toValue (kind : ScalarKind) (value : kind.Data δ) :
    (kind.toMixed value).toValue = kind.kind.toValue (kind.data value) := by
  cases kind <;> rfl

end ScalarKind

section Maps

variable {T U : Type}

def ScalarType.map (change : T → U) (field : ScalarType T) : ScalarType U :=
  ⟨field.tempInitd, change field.tempValue, field.realInitd, change field.realValue, field.delta⟩

def NullScalarType.map (change : T → U) (field : NullScalarType T) : NullScalarType U :=
  ⟨field.tempNull, change field.tempValue, field.realNull, change field.realValue, field.delta⟩

theorem NullScalarType.setNull_map (change : T → U) (field : NullScalarType T) (isTemp : Bool) :
    (field.map change).setNull isTemp = ((field.setNull isTemp).1.map change,
      (field.setNull isTemp).2) := by
  obtain ⟨tempNull, tempValue, realNull, realValue, delta⟩ := field
  cases isTemp with
  | true => rfl
  | false =>
      cases realNull with
      | true => rfl
      | false => rfl

variable [DecidableEq T] [DecidableEq U] {change : T → U}

theorem ScalarType.setValue_map (injective : Function.Injective change) (field : ScalarType T)
    (value : T) (isTemp : Bool) :
    (field.map change).setValue (change value) isTemp =
      ((field.setValue value isTemp).1.map change, (field.setValue value isTemp).2) := by
  simp only [ScalarType.setValue, ScalarType.map, ne_eq, injective.eq_iff]
  split
  · rfl
  · rfl

theorem NullScalarType.setValue_map (injective : Function.Injective change)
    (field : NullScalarType T) (value : T) (isTemp : Bool) :
    (field.map change).setValue (change value) isTemp =
      ((field.setValue value isTemp).1.map change, (field.setValue value isTemp).2) := by
  simp only [NullScalarType.setValue, NullScalarType.map, ne_eq, injective.eq_iff]
  split
  · rfl
  · rfl

end Maps

def Counter.counterType (field : Counter) : CounterType := ⟨field.value.toInt, field.delta.toInt⟩

/-- A change of a counter whose sums fit. -/
theorem Counter.deltaValue_counterType (field : Counter) (delta : Int32)
    (value : (field.value + delta).toInt = field.value.toInt + delta.toInt)
    (sum : (field.delta + delta).toInt = field.delta.toInt + delta.toInt) :
    (field.counterType.deltaValue delta.toInt).1 = (field.deltaValue delta).counterType := by
  have zero : delta.toInt = 0 ↔ delta = 0 := @Int32.toInt_inj delta 0
  simp only [CounterType.deltaValue, Counter.deltaValue, zero]
  split
  · rfl
  · simp only [Counter.counterType, value, sum]

def Reference.objectRef (field : Reference) : ObjectRef := ⟨ofBytes field.objId, field.delta⟩

theorem Reference.setObject_objectRef (field : Reference) (objId : StdString) :
    (field.objectRef.setObject (ofBytes objId)).1 = (field.setObject objId).objectRef := by
  simp only [ObjectRef.setObject, Reference.setObject, Reference.objectRef,
    ofBytes_injective.eq_iff]
  split
  · rfl
  · rfl

namespace Field

section Read

variable {value : SqliteValue δ}

/-- A scalar field reads of a column what the one it represents reads. -/
theorem initDBValue_scalar {kind : ScalarKind} (narrow : kind.Narrow sqlite value)
    (field : ScalarType (kind.kind.Data δ)) :
    (Field.scalar kind.kind field).initDBValue (sqlite.codec json) value.toValue =
      (ScalarType.initDBValue sqlite kind (.sqlite value)).map fun read =>
        .scalar kind.kind (read.map kind.data) := by
  have read := ScalarKind.getTo_toValue json narrow
  simp only [initDBValue, ScalarType.initDBValue, value.isNull_toValue sqlite]
  split
  · rfl
  · cases got : kind.getTo sqlite (.sqlite value) with
    | error exception =>
        rw [got] at read
        cases read
    | ok data =>
        rw [got] at read
        rw [← Except.ok.inj read]
        rfl

theorem initDBValue_nullScalar {kind : ScalarKind} (narrow : kind.Narrow sqlite value)
    (field : NullScalarType (kind.Data δ)) :
    (Field.nullScalar kind.kind (field.map kind.data)).initDBValue (sqlite.codec json)
        value.toValue =
      (NullScalarType.initDBValue sqlite kind (.sqlite value) field).map fun read =>
        .nullScalar kind.kind (read.map kind.data) := by
  have read := ScalarKind.getTo_toValue json narrow
  simp only [initDBValue, NullScalarType.initDBValue, value.isNull_toValue sqlite]
  split
  · rfl
  · cases got : kind.getTo sqlite (.sqlite value) with
    | error exception =>
        rw [got] at read
        cases read
    | ok data =>
        rw [got] at read
        rw [← Except.ok.inj read]
        rfl

theorem initDBValue_counter (narrow : ScalarKind.int.Narrow sqlite value) (field : CounterType) :
    (Field.counter field).initDBValue (sqlite.codec json) value.toValue =
      (Counter.initDBValue sqlite (.sqlite value)).map fun read => .counter read.counterType := by
  simp only [initDBValue, value.toInteger_toValue, ← narrow rfl]
  rfl

theorem initDBValue_json (field : JsonType ω) :
    (Field.json field).initDBValue (sqlite.codec json) value.toValue =
      (JsonType.initDBValue sqlite json (.sqlite value)).map .json := by
  simp only [initDBValue, JsonType.initDBValue, value.isNull_toValue sqlite,
    value.toText_toValue, MixedValue.getString]
  split
  · rfl
  · have same : (sqlite.codec json).parse (ofBytes (value.blobOf sqlite)) =
        json.parse (value.blobOf sqlite) := congrArg json.parse (toBytes_ofBytes _)
    rw [same]
    cases json.parse (value.blobOf sqlite) with
    | none => rfl
    | some parsed => rfl

theorem initDBValue_objectRef (field : ObjectRef) :
    (Field.objectRef field).initDBValue (sqlite.codec json) value.toValue =
      (Reference.initDBValue sqlite (.sqlite value)).map fun read => .objectRef read.objectRef := by
  simp only [initDBValue, Reference.initDBValue, value.isNull_toValue sqlite,
    value.toText_toValue, MixedValue.getString]
  split
  · rfl
  · rfl

theorem initDBValue_nullObjectRef (field : Reference) :
    (Field.nullObjectRef field.objectRef).initDBValue (sqlite.codec json) value.toValue =
      (Reference.initDBValueNull sqlite (.sqlite value) field).map fun read =>
        .nullObjectRef read.objectRef := by
  simp only [initDBValue, Reference.initDBValueNull, value.isNull_toValue sqlite,
    value.toText_toValue, MixedValue.getString]
  split
  · rfl
  · rfl

end Read

/-! What they write, and what SQLite stores of it. -/

theorem getDBValue_scalar {kind : ScalarKind} (field : ScalarType (kind.Data δ)) :
    (Field.scalar kind.kind (field.map kind.data)).getDBValue (sqlite.codec json) =
      (ScalarType.getDBValue kind field).map MixedValue.toValue := by
  obtain ⟨tempInitd, tempValue, realInitd, realValue, delta⟩ := field
  cases realInitd with
  | false => rfl
  | true => exact congrArg Except.ok (kind.toMixed_toValue realValue).symm

theorem getDBValue_nullScalar {kind : ScalarKind} (field : NullScalarType (kind.Data δ)) :
    (Field.nullScalar kind.kind (field.map kind.data)).getDBValue (sqlite.codec json) =
      .ok (NullScalarType.getDBValue kind field).toValue := by
  obtain ⟨tempNull, tempValue, realNull, realValue, delta⟩ := field
  cases realNull with
  | false => exact congrArg Except.ok (kind.toMixed_toValue realValue).symm
  | true => rfl

theorem getDBValue_counter (field : Counter) :
    (Field.counter field.counterType).getDBValue (sqlite.codec json) =
      .ok (field.getDBValue : MixedValue δ).toValue := rfl

theorem getDBValue_json (field : JsonType ω) :
    (Field.json field).getDBValue (sqlite.codec json) =
      (JsonType.getDBValue json field).map MixedValue.toValue := by
  obtain ⟨json', delta⟩ := field
  cases json' with
  | none => rfl
  | some value =>
      simp only [getDBValue, JsonType.getDBValue, Sqlite.codec]
      cases json.dump value with
      | none => rfl
      | some text => rfl

theorem getDBValue_objectRef (field : Reference) :
    (Field.objectRef field.objectRef).getDBValue (sqlite.codec json) =
      (field.getDBValue).map MixedValue.toValue := by
  simp only [getDBValue, Reference.getDBValue, Reference.objectRef, ofBytes_eq_empty]
  split
  · rfl
  · rfl

theorem getDBValue_nullObjectRef (field : Reference) :
    (Field.nullObjectRef field.objectRef).getDBValue (sqlite.codec json) =
      .ok (field.getDBValueNull : MixedValue δ).toValue := by
  simp only [getDBValue, Reference.getDBValueNull, Reference.objectRef, ofBytes_eq_empty]
  split
  · rfl
  · rfl

end Field

private theorem MixedValue.stored_toValue {value : MixedValue δ} {column : SqliteValue δ}
    (bound : value.bind sqlite = some column) (given : ∀ read, value ≠ .sqlite read)
    (whole : ∀ bytes, value = .string bytes → bytes.length ≤ sqlite.limit) :
    column.toValue = (sqlite.codec json).stored value.toValue := by
  cases value with
  | sqlite read => exact absurd rfl (given read)
  | null =>
      cases bound
      rfl
  | string bytes =>
      have same := (bindBlob_whole bytes).mpr (whole bytes rfl)
      cases Option.some.inj (bound.symm.trans same)
      rfl
  | chars text =>
      simp only [MixedValue.bind, bindText] at bound
      split at bound
      · cases bound
      · cases bound
        rfl
  | int value =>
      cases bound
      simp [SqliteValue.toValue, MixedValue.toValue, Sqlite.codec]
  | int64 value =>
      cases bound
      rfl
  | double value =>
      cases bound
      simp only [bindDouble, MixedValue.toValue, Sqlite.codec]
      split
      · rfl
      · rfl

/-- What an INSERT or an assignment leaves in the column. -/
theorem Statement.write_toValue {statement : Statement δ} {value : MixedValue δ}
    {column : SqliteValue δ} (written : statement.write sqlite false value = .ok column)
    (given : ∀ read, value ≠ .sqlite read)
    (whole : ∀ bytes, value = .string bytes → bytes.length ≤ sqlite.limit) :
    column.toValue = (sqlite.codec json).stored value.toValue := by
  unfold Statement.write at written
  split at written
  · next null =>
    cases written
    cases value with
    | sqlite read => exact absurd rfl (given read)
    | null => rfl
    | _ => cases null
  · cases bound : value.bind sqlite with
    | none =>
        rw [bound] at written
        cases written
    | some stored =>
        rw [bound] at written
        have same : stored = column := by simpa using written
        rw [← same]
        exact MixedValue.stored_toValue bound given whole

/-- What an increment leaves in a column that holds a number or null, where the sum of integers
fits. -/
theorem SqliteValue.plus_toValue {old : SqliteValue δ} {added : Int64}
    (number : ∀ bytes, old ≠ .text bytes ∧ old ≠ .blob bytes)
    (fits : ∀ value, old = .integer value →
      -2 ^ 63 ≤ value.toInt + added.toInt ∧ value.toInt + added.toInt < 2 ^ 63) :
    (old.plus sqlite added).toValue = (sqlite.codec json).add old.toValue added.toInt := by
  cases old with
  | null => rfl
  | text bytes => exact absurd rfl (number bytes).1
  | blob bytes => exact absurd rfl (number bytes).2
  | integer value =>
      obtain ⟨low, high⟩ := fits value rfl
      have sum : (value + added).toInt = value.toInt + added.toInt := by
        rw [Int64.toInt_add, Int.bmod_eq_of_le (by omega) (by omega)]
      simp only [plus, low, high, and_self, if_true, toValue, sum, Sqlite.codec]
  | real value => simp [plus, toValue, Sqlite.codec]

end Andromeda.Database
