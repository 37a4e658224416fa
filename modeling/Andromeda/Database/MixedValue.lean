import Andromeda.Database.Fields

/-! The values that cross between fields, queries and SQLite, byte for byte, with the storage
classes they are bound as and read from. -/

set_option autoImplicit false

namespace Andromeda.Database

/-- The bytes of a `std::string`. -/
abbrev StdString := List UInt8

/-- The bytes of a `const char*`, which ends before the first NUL. -/
structure CString where
  bytes : StdString
  noNul : 0 ∉ bytes
  deriving DecidableEq

/-- A value as SQLite stores it. Doubles are taken up to `==`. -/
inductive SqliteValue (δ : Type) where
  | null
  | text (bytes : StdString)
  | blob (bytes : StdString)
  | integer (value : Int64)
  | real (value : δ)
  deriving DecidableEq

/-- SQLite's length limit, its conversions between storage classes, and its addition where that
does not give a 64 bit integer. A number is never the empty text. -/
structure Sqlite (δ : Type) where
  limit : Nat
  limit_lt : limit < 2 ^ 31
  isNaN : δ → Bool
  integerText : Int64 → StdString
  integerText_ne : ∀ value, integerText value ≠ []
  realText : δ → StdString
  realText_ne : ∀ value, realText value ≠ []
  parseInteger : StdString → Int64
  parseReal : StdString → δ
  realToInteger : δ → Int64
  integerToReal : Int64 → δ
  addOther : SqliteValue δ → Int64 → SqliteValue δ

/-- `MixedValue`: a value read from SQLite, or one of the C++ types. -/
inductive MixedValue (δ : Type) where
  | sqlite (value : SqliteValue δ)
  | null
  | string (bytes : StdString)
  | chars (text : CString)
  | int (value : Int32)
  | int64 (value : Int64)
  | double (value : δ)
  deriving DecidableEq

variable {δ : Type} (sqlite : Sqlite δ)

namespace SqliteValue

/-- `sqlite3_value_blob`. -/
def blobOf : SqliteValue δ → StdString
  | .null => []
  | .text bytes => bytes
  | .blob bytes => bytes
  | .integer value => sqlite.integerText value
  | .real value => sqlite.realText value

/-- `sqlite3_value_bytes`. -/
def bytes (value : SqliteValue δ) : Nat := (value.blobOf sqlite).length

/-- `sqlite3_value_int64`. -/
def int64Of : SqliteValue δ → Int64
  | .null => 0
  | .text bytes => sqlite.parseInteger bytes
  | .blob bytes => sqlite.parseInteger bytes
  | .integer value => value
  | .real value => sqlite.realToInteger value

/-- `sqlite3_value_int`: the lower 32 bits. -/
def intOf (value : SqliteValue δ) : Int32 := (value.int64Of sqlite).toInt32

/-- `sqlite3_value_double`. -/
def doubleOf : SqliteValue δ → δ
  | .null => sqlite.integerToReal 0
  | .text bytes => sqlite.parseReal bytes
  | .blob bytes => sqlite.parseReal bytes
  | .integer value => sqlite.integerToReal value
  | .real value => value

/-- `+` of a column and a bound integer. -/
def plus (added : Int64) : SqliteValue δ → SqliteValue δ
  | .null => .null
  | .integer value =>
    if -2 ^ 63 ≤ value.toInt + added.toInt ∧ value.toInt + added.toInt < 2 ^ 63 then
      .integer (value + added)
    else sqlite.addOther (.integer value) added
  | value => sqlite.addOther value added

end SqliteValue

/-- `static_cast<int>` of a size. -/
def sizeToInt (size : Nat) : Int := (BitVec.ofNat 32 size).toInt

/-- `sqlite3_bind_blob`. A length that is negative or past the limit is refused. -/
def bindBlob (bytes : StdString) (length : Int) : Option (SqliteValue δ) :=
  if length < 0 ∨ sqlite.limit < length then none else some (.blob (bytes.take length.toNat))

/-- `sqlite3_bind_text` up to the first NUL. -/
def bindText (text : CString) : Option (SqliteValue δ) :=
  if sqlite.limit < text.bytes.length then none else some (.text text.bytes)

/-- `sqlite3_bind_double`. -/
def bindDouble (value : δ) : SqliteValue δ :=
  if sqlite.isNaN value then .null else .real value

namespace MixedValue

/-- `bind`. -/
def bind : MixedValue δ → Option (SqliteValue δ)
  | .sqlite value => some value
  | .null => some .null
  | .string bytes => bindBlob sqlite bytes (sizeToInt bytes.length)
  | .chars text => bindText sqlite text
  | .int value => some (.integer value.toInt64)
  | .int64 value => some (.integer value)
  | .double value => some (bindDouble sqlite value)

/-- `is_null`. -/
def isNull : MixedValue δ → Bool
  | .sqlite value => value.bytes sqlite == 0
  | .null => true
  | _ => false

/-- `get_to(std::string&)`. -/
def getString : MixedValue δ → Except Exception StdString
  | .sqlite value => .ok (value.blobOf sqlite)
  | .chars text => .ok text.bytes
  | .string bytes => .ok bytes
  | _ => .error .other

/-- `get_to(int&)`. -/
def getInt : MixedValue δ → Except Exception Int32
  | .sqlite value => .ok (value.intOf sqlite)
  | .int value => .ok value
  | _ => .error .other

/-- `get_to(int64_t&)`. -/
def getInt64 : MixedValue δ → Except Exception Int64
  | .sqlite value => .ok (value.int64Of sqlite)
  | .int64 value => .ok value
  | _ => .error .other

/-- `get_to(double&)`. -/
def getDouble : MixedValue δ → Except Exception δ
  | .sqlite value => .ok (value.doubleOf sqlite)
  | .double value => .ok value
  | _ => .error .other

end MixedValue

/-- The scalar types of fields. -/
inductive ScalarKind where
  | string
  | int
  | int64
  | double
  deriving DecidableEq

namespace ScalarKind

/-- The C++ type. -/
abbrev Data (δ : Type) : ScalarKind → Type
  | .string => StdString
  | .int => Int32
  | .int64 => Int64
  | .double => δ

instance [DecidableEq δ] (kind : ScalarKind) : DecidableEq (kind.Data δ) :=
  match kind with
  | .string => inferInstanceAs (DecidableEq StdString)
  | .int => inferInstanceAs (DecidableEq Int32)
  | .int64 => inferInstanceAs (DecidableEq Int64)
  | .double => inferInstanceAs (DecidableEq δ)

/-- `T{}`. -/
def zero [Zero δ] : (kind : ScalarKind) → kind.Data δ
  | .string => ([] : StdString)
  | .int => (0 : Int32)
  | .int64 => (0 : Int64)
  | .double => (0 : δ)

/-- `MixedValue` of a scalar. -/
def toMixed : (kind : ScalarKind) → kind.Data δ → MixedValue δ
  | .string, bytes => .string bytes
  | .int, value => .int value
  | .int64, value => .int64 value
  | .double, value => .double value

/-- `get_to` of a scalar. -/
def getTo : (kind : ScalarKind) → MixedValue δ → Except Exception (kind.Data δ)
  | .string, value => value.getString sqlite
  | .int, value => value.getInt sqlite
  | .int64, value => value.getInt64 sqlite
  | .double, value => value.getDouble sqlite

end ScalarKind

/-- A value type: `T{}` and `==`. The `==` of doubles holds of both zeros and not of a NaN and
itself. -/
structure ValueType (T : Type) where
  zero : T
  equals : T → T → Bool
  symm : ∀ first second, equals first second = true → equals second first = true
  trans : ∀ first second third, equals first second = true → equals second third = true →
    equals first third = true

/-- A type whose `==` is equality. -/
def ValueType.ofDecidable {T : Type} [DecidableEq T] (zero : T) : ValueType T where
  zero := zero
  equals first second := decide (first = second)
  symm first second same := by simpa using (of_decide_eq_true same).symm
  trans first second third left right := by
    simpa using (of_decide_eq_true left).trans (of_decide_eq_true right)

/-- The type of a kind, given that of doubles. -/
def ScalarKind.valueType {δ : Type} (double : ValueType δ) :
    (kind : ScalarKind) → ValueType (kind.Data δ)
  | .string => ValueType.ofDecidable (T := StdString) []
  | .int => ValueType.ofDecidable (T := Int32) 0
  | .int64 => ValueType.ofDecidable (T := Int64) 0
  | .double => double

end Andromeda.Database
