import Andromeda.Database.MixedValue

/-! `operator==` of mixed values, which may be held as they were read from SQLite or as C++ values,
and the laws that it keeps. -/

set_option autoImplicit false

namespace Andromeda.Database

/-- `sqlite3_value_type`. -/
inductive StorageClass where
  | null
  | text
  | blob
  | integer
  | real
  deriving DecidableEq

/-- The storage class of a value. -/
def SqliteValue.storageClass {δ : Type} : SqliteValue δ → StorageClass
  | .null => .null
  | .text _ => .text
  | .blob _ => .blob
  | .integer _ => .integer
  | .real _ => .real

/-- What `strcmp` reads of a string's `c_str()`. -/
def cStr (bytes : StdString) : StdString := bytes.takeWhile (· != 0)

namespace MixedValue

variable {δ : Type} (sqlite : Sqlite δ) (double : ValueType δ)

/-- `mVariant`, which is null beside a value from SQLite. -/
def variant : MixedValue δ → MixedValue δ
  | .sqlite _ => .null
  | value => value

/-- The comparison of variants: strings and C strings by their contents. -/
def variantEquals : MixedValue δ → MixedValue δ → Bool
  | .string left, .string right => decide (left = right)
  | .string left, .chars right => decide (left = right.bytes)
  | .chars left, .string right => decide (left.bytes = cStr right)
  | .chars left, .chars right => decide (left.bytes = right.bytes)
  | .null, .null => true
  | .int left, .int right => decide (left = right)
  | .int64 left, .int64 right => decide (left = right)
  | .double left, .double right => double.equals left right
  | _, _ => false

/-- The comparison of two values that are not the same object. -/
def equals : MixedValue δ → MixedValue δ → Bool
  | .sqlite left, .sqlite right =>
    decide (left.storageClass = right.storageClass) &&
      decide (left.bytes sqlite = right.bytes sqlite) &&
      decide (left.blobOf sqlite = right.blobOf sqlite)
  | left, right => variantEquals double left.variant right.variant

/-- `operator==` of the objects at two addresses. -/
def operatorEquals {ι : Type} [DecidableEq ι] (memory : ι → MixedValue δ) (left right : ι) : Bool :=
  if left = right then true else equals sqlite double (memory left) (memory right)

/-- Whether a value was read from SQLite. -/
def isSqlite : MixedValue δ → Bool
  | .sqlite _ => true
  | _ => false

/-- What a value holds, a string as a C string does. -/
inductive Content (δ : Type) where
  | stored (storageClass : StorageClass) (blob : StdString)
  | null
  | text (bytes : StdString)
  | int (value : Int32)
  | int64 (value : Int64)
  | double (value : δ)

/-- The content of a value. -/
def content : MixedValue δ → Content δ
  | .sqlite value => .stored value.storageClass (value.blobOf sqlite)
  | .null => .null
  | .string bytes => .text bytes
  | .chars text => .text text.bytes
  | .int value => .int value
  | .int64 value => .int64 value
  | .double value => .double value

/-- The same content, doubles taken up to `==`. -/
def Content.Alike (left right : Content δ) : Prop :=
  left = right ∨ ∃ first second,
    left = .double first ∧ right = .double second ∧ double.equals first second = true

/-- The pairs of values that are taken for equal without being so: a value from SQLite and null,
and a C string and a string that goes on after its end. -/
def Confused : MixedValue δ → MixedValue δ → Prop
  | .sqlite _, .null => True
  | .null, .sqlite _ => True
  | .chars text, .string bytes => cStr bytes = text.bytes ∧ bytes ≠ text.bytes
  | _, _ => False

/-- The laws of `operator==` over the objects in memory. -/
structure Laws {ι : Type} [DecidableEq ι] (memory : ι → MixedValue δ) : Prop where
  refl : ∀ left right, memory left = memory right →
    operatorEquals sqlite double memory left right = true
  symm : ∀ left right, operatorEquals sqlite double memory left right = true →
    operatorEquals sqlite double memory right left = true
  trans : ∀ first second third, operatorEquals sqlite double memory first second = true →
    operatorEquals sqlite double memory second third = true →
    operatorEquals sqlite double memory first third = true
  text : ∀ left right bytes text, memory left = .string bytes → memory right = .chars text →
    (operatorEquals sqlite double memory left right = true ↔ bytes = text.bytes) ∧
      (operatorEquals sqlite double memory right left = true ↔ bytes = text.bytes)
  apart : ∀ left right, (memory left).isSqlite = true → (memory right).isSqlite = false →
    operatorEquals sqlite double memory left right = false ∧
      operatorEquals sqlite double memory right left = false

end MixedValue

end Andromeda.Database
