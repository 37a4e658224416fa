import Mathlib.Data.UInt

/-! The base64 encoding of byte strings. -/

set_option autoImplicit false

namespace Andromeda.Text.Base64

/-- The bytes of a text in ASCII. -/
def ascii (text : String) : List UInt8 := text.toList.map fun symbol => UInt8.ofNat symbol.toNat

/-- `kEncodeLookup`. -/
def kEncodeLookup : List UInt8 :=
  ascii "ABCDEFGHIJKLMNOPQRSTUVWXYZabcdefghijklmnopqrstuvwxyz0123456789+/"

/-- `kPadCharacter`. -/
def kPadCharacter : UInt8 := 61

/-- A character of the table. -/
def symbol (index : Nat) : UInt8 := kEncodeLookup.getD index 0

/-- The character for six bits of a group. -/
def lookup (temp mask shift : UInt32) : UInt8 := symbol ((temp &&& mask) >>> shift).toNat

/-- `encode`. -/
def encode : List UInt8 → List UInt8
  | first :: second :: third :: rest =>
    let temp := first.toUInt32 <<< 16 ||| second.toUInt32 <<< 8 ||| third.toUInt32
    lookup temp 0x00FC0000 18 :: lookup temp 0x0003F000 12 :: lookup temp 0x00000FC0 6 ::
      lookup temp 0x0000003F 0 :: encode rest
  | [first, second] =>
    let temp := first.toUInt32 <<< 16 ||| second.toUInt32 <<< 8
    [lookup temp 0x00FC0000 18, lookup temp 0x0003F000 12, lookup temp 0x00000FC0 6,
      kPadCharacter]
  | [first] =>
    let temp := first.toUInt32 <<< 16
    [lookup temp 0x00FC0000 18, lookup temp 0x0003F000 12, kPadCharacter, kPadCharacter]
  | [] => []

example : encode (ascii "any carnal pleas") = ascii "YW55IGNhcm5hbCBwbGVhcw==" := by decide +kernel

end Andromeda.Text.Base64
