/-!
# Byte strings

Byte strings are lists of bytes. They are read as numbers with the most significant byte first.
-/

set_option autoImplicit false

namespace HostRoster

/-- A byte string. -/
abbrev Bytes := List UInt8

namespace Bytes

/-- The bytes of a text in UTF-8. -/
def ofText (text : String) : Bytes := text.toUTF8.toList

/-- The text that a byte string is in UTF-8, if it is one. -/
def text? (bytes : Bytes) : Option String := String.fromUTF8? (ByteArray.mk bytes.toArray)

/-- The number that bytes stand for, the most significant byte first. -/
def number (bytes : Bytes) : Nat :=
  bytes.foldl (fun value byte => value * 256 + byte.toNat) 0

/-- The last `width` bytes of a number, the most significant byte first. -/
def ofNumber (width : Nat) (value : Nat) : Bytes :=
  ((List.range width).map fun place => UInt8.ofNat (value / Nat.pow 256 place % 256)).reverse

/-- The bytes of a number without leading zero bytes. -/
def ofNumberShort (value : Nat) : Bytes :=
  if value = 0 then [] else ofNumber (value.log2 / 8 + 1) value

/-- A byte as two hexadecimal digits. -/
def hexByte (byte : UInt8) : List Char :=
  [Nat.digitChar (byte.toNat / 16), Nat.digitChar (byte.toNat % 16)]

/-- A byte string in lower-case hexadecimal. -/
def hex (bytes : Bytes) : String := String.ofList (bytes.flatMap hexByte)

end Bytes

end HostRoster
