import HostRoster.Encoding.Bytes

/-!
# Base64

`encode` writes byte strings in the alphabet of 64 digits with padding. `decode` reads such texts:
blanks are skipped, the padding may be left out, and nothing may follow it. `decodeStrictly` reads
nothing but what `encode` writes.
-/

set_option autoImplicit false

namespace HostRoster.Base64

/-! ## Digits -/

/-- The sign `=` that fills the last group up. -/
def padding : UInt8 := 61

/-- The value of a digit. -/
def value? (digit : UInt8) : Option Nat :=
  if 65 ≤ digit ∧ digit ≤ 90 then some (digit.toNat - 65)
  else if 97 ≤ digit ∧ digit ≤ 122 then some (digit.toNat - 71)
  else if 48 ≤ digit ∧ digit ≤ 57 then some (digit.toNat + 4)
  else if digit = 43 then some 62
  else if digit = 47 then some 63
  else none

/-- The digit of a value below 64. -/
def digit (value : Nat) : UInt8 :=
  if value < 26 then UInt8.ofNat (value + 65)
  else if value < 52 then UInt8.ofNat (value + 71)
  else if value < 62 then UInt8.ofNat (value - 4)
  else if value = 62 then 43
  else 47

/-- Whether a byte is a blank: a space, or a control from tab to carriage return. -/
def isBlank (byte : UInt8) : Bool := byte == 32 || (9 ≤ byte && byte ≤ 13)

/-! ## Writing -/

/-- The digits of a byte string, in groups of four. -/
def encode : Bytes → Bytes
  | [] => []
  | [a] =>
    let group := a.toNat * 65536
    [digit (group / 262144), digit (group / 4096 % 64), padding, padding]
  | [a, b] =>
    let group := a.toNat * 65536 + b.toNat * 256
    [digit (group / 262144), digit (group / 4096 % 64), digit (group / 64 % 64), padding]
  | a :: b :: c :: rest =>
    let group := a.toNat * 65536 + b.toNat * 256 + c.toNat
    digit (group / 262144) :: digit (group / 4096 % 64) :: digit (group / 64 % 64) ::
      digit (group % 64) :: encode rest

/-! ## Reading -/

/-- The bytes of a whole number of digit values; one value alone at the end stands for no byte. -/
def bytesOfValues : List Nat → Option Bytes
  | [] => some []
  | [_] => none
  | [a, b] => some [UInt8.ofNat ((a * 64 + b) / 16)]
  | [a, b, c] =>
    let group := (a * 64 + b) * 64 + c
    some [UInt8.ofNat (group / 1024), UInt8.ofNat (group / 4 % 256)]
  | a :: b :: c :: d :: rest =>
    let group := ((a * 64 + b) * 64 + c) * 64 + d
    (bytesOfValues rest).map fun bytes =>
      UInt8.ofNat (group / 65536) :: UInt8.ofNat (group / 256 % 256) ::
        UInt8.ofNat (group % 256) :: bytes

/-- The byte string of base64 text. Padding is either left out or fills the last group of four. -/
def decode (text : Bytes) : Option Bytes :=
  let digits := text.filter (! isBlank ·)
  let body := digits.takeWhile (· != padding)
  let tail := digits.dropWhile (· != padding)
  let complete := tail.isEmpty ||
    (tail.all (· == padding) && tail.length ≤ 2 && (body.length + tail.length) % 4 == 0)
  if complete then (body.mapM value?).bind bytesOfValues else none

/-- The byte string whose base64 text is the given one. -/
def decodeStrictly (text : Bytes) : Option Bytes :=
  (decode text).bind fun bytes => if encode bytes = text then some bytes else none

end HostRoster.Base64
