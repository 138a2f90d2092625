import HostRoster.Encoding.Bytes

/-!
# Tagged encodings

An element is a tag byte, a length and as many bytes of content. Lengths are written with the
fewest bytes, at most three in all, and tags have one byte. A reader gives the first element of a
byte string and the bytes behind it. How long the content may be depends on what is read
(`Der.Subject`).
-/

set_option autoImplicit false

namespace HostRoster.Der

/-! ## Tags -/

/-- A truth value. -/
def boolean : UInt8 := 0x01
/-- A whole number. -/
def integer : UInt8 := 0x02
/-- A string of bits. -/
def bitString : UInt8 := 0x03
/-- A string of bytes. -/
def octetString : UInt8 := 0x04
/-- The name of an object. -/
def objectIdentifier : UInt8 := 0x06
/-- A sequence of elements. -/
def sequence : UInt8 := 0x30
/-- A set of elements. -/
def set : UInt8 := 0x31
/-- A point of time with a year of two digits. -/
def shortTime : UInt8 := 0x17
/-- A point of time with a year of four digits. -/
def longTime : UInt8 := 0x18
/-- The element with a number of its own in its context, made of bytes. -/
def context (number : UInt8) : UInt8 := 0x80 + number
/-- The element with a number of its own in its context, made of elements. -/
def contextConstructed (number : UInt8) : UInt8 := 0xA0 + number

/-! ## Reading -/

/-- Takes content of a length off a byte string that holds it. -/
def takeContent (tag : UInt8) (length : Nat) (rest : Bytes) : Option ((UInt8 × Bytes) × Bytes) :=
  if length ≤ rest.length then some ((tag, rest.take length), rest.drop length) else none

/-- What is read. -/
inductive Subject where
  /-- A certificate. -/
  | certificate
  /-- A key or a signature. -/
  | key
  deriving DecidableEq, Repr

/-- The length that content has to stay below. A key may use all lengths of three bytes. -/
def Subject.limit : Subject → Nat
  | .certificate => 65535
  | .key => 65536

/-- The first element, as tag and content, and the bytes behind it. -/
def readElement (subject : Subject) : Bytes → Option ((UInt8 × Bytes) × Bytes)
  | tag :: first :: rest =>
    if tag &&& 0x1F = 0x1F then none
    else if first < 0x80 then takeContent tag first.toNat rest
    else if first = 0x81 then
      match rest with
      | length :: rest => if length < 0x80 then none else takeContent tag length.toNat rest
      | [] => none
    else if first = 0x82 then
      match rest with
      | high :: low :: rest =>
        let length := high.toNat * 256 + low.toNat
        if length < 256 ∨ subject.limit ≤ length then none else takeContent tag length rest
      | _ => none
    else none
  | _ => none

/-- The content of the first element, if it has the tag, and the bytes behind it. -/
def expect (subject : Subject) (tag : UInt8) (bytes : Bytes) : Option (Bytes × Bytes) :=
  match readElement subject bytes with
  | some ((found, content), rest) => if found = tag then some (content, rest) else none
  | none => none

/-- The content of the only element, if it has the tag. -/
def only (subject : Subject) (tag : UInt8) (bytes : Bytes) : Option Bytes :=
  match expect subject tag bytes with
  | some (content, []) => some content
  | _ => none

/-- Whether the first byte is the tag. -/
def nextIs (tag : UInt8) (bytes : Bytes) : Bool := bytes.head? == some tag

/-- The bytes of a whole number that is not negative, without the zero byte that only keeps its
sign. Other leading zero bytes are refused. -/
def magnitude? : Bytes → Option Bytes
  | [] => none
  | [byte] => if byte < 0x80 then some [byte] else none
  | first :: second :: rest =>
    if first = 0 then
      if second < 0x80 then none else some (second :: rest)
    else if first < 0x80 then some (first :: second :: rest)
    else none

/-- The first element as a whole number that is not negative, by its bytes. -/
def natural (subject : Subject) (bytes : Bytes) : Option (Bytes × Bytes) :=
  match expect subject integer bytes with
  | some (content, rest) => (magnitude? content).map (·, rest)
  | none => none

/-- The first element as a number of one byte. -/
def smallNatural (subject : Subject) (bytes : Bytes) : Option (Nat × Bytes) :=
  match natural subject bytes with
  | some ([byte], rest) => some (byte.toNat, rest)
  | _ => none

/-- The bytes of a bit string without unused bits. -/
def wholeBits? : Bytes → Option Bytes
  | 0 :: bytes => some bytes
  | _ => none

/-- The first element as a bit string without unused bits. -/
def bits (subject : Subject) (bytes : Bytes) : Option (Bytes × Bytes) :=
  match expect subject bitString bytes with
  | some (content, rest) => (wholeBits? content).map (·, rest)
  | none => none

/-! ## Writing -/

/-- The bytes of a length. -/
def lengthBytes (length : Nat) : Bytes :=
  if length < 0x80 then [UInt8.ofNat length]
  else
    let digits := Bytes.ofNumberShort length
    UInt8.ofNat (0x80 + digits.length) :: digits

/-- An element. -/
def element (tag : UInt8) (content : Bytes) : Bytes :=
  tag :: (lengthBytes content.length ++ content)

/-- A whole number above zero as an element. -/
def integerElement (value : Nat) : Bytes :=
  let digits := Bytes.ofNumberShort value
  element integer (match digits with
    | [] => [0]
    | first :: rest => if first < 0x80 then first :: rest else 0 :: first :: rest)

/-- A bit string of whole bytes as an element. -/
def bitsElement (content : Bytes) : Bytes := element bitString (0 :: content)

end HostRoster.Der
