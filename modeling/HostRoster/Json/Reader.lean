import HostRoster.Document

/-!
# Documents from JSON text

`Json.read` reads one JSON text. A text that merely ends too early is told apart from one that is
wrong where it stands, and what had been read of it is handed out.

**Numbers.** A whole number that fits 64 bits, signed or unsigned, stays whole. Every other number
becomes a floating point number by the quick rule of stream readers: the leading digits that fit an
unsigned word of 64 bits are rounded to a floating point number, which is then multiplied or
divided by the rounded power of ten.

**Objects.** Members are sorted by key, and the last of several with one key stays;
`Json.readAsWritten` keeps all members in the order of the text.

**Depth.** Arrays and objects may be nested 127 deep.
-/

set_option autoImplicit false

namespace HostRoster.Json

/-- Why a text is not JSON. -/
inductive ReadFault where
  /-- The text ends inside a document; of an array or an object, what there was comes with it. -/
  | endOfText (begun : Option Document)
  /-- The text is wrong where it stands. -/
  | malformed
  deriving Repr, Inhabited

/-- What reading a part of a text gives: the part and the text behind it. -/
abbrev Reading (α : Type) := Except ReadFault (α × List Char)

/-- The text behind its leading blanks. -/
def skipBlanks (text : List Char) : List Char :=
  text.dropWhile fun c => c == ' ' || c == '\n' || c == '\t' || c == '\r'

/-- Reads the letters of a word that has begun. -/
def readWord : List Char → List Char → Reading Unit
  | [], text => .ok ((), text)
  | _ :: _, [] => .error (.endOfText none)
  | letter :: word, c :: text => if letter = c then readWord word text else .error .malformed

/-! ## Strings -/

/-- The value of a hexadecimal digit. -/
def hexValue? (c : Char) : Option Nat :=
  if '0' ≤ c ∧ c ≤ '9' then some (c.toNat - '0'.toNat)
  else if 'a' ≤ c ∧ c ≤ 'f' then some (c.toNat - 'a'.toNat + 10)
  else if 'A' ≤ c ∧ c ≤ 'F' then some (c.toNat - 'A'.toNat + 10)
  else none

/-- Reads the four hexadecimal digits of a code unit. -/
def readUnit : List Char → Reading Nat
  | a :: b :: c :: d :: text =>
    match hexValue? a, hexValue? b, hexValue? c, hexValue? d with
    | some a, some b, some c, some d => .ok (((a * 16 + b) * 16 + c) * 16 + d, text)
    | _, _, _, _ => .error .malformed
  | _ => .error (.endOfText none)

/-- Reads the code point of an escape whose `\u` has been read; two units of sixteen bits make one
code point above the basic plane, and one of them alone is wrong. -/
def readCodePoint (text : List Char) : Reading Char :=
  match readUnit text with
  | .error fault => .error fault
  | .ok (unit, text) =>
    if 0xDC00 ≤ unit ∧ unit ≤ 0xDFFF then .error .malformed
    else if 0xD800 ≤ unit ∧ unit ≤ 0xDBFF then
      match text with
      | [] => .error (.endOfText none)
      | '\\' :: [] => .error (.endOfText none)
      | '\\' :: 'u' :: text =>
        match readUnit text with
        | .error fault => .error fault
        | .ok (second, text) =>
          if 0xDC00 ≤ second ∧ second ≤ 0xDFFF then
            .ok (Char.ofNat (0x10000 + (unit - 0xD800) * 0x400 + (second - 0xDC00)), text)
          else .error .malformed
      | _ => .error .malformed
    else .ok (Char.ofNat unit, text)

/-- The character that a one-letter escape stands for. -/
def escapedChar? : Char → Option Char
  | '"' => some '"'
  | '\\' => some '\\'
  | '/' => some '/'
  | 'b' => some '\x08'
  | 'f' => some '\x0c'
  | 'n' => some '\n'
  | 'r' => some '\r'
  | 't' => some '\t'
  | _ => none

/-- Reads the rest of a string whose opening quote has been read; `held` holds the characters read
so far, the last one first. -/
def readString (fuel : Nat) (held : List Char) (text : List Char) : Reading String :=
  match fuel, text with
  | 0, _ => .error (.endOfText none)
  | _, [] => .error (.endOfText none)
  | _, '"' :: text => .ok (String.ofList held.reverse, text)
  | _, '\\' :: [] => .error (.endOfText none)
  | fuel + 1, '\\' :: 'u' :: text =>
    match readCodePoint text with
    | .ok (c, text) => readString fuel (c :: held) text
    | .error fault => .error fault
  | fuel + 1, '\\' :: letter :: text =>
    match escapedChar? letter with
    | some c => readString fuel (c :: held) text
    | none => .error .malformed
  | fuel + 1, c :: text =>
    if c.toNat < 0x20 then .error .malformed else readString fuel (c :: held) text

/-! ## Numbers -/

/-- Whether a character is a decimal digit. -/
def isDigit (c : Char) : Bool := '0' ≤ c && c ≤ '9'

/-- The value of decimal digits. -/
def digitsValue (digits : List Char) : Nat :=
  digits.foldl (fun value c => value * 10 + (c.toNat - '0'.toNat)) 0

/-- The first natural number that does not fit an unsigned word of 64 bits. -/
def wordLimit : Nat := Nat.pow 2 64

/-- Takes leading digits into a word as long as they fit, and counts the digits left over. -/
def fillWord (start : Nat) : List Char → Nat × Nat
  | [] => (start, 0)
  | c :: rest =>
    let next := start * 10 + (c.toNat - '0'.toNat)
    if next < wordLimit then fillWord next rest else (start, rest.length + 1)

/-- Divides by powers of ten that a floating point number can hold, the largest first. -/
def divideByPower (fuel : Nat) (value : Binary64) (power : Nat) : Binary64 :=
  match fuel with
  | 0 => value
  | fuel + 1 =>
    if power ≤ 308 then value.divide (.ofNat (Nat.pow 10 power))
    else if value.isZero then value
    else divideByPower fuel (value.divide (.ofNat (Nat.pow 10 308))) (power - 308)

/-- The floating point number of a word times a power of ten, if it is finite. -/
def realOfParts (negative : Bool) (word : Nat) (power : Int) : Option Binary64 :=
  let value := Binary64.ofNat word
  let scaled : Option Binary64 :=
    if power < 0 then some (divideByPower (power.natAbs / 308 + 2) value power.natAbs)
    else if power ≤ 308 then
      match value.multiply (.ofNat (Nat.pow 10 power.toNat)) with
      | .infinite _ => none
      | product => some product
    else if word = 0 then some value
    else none
  scaled.map fun value => if negative then value.negate else value

/-- The exponents beyond this size make zero or infinity of every word. -/
def exponentLimit : Nat := 100000

/-- Reads an exponent behind its letter. -/
def readExponent (text : List Char) : Reading Int :=
  let (negative, text) := match text with
    | '+' :: text => (false, text)
    | '-' :: text => (true, text)
    | text => (false, text)
  match text with
  | [] => .error (.endOfText none)
  | c :: _ =>
    if isDigit c then
      let digits := (text.takeWhile isDigit).dropWhile (· == '0')
      let size :=
        if digits.length ≤ 6 then min (digitsValue digits) exponentLimit else exponentLimit
      .ok (if negative then -(size : Int) else size, text.dropWhile isDigit)
    else .error .malformed

/-- The floating point number with the given whole digits, fraction digits and exponent. -/
def realOfDigits (negative : Bool) (whole fraction : List Char) (exponent : Int) :
    Option Binary64 :=
  let (word, surplus) := fillWord 0 whole
  if surplus = 0 then
    let (word, left) := fillWord word fraction
    realOfParts negative word (exponent - ((fraction.length - left : Nat) : Int))
  else realOfParts negative word (exponent + surplus)

/-- Reads a number whose sign has been read. -/
def readNumber (negative : Bool) (text : List Char) : Reading Document :=
  match text with
  | [] => .error (.endOfText none)
  | c :: _ =>
    let whole := text.takeWhile isDigit
    let behind := text.dropWhile isDigit
    if !isDigit c then .error .malformed
    else if c == '0' && whole.length != 1 then .error .malformed
    else
      let finish (fraction : List Char) (exponent : Int) (text : List Char) : Reading Document :=
        match realOfDigits negative whole fraction exponent with
        | some value => .ok (.real value, text)
        | none => .error .malformed
      let behindFraction (fraction : List Char) (text : List Char) : Reading Document :=
        match text with
        | 'e' :: text | 'E' :: text =>
          match readExponent text with
          | .ok (exponent, text) => finish fraction exponent text
          | .error fault => .error fault
        | text => finish fraction 0 text
      match behind with
      | '.' :: text =>
        match text with
        | [] => .error (.endOfText none)
        | d :: _ =>
          if isDigit d then behindFraction (text.takeWhile isDigit) (text.dropWhile isDigit)
          else .error .malformed
      | 'e' :: _ | 'E' :: _ => behindFraction [] behind
      | text =>
        let value := digitsValue whole
        if negative then
          if value = 0 then .ok (.real (.finite true 0 Binary64.leastExponent), text)
          else if value ≤ Nat.pow 2 63 then .ok (.integer (-(value : Int)), text)
          else finish [] 0 text
        else if value < wordLimit then .ok (.integer value, text)
        else finish [] 0 text

/-! ## Documents -/

/-- Reads what opens a document that is neither array nor object. -/
def readScalar (text : List Char) : Reading Document :=
  let word (letters : List Char) (value : Document) (text : List Char) : Reading Document :=
    (readWord letters text).map fun (_, text) => (value, text)
  match text with
  | [] => .error (.endOfText none)
  | 'n' :: text => word ['u', 'l', 'l'] .null text
  | 't' :: text => word ['r', 'u', 'e'] (.boolean true) text
  | 'f' :: text => word ['a', 'l', 's', 'e'] (.boolean false) text
  | '"' :: text =>
    (readString (text.length + 1) [] text).map fun (value, text) => (.string value, text)
  | '-' :: text => readNumber true text
  | c :: _ => if isDigit c then readNumber false text else .error .malformed

mutual

/-- Reads a document. -/
def readValue (fuel : Nat) (depth : Nat) (text : List Char) : Reading Document :=
  match fuel with
  | 0 => .error (.endOfText none)
  | fuel + 1 =>
    match skipBlanks text with
    | '[' :: text =>
      if depth ≤ 1 then .error .malformed
      else match skipBlanks text with
        | ']' :: text => .ok (.array [], text)
        | [] => .error (.endOfText (some (.array [])))
        | text => readElements fuel (depth - 1) [] text
    | '\x7b' :: text =>
      if depth ≤ 1 then .error .malformed
      else match skipBlanks text with
        | '\x7d' :: text => .ok (.object [], text)
        | [] => .error (.endOfText (some (.object [])))
        | text => readMembers fuel (depth - 1) [] text
    | text => readScalar text

/-- Reads the elements of an array from its next one on; `held` holds those read, the last one
first. -/
def readElements (fuel : Nat) (depth : Nat) (held : List Document) (text : List Char) :
    Reading Document :=
  match fuel with
  | 0 => .error (.endOfText none)
  | fuel + 1 =>
    match readValue fuel depth text with
    | .error .malformed => .error .malformed
    | .error (.endOfText begun) =>
      .error (.endOfText (some (.array (held.reverse ++ begun.toList))))
    | .ok (element, text) =>
      match skipBlanks text with
      | ',' :: text => readElements fuel depth (element :: held) text
      | ']' :: text => .ok (.array (element :: held).reverse, text)
      | [] => .error (.endOfText (some (.array (element :: held).reverse)))
      | _ => .error .malformed

/-- Reads the members of an object from its next one on; `held` holds those read, the last one
first. -/
def readMembers (fuel : Nat) (depth : Nat) (held : List (String × Document)) (text : List Char) :
    Reading Document :=
  match fuel with
  | 0 => .error (.endOfText none)
  | fuel + 1 =>
    match skipBlanks text with
    | [] => .error (.endOfText (some (.object held.reverse)))
    | '"' :: text =>
      match readString (text.length + 1) [] text with
      | .error .malformed => .error .malformed
      | .error (.endOfText _) => .error (.endOfText (some (.object held.reverse)))
      | .ok (key, text) =>
        match skipBlanks text with
        | ':' :: text =>
          match readValue fuel depth text with
          | .error .malformed => .error .malformed
          | .error (.endOfText begun) =>
            let member := begun.map fun value => (key, value)
            .error (.endOfText (some (.object (held.reverse ++ member.toList))))
          | .ok (value, text) =>
            match skipBlanks text with
            | ',' :: text => readMembers fuel depth ((key, value) :: held) text
            | '\x7d' :: text =>
              .ok (.object ((key, value) :: held).reverse, text)
            | [] => .error (.endOfText (some (.object ((key, value) :: held).reverse)))
            | _ => .error .malformed
        | [] => .error (.endOfText (some (.object held.reverse)))
        | _ => .error .malformed
    | _ => .error .malformed

end

/-- Reads a whole text as one document, with all members in the order of the text. -/
def readAsWritten (text : String) : Except ReadFault Document :=
  let characters := text.toList
  match readValue (2 * characters.length + 2) 128 characters with
  | .error fault => .error fault
  | .ok (document, rest) => if skipBlanks rest = [] then .ok document else .error .malformed

/-- Reads a whole text as one document. -/
def read (text : String) : Except ReadFault Document := (readAsWritten text).map Document.sorted

end HostRoster.Json
