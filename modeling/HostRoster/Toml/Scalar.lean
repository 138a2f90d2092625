import HostRoster.Certificate.Time
import HostRoster.Document

/-!
# The scalars of TOML

Strings of the four kinds, numbers and points of time. A reader gives what it has read and the text
behind it, or nothing if the text does not go on as it has to.

**Strings.** A line end inside a string of several lines is one line feed, however it is written.
A string of several lines may end in one or two quotes of its own.

**Numbers.** Whole numbers fit signed words of 64 bits. A floating point number is the nearest
one; only positive overflow is refused.
-/

set_option autoImplicit false

namespace HostRoster.Toml

/-- What a reader gives: a part of the text and the text behind it. -/
abbrev Reading (α : Type) := Option (α × List Char)

/-! ## Characters -/

/-- Whether a character is a blank inside a line. -/
def isBlank (c : Char) : Bool := c == ' ' || c == '\t'

/-- Whether a character may stand in a comment: no control but the tab. -/
def isPlain (c : Char) : Bool := c == '\t' || (0x20 ≤ c.toNat && c.toNat != 0x7F)

/-- The text behind its leading blanks. -/
def skipBlanks (text : List Char) : List Char := text.dropWhile isBlank

/-- The text behind a line end, if it starts with one. -/
def readLineEnd : List Char → Option (List Char)
  | '\n' :: text => some text
  | '\r' :: '\n' :: text => some text
  | _ => none

/-- The text behind a comment, if it starts with one. -/
def skipComment : List Char → List Char
  | '#' :: text => text.dropWhile isPlain
  | text => text

/-- Whether a character is a decimal digit. -/
def isDigit (c : Char) : Bool := '0' ≤ c && c ≤ '9'

/-- The value of a digit, up to sixteen. -/
def digitValue (c : Char) : Nat :=
  if isDigit c then c.toNat - 48
  else if 'a' ≤ c ∧ c ≤ 'f' then c.toNat - 87
  else if 'A' ≤ c ∧ c ≤ 'F' then c.toNat - 55
  else 16

/-- Whether a character is a digit in a base of up to sixteen. -/
def isDigitIn (base : Nat) (c : Char) : Bool := digitValue c < base

/-- The number that digits stand for. -/
def numberIn (base : Nat) (digits : List Char) : Nat :=
  digits.foldl (fun value c => value * base + digitValue c) 0

/-! ## Strings -/

/-- The character of a code point that digits of base sixteen stand for. -/
def readCodePoint (width : Nat) (text : List Char) : Reading Char :=
  let digits := text.take width
  let code := numberIn 16 digits
  if digits.length = width ∧ digits.all (isDigitIn 16) ∧
      (code < 0xD800 ∨ 0xDFFF < code) ∧ code < 0x110000 then
    some (Char.ofNat code, text.drop width)
  else none

/-- The character that stands behind a backslash. -/
def readEscape : List Char → Reading Char
  | 'b' :: text => some ('\x08', text)
  | 'f' :: text => some ('\x0c', text)
  | 'n' :: text => some ('\n', text)
  | 'r' :: text => some ('\r', text)
  | 't' :: text => some ('\t', text)
  | '"' :: text => some ('"', text)
  | '\\' :: text => some ('\\', text)
  | 'u' :: text => readCodePoint 4 text
  | 'U' :: text => readCodePoint 8 text
  | _ => none

/-- Reads the rest of a quoted string of one line; `held` has the characters read, last first. -/
def readQuoted (fuel : Nat) (held : List Char) (text : List Char) : Reading String :=
  match fuel, text with
  | 0, _ => none
  | _, [] => none
  | _, '"' :: text => some (String.ofList held.reverse, text)
  | fuel + 1, '\\' :: text =>
    match readEscape text with
    | some (c, text) => readQuoted fuel (c :: held) text
    | none => none
  | fuel + 1, c :: text => if isPlain c then readQuoted fuel (c :: held) text else none

/-- Reads the rest of a literal string of one line. -/
def readLiteral (text : List Char) : Reading String :=
  let isInside (c : Char) : Bool := isPlain c && c != '\''
  match text.dropWhile isInside with
  | '\'' :: rest => some (String.ofList (text.takeWhile isInside), rest)
  | _ => none

/-- The text behind all blanks and line ends. -/
def skipLines (fuel : Nat) (text : List Char) : List Char :=
  match fuel with
  | 0 => text
  | fuel + 1 =>
    let text := skipBlanks text
    match readLineEnd text with
    | some text => skipLines fuel text
    | none => text

/-- The string that `held` stands for when three quotes have been met: up to two quotes more belong
to the string. -/
def closeLines (mark : Char) (held : List Char) (text : List Char) : Reading String :=
  match text with
  | a :: b :: rest =>
    if a = mark ∧ b = mark then some (String.ofList (mark :: mark :: held).reverse, rest)
    else if a = mark then some (String.ofList (mark :: held).reverse, b :: rest)
    else some (String.ofList held.reverse, text)
  | [a] =>
    if a = mark then some (String.ofList (mark :: held).reverse, [])
    else some (String.ofList held.reverse, text)
  | [] => some (String.ofList held.reverse, [])

/-- Reads the rest of a string of several lines between marks of three quotes. When `escapes`
holds, a backslash starts an escape, and one at the end of a line joins the next text to it. -/
def readLines (mark : Char) (escapes : Bool) (fuel : Nat) (held : List Char)
    (text : List Char) : Reading String :=
  match fuel with
  | 0 => none
  | fuel + 1 =>
    match readLineEnd text with
    | some text => readLines mark escapes fuel ('\n' :: held) text
    | none =>
      match text with
      | [] => none
      | c :: rest =>
        if c = mark then
          match rest with
          | d :: e :: behind =>
            if d = mark ∧ e = mark then closeLines mark held behind
            else readLines mark escapes fuel (mark :: held) rest
          | _ => none
        else if c = '\\' ∧ escapes then
          match readLineEnd (skipBlanks rest) with
          | some behind => readLines mark escapes fuel held (skipLines behind.length behind)
          | none =>
            match readEscape rest with
            | some (character, rest) => readLines mark escapes fuel (character :: held) rest
            | none => none
        else if isPlain c then readLines mark escapes fuel (c :: held) rest
        else none

/-- Reads a string of several lines whose marks have been read; a line end right behind them does
not count. -/
def readText (mark : Char) (escapes : Bool) (text : List Char) : Reading String :=
  readLines mark escapes (text.length + 1) [] ((readLineEnd text).getD text)

/-- Reads a string of any kind. -/
def readString : List Char → Reading String
  | '"' :: '"' :: '"' :: text => readText '"' true text
  | '\'' :: '\'' :: '\'' :: text => readText '\'' false text
  | '"' :: text => readQuoted (text.length + 1) [] text
  | '\'' :: text => readLiteral text
  | _ => none

/-! ## Numbers -/

/-- Takes digits with single low lines between them; `held` has the digits taken, last first. -/
def takeDigits (base : Nat) : List Char → List Char → Reading (List Char)
  | held, '_' :: c :: text =>
    if held = [] then some ([], '_' :: c :: text)
    else if isDigitIn base c then takeDigits base (c :: held) text else none
  | held, c :: text =>
    if isDigitIn base c then takeDigits base (c :: held) text
    else if c = '_' ∧ held ≠ [] then none
    else some (held.reverse, c :: text)
  | held, [] => some (held.reverse, [])

/-- Reads one digit or more. -/
def readDigits (base : Nat) (text : List Char) : Reading (List Char) :=
  match takeDigits base [] text with
  | some ([], _) => none
  | reading => reading

/-- A sign, if there is one, and the text behind it. -/
def readSign : List Char → Option Bool × List Char
  | '+' :: text => (some false, text)
  | '-' :: text => (some true, text)
  | text => (none, text)

/-- Reads the digits of a decimal number: a zero stands alone. -/
def readWhole : List Char → Reading (List Char)
  | '0' :: text => some (['0'], text)
  | text => readDigits 10 text

/-- Reads an exponent, if there is one. -/
def readExponent (text : List Char) : Option (Option Int × List Char) :=
  match text with
  | 'e' :: rest | 'E' :: rest =>
    let (sign, rest) := readSign rest
    match readDigits 10 rest with
    | some (digits, rest) =>
      let value := numberIn 10 digits
      some (some (if sign = some true then -(value : Int) else value), rest)
    | none => none
  | _ => some (none, text)

/-- Reads the digits behind a point, if there is one. -/
def readFraction : List Char → Option (Option (List Char) × List Char)
  | '.' :: text =>
    match readDigits 10 text with
    | some (digits, text) => some (some digits, text)
    | none => none
  | text => some (none, text)

/-- The floating point number of digits and an exponent, unless it is too large. -/
def realOf (negative : Bool) (whole fraction : List Char) (exponent : Int) : Option Document :=
  match Binary64.ofDecimal negative (numberIn 10 (whole ++ fraction))
      (exponent - (fraction.length : Int)) with
  | .infinite false => none
  | value => some (.real value)

/-- A whole number, if it fits a signed word of 64 bits. -/
def integerOf (negative : Bool) (value : Nat) : Option Document :=
  if negative then (if value ≤ Nat.pow 2 63 then some (.integer (-(value : Int))) else none)
  else if value < Nat.pow 2 63 then some (.integer value) else none

/-- Reads digits of a base behind its two-letter mark. -/
def readInBase (base : Nat) (text : List Char) : Reading Document :=
  match readDigits base text with
  | some (digits, text) => (integerOf false (numberIn base digits)).map (·, text)
  | none => none

/-- Reads a decimal number behind its sign. -/
def readDecimal (negative : Bool) (text : List Char) : Reading Document :=
  match readWhole text with
  | none => none
  | some (whole, text) =>
    match readFraction text with
    | none => none
    | some (fraction, text) =>
      match readExponent text with
      | none => none
      | some (exponent, text) =>
        match fraction, exponent with
        | none, none => (integerOf negative (numberIn 10 whole)).map (·, text)
        | _, _ =>
          (realOf negative whole (fraction.getD []) (exponent.getD 0)).map (·, text)

/-- Reads a number. -/
def readNumber (text : List Char) : Reading Document :=
  match text with
  | '0' :: 'x' :: text => readInBase 16 text
  | '0' :: 'o' :: text => readInBase 8 text
  | '0' :: 'b' :: text => readInBase 2 text
  | _ =>
    let (sign, text) := readSign text
    match text with
    | 'i' :: 'n' :: 'f' :: text => some (.real (.infinite (sign == some true)), text)
    | 'n' :: 'a' :: 'n' :: text => some (.real .nan, text)
    | _ => readDecimal (sign == some true) text

/-! ## Points of time -/

/-- The key under which the document of a point of time holds its text. -/
def momentKey : String := "datetime"

/-- Reads a number of exactly `width` digits from `least` to `most`. -/
def readField (width least most : Nat) (text : List Char) : Reading Nat :=
  let digits := text.take width
  let value := numberIn 10 digits
  if digits.length = width ∧ digits.all isDigit ∧ least ≤ value ∧ value ≤ most then
    some (value, text.drop width)
  else none

/-- The text behind a character, if it starts with that. -/
def skipMark (mark : Char) : List Char → Option (List Char)
  | c :: text => if c = mark then some text else none
  | [] => none

/-- The text behind a date. -/
def skipDate (text : List Char) : Option (List Char) := do
  let (year, text) ← readField 4 0 9999 text
  let text ← skipMark '-' text
  let (month, text) ← readField 2 1 12 text
  let text ← skipMark '-' text
  let (_, text) ← readField 2 1 (Calendar.daysInMonth year month) text
  some text

/-- The text behind a fraction of a second, if there is one. -/
def skipSecondFraction : List Char → Option (List Char)
  | '.' :: text =>
    match text with
    | c :: _ => if isDigit c then some (text.dropWhile isDigit) else none
    | [] => none
  | text => some text

/-- The text behind a time of day. -/
def skipTime (text : List Char) : Option (List Char) := do
  let (_, text) ← readField 2 0 23 text
  let text ← skipMark ':' text
  let (_, text) ← readField 2 0 59 text
  let text ← skipMark ':' text
  let (_, text) ← readField 2 0 60 text
  skipSecondFraction text

/-- The text behind the distance from universal time, if there is one. -/
def skipOffset (text : List Char) : Option (List Char) :=
  match text with
  | 'Z' :: text | 'z' :: text => some text
  | '+' :: rest | '-' :: rest => do
    let (_, rest) ← readField 2 0 23 rest
    let rest ← skipMark ':' rest
    let (_, rest) ← readField 2 0 59 rest
    some rest
  | _ => some text

/-- The text behind a time of day that follows a date, if there is one. -/
def skipTimeOfDate (text : List Char) : Option (List Char) :=
  match text with
  | c :: rest =>
    if c = 'T' ∨ c = 't' ∨ c = ' ' then
      match skipTime rest with
      | some rest => skipOffset rest
      | none => some text
    else some text
  | [] => some []

/-- The text behind a point of time. -/
def skipMoment (text : List Char) : Option (List Char) :=
  match skipDate text with
  | some text => skipTimeOfDate text
  | none => skipTime text

/-- Reads a number or a point of time. -/
def readNumberOrMoment (text : List Char) : Reading Document :=
  match skipMoment text with
  | some rest =>
    let shown := String.ofList (text.take (text.length - rest.length))
    some (.object [(momentKey, .string shown)], rest)
  | none => readNumber text

end HostRoster.Toml
