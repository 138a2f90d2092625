import HostRoster.Certificate.Time
import HostRoster.Text.Blank

/-!
# Points of time in resources

Resources write points of time in the form `2024-05-06T07:08:09Z`. `Moment.read` takes the form
with some liberties: fewer digits, blanks around the parts, a space between date and time, a
fraction of a second, and a distance to universal time. `Moment.text` writes the form itself, in
universal time and without the fraction.
-/

set_option autoImplicit false

namespace HostRoster

/-- A point of time in universal time, to the second; a leap second is the second 60. -/
structure Moment where
  /-- The year. -/
  year : Int
  /-- The month, from 1. -/
  month : Nat
  /-- The day, from 1. -/
  day : Nat
  /-- The hour. -/
  hour : Nat
  /-- The minute. -/
  minute : Nat
  /-- The second. -/
  second : Nat
  deriving DecidableEq, Repr

namespace Moment

/-! ## The calendar -/

/-- The days of a month; the calendar repeats after 400 years. -/
def daysIn (year : Int) (month : Nat) : Nat := Calendar.daysInMonth (year % 400).toNat month

/-- The largest distance of a year from the year zero. -/
def yearLimit : Int := 262142

/-- Whether the parts name a day and a second. -/
def isValid (moment : Moment) : Bool :=
  -yearLimit ≤ moment.year && moment.year ≤ yearLimit &&
  1 ≤ moment.month && moment.month ≤ 12 &&
  1 ≤ moment.day && moment.day ≤ daysIn moment.year moment.month &&
  moment.hour ≤ 23 && moment.minute ≤ 59 && moment.second ≤ 60

/-- The same time a day earlier. -/
def dayBefore (moment : Moment) : Moment :=
  if 1 < moment.day then { moment with day := moment.day - 1 }
  else if 1 < moment.month then
    { moment with month := moment.month - 1, day := daysIn moment.year (moment.month - 1) }
  else { moment with year := moment.year - 1, month := 12, day := 31 }

/-- The same time a day later. -/
def dayAfter (moment : Moment) : Moment :=
  if moment.day < daysIn moment.year moment.month then { moment with day := moment.day + 1 }
  else if moment.month < 12 then { moment with month := moment.month + 1, day := 1 }
  else { moment with year := moment.year + 1, month := 1, day := 1 }

/-- The moment with other minutes since midnight, which may belong to the day before or after. -/
def withMinutes (moment : Moment) (minutes : Int) : Moment :=
  let moment :=
    if minutes < 0 then moment.dayBefore else if 1440 ≤ minutes then moment.dayAfter else moment
  let ofDay := (minutes % 1440).toNat
  { moment with hour := ofDay / 60, minute := ofDay % 60 }

/-- Universal time for a local time that is so many minutes ahead. -/
def toUniversal (moment : Moment) (ahead : Int) : Moment :=
  moment.withMinutes (moment.hour * 60 + moment.minute - ahead)

/-! ## Reading -/

/-- The text behind its leading blanks. -/
def skipBlanks (text : List Char) : List Char := text.dropWhile Blank.isBlank

/-- Whether a character is a decimal digit. -/
def isDigit (c : Char) : Bool := '0' ≤ c && c ≤ '9'

/-- The number that digits stand for. -/
def digitsValue (digits : List Char) : Nat :=
  digits.foldl (fun value digit => value * 10 + (digit.toNat - '0'.toNat)) 0

/-- Reads one digit or more, but no more than there is room for. -/
def readDigits (room : Nat) (text : List Char) : Option (Nat × List Char) :=
  let digits := (text.takeWhile isDigit).take room
  if digits = [] then none else some (digitsValue digits, text.drop digits.length)

/-- Reads a number of one or two digits behind blanks. -/
def readPart (text : List Char) : Option (Nat × List Char) := readDigits 2 (skipBlanks text)

/-- Reads the year behind blanks: up to four digits, or a sign and any number of digits. -/
def readYear (text : List Char) : Option (Int × List Char) :=
  match skipBlanks text with
  | '-' :: rest => (readDigits rest.length rest).map fun (year, rest) => (-(year : Int), rest)
  | '+' :: rest => (readDigits rest.length rest).map fun (year, rest) => ((year : Int), rest)
  | text => (readDigits 4 text).map fun (year, rest) => ((year : Int), rest)

/-- Reads one character behind blanks. -/
def readSign (sign : Char) (text : List Char) : Option (List Char) :=
  match skipBlanks text with
  | c :: rest => if c = sign then some rest else none
  | [] => none

/-- The text behind a fraction of a second, if there is one; a point needs a digit. -/
def skipFraction : List Char → Option (List Char)
  | '.' :: rest => (readDigits rest.length rest).map Prod.snd
  | text => some text

/-- Reads exactly two digits. -/
def readPair : List Char → Option (Nat × List Char)
  | a :: b :: rest => if isDigit a && isDigit b then some (digitsValue [a, b], rest) else none
  | _ => none

/-- Reads the hours and minutes of a distance to universal time, in minutes; less than a day. -/
def readDistance (text : List Char) : Option (Nat × List Char) := do
  let (hours, text) ← readPair text
  let (minutes, text) ← readPair (text.dropWhile fun c => c == ':' || Blank.isBlank c)
  if minutes ≤ 59 ∧ hours ≤ 23 then return (hours * 60 + minutes, text) else none

/-- Reads how many minutes a local time is ahead of universal time. -/
def readZone (text : List Char) : Option (Int × List Char) :=
  match skipBlanks text with
  | 'Z' :: rest | 'z' :: rest => some (0, rest)
  | '+' :: rest => (readDistance rest).map fun (minutes, rest) => ((minutes : Int), rest)
  | '-' :: rest | '−' :: rest =>
    (readDistance rest).map fun (minutes, rest) => (-(minutes : Int), rest)
  | u :: t :: c :: rest =>
    if [u.toUpper, t.toUpper, c.toUpper] = ['U', 'T', 'C'] then some (0, rest) else none
  | _ => none

/-- Reads the character between date and time. -/
def readBetween : List Char → Option (List Char)
  | 'T' :: rest | 't' :: rest | ' ' :: rest => some rest
  | _ => none

/-- Reads a point of time. -/
def read (text : String) : Option Moment := do
  let (year, rest) ← readYear text.toList
  let (month, rest) ← readPart (← readSign '-' rest)
  let (day, rest) ← readPart (← readSign '-' rest)
  let (hour, rest) ← readPart (← readBetween rest)
  let (minute, rest) ← readPart (← readSign ':' rest)
  let (second, rest) ← readPart (← readSign ':' rest)
  let (ahead, rest) ← readZone (← skipFraction rest)
  let moment : Moment := { year, month, day, hour, minute, second }
  if skipBlanks rest = [] ∧ moment.isValid then return moment.toUniversal ahead else none

/-! ## Writing -/

/-- A number with at least so many digits. -/
def padded (width value : Nat) : String :=
  let digits := Nat.toDigits 10 value
  String.ofList (List.replicate (width - digits.length) '0' ++ digits)

/-- A year with four digits; a sign marks the years that need one. -/
def yearText (year : Int) : String :=
  if year < 0 then "-" ++ padded 4 year.natAbs
  else if 9999 < year then "+" ++ padded 4 year.natAbs
  else padded 4 year.natAbs

/-- The text of a point of time. -/
def text (moment : Moment) : String :=
  yearText moment.year ++ "-" ++ padded 2 moment.month ++ "-" ++ padded 2 moment.day ++ "T" ++
    padded 2 moment.hour ++ ":" ++ padded 2 moment.minute ++ ":" ++ padded 2 moment.second ++ "Z"

end Moment

end HostRoster
