import HostRoster.Encoding.Der

/-!
# Points of time

Certificates write points of time in universal time, with years of two or four digits. Here they
are seconds since the start of 1970; earlier years are refused.
-/

set_option autoImplicit false

namespace HostRoster.Calendar

/-- Whether a year has a day more. -/
def isLeap (year : Nat) : Bool := year % 4 == 0 && (year % 100 != 0 || year % 400 == 0)

/-- The days of a month. -/
def daysInMonth (year month : Nat) : Nat :=
  if month = 2 then (if isLeap year then 29 else 28)
  else if month = 4 ∨ month = 6 ∨ month = 9 ∨ month = 11 then 30
  else 31

/-- The days before a year, counted from the year one. -/
def daysBeforeYear (year : Nat) : Nat :=
  let past := year - 1
  past * 365 + past / 4 - past / 100 + past / 400

/-- The days of a year before a month. -/
def daysBeforeMonth (year month : Nat) : Nat :=
  (List.range (month - 1)).foldl (fun days earlier => days + daysInMonth year (earlier + 1)) 0

/-- The seconds since the start of 1970 of a moment in 1970 or later. -/
def seconds (year month day hour minute second : Nat) : Nat :=
  let days := daysBeforeYear year - daysBeforeYear 1970 + daysBeforeMonth year month + (day - 1)
  ((days * 24 + hour) * 60 + minute) * 60 + second

/-- The values of pairs of decimal digits. -/
def pairs : Bytes → Option (List Nat)
  | [] => some []
  | [_] => none
  | a :: b :: rest =>
    if 48 ≤ a ∧ a ≤ 57 ∧ 48 ≤ b ∧ b ≤ 57 then
      (pairs rest).map (((a.toNat - 48) * 10 + (b.toNat - 48)) :: ·)
    else none

/-- The moment that a year and pairs of digits for the rest stand for. -/
def moment? (year : Nat) : List Nat → Option Nat
  | [month, day, hour, minute, second] =>
    if 1970 ≤ year ∧ 1 ≤ month ∧ month ≤ 12 ∧ 1 ≤ day ∧ day ≤ daysInMonth year month ∧
        hour ≤ 23 ∧ minute ≤ 59 ∧ second ≤ 59 then
      some (seconds year month day hour minute second)
    else none
  | _ => none

/-- Reads the text of a point of time: digits and a final `Z`. -/
def parse (shortYear : Bool) (text : Bytes) : Option Nat :=
  match text.getLast?, pairs text.dropLast with
  | some 90, some (first :: rest) =>
    if shortYear then moment? ((if 50 ≤ first then 1900 else 2000) + first) rest
    else match rest with
      | second :: rest => moment? (first * 100 + second) rest
      | [] => none
  | _, _ => none

/-- Reads the first element as a point of time. -/
def read (bytes : Bytes) : Option (Nat × Bytes) :=
  let short := Der.nextIs Der.shortTime bytes
  match Der.expect .certificate (if short then Der.shortTime else Der.longTime) bytes with
  | some (text, rest) => (parse short text).map (·, rest)
  | none => none

end HostRoster.Calendar
