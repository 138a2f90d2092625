/-!
# Floating point numbers of 64 bits

A number of the binary format of 64 bits is held by its sign, significand and exponent, so that
rounding and printing are exact arithmetic on natural numbers.

**Rounding.** `ofQuotient` takes the nearest representable number to a quotient of natural
numbers; of two equally near ones it takes the one with the even significand.

**Printing.** `shortest` gives the shortest decimal that rounds back to the number: it searches
for the coarsest power of ten that has a multiple among the reals which round to the number, and
takes the multiple nearest to it. A `DecimalStyle` says how the digits are laid out.
-/

set_option autoImplicit false

namespace HostRoster

/-- A number of the binary format of 64 bits. A finite one is `significand * 2 ^ exponent`. -/
inductive Binary64 where
  /-- No number. -/
  | nan
  /-- Beyond the largest finite number. -/
  | infinite (negative : Bool)
  /-- A finite number, zero included. -/
  | finite (negative : Bool) (significand : Nat) (exponent : Int)
  deriving DecidableEq, Repr, Inhabited

namespace Binary64

/-! ## Rounding -/

/-- The exponent of the smallest number above zero. -/
def leastExponent : Int := -1074

/-- The largest exponent of a finite number. -/
def greatestExponent : Int := 971

/-- The quotient `numerator / (denominator * 2 ^ exponent)` as two natural numbers. -/
def scaled (numerator denominator : Nat) (exponent : Int) : Nat × Nat :=
  if 0 ≤ exponent then (numerator, denominator * Nat.pow 2 exponent.toNat)
  else (numerator * Nat.pow 2 (-exponent).toNat, denominator)

/-- The exponent that leaves a quotient above zero with a significand of 53 bits, or the least
exponent for quotients too small for that. -/
def exponentFor (numerator denominator : Nat) : Int :=
  let guess : Int := (numerator.log2 : Int) - (denominator.log2 : Int)
  let (above, below) := scaled numerator denominator guess
  max leastExponent (if below ≤ above then guess - 52 else guess - 53)

/-- The natural number nearest to a quotient, the even one of two equally near. -/
def nearest (numerator denominator : Nat) : Nat :=
  let whole := numerator / denominator
  let rest := numerator % denominator
  if denominator < 2 * rest then whole + 1
  else if 2 * rest = denominator ∧ whole % 2 = 1 then whole + 1
  else whole

/-- The number nearest to `numerator / denominator`. -/
def ofQuotient (negative : Bool) (numerator denominator : Nat) : Binary64 :=
  if numerator = 0 then .finite negative 0 leastExponent
  else
    let exponent := exponentFor numerator denominator
    let (above, below) := scaled numerator denominator exponent
    let significand := nearest above below
    let carried := significand = Nat.pow 2 53
    let exponent := if carried then exponent + 1 else exponent
    let significand := if carried then Nat.pow 2 52 else significand
    if greatestExponent < exponent then .infinite negative
    else .finite negative significand exponent

/-- The number nearest to a natural number. -/
def ofNat (value : Nat) : Binary64 := ofQuotient false value 1

/-- The number nearest to `significand * 10 ^ exponent`. The exponents that decide nothing but
zero and infinity are cut off before the power is taken. -/
def ofDecimal (negative : Bool) (significand : Nat) (exponent : Int) : Binary64 :=
  let digits : Int := (Nat.toDigits 10 significand).length
  if significand = 0 then .finite negative 0 leastExponent
  else if 400 < exponent + digits then .infinite negative
  else if exponent + digits < -400 then .finite negative 0 leastExponent
  else if 0 ≤ exponent then ofQuotient negative (significand * Nat.pow 10 exponent.toNat) 1
  else ofQuotient negative significand (Nat.pow 10 (-exponent).toNat)

/-- Zero of either sign. -/
def isZero : Binary64 → Bool
  | .finite _ significand _ => significand == 0
  | _ => false

/-- The number with the other sign. -/
def negate : Binary64 → Binary64
  | .nan => .nan
  | .infinite negative => .infinite (!negative)
  | .finite negative significand exponent => .finite (!negative) significand exponent

/-- The magnitude of a finite number as a quotient of natural numbers. -/
def quotient (significand : Nat) (exponent : Int) : Nat × Nat :=
  if 0 ≤ exponent then (significand * Nat.pow 2 exponent.toNat, 1)
  else (significand, Nat.pow 2 (-exponent).toNat)

/-- The rounded product of the magnitudes of two finite numbers. -/
def multiply : Binary64 → Binary64 → Binary64
  | .finite s m e, .finite s' m' e' =>
    let (a, b) := quotient m e
    let (a', b') := quotient m' e'
    ofQuotient (s != s') (a * a') (b * b')
  | .nan, _ => .nan
  | _, .nan => .nan
  | .infinite s, _ => .infinite s
  | _, .infinite s => .infinite s

/-- The rounded quotient of two finite numbers, the second not zero. -/
def divide : Binary64 → Binary64 → Binary64
  | .finite s m e, .finite s' m' e' =>
    let (a, b) := quotient m e
    let (a', b') := quotient m' e'
    if m' = 0 then .nan else ofQuotient (s != s') (a * b') (b * a')
  | _, _ => .nan

/-! ## Shortest decimals -/

/-- The multiple of a power of ten that stands for a number, as its digits and the exponent of the
power, when the reals from `low` to `high` hold one. The three bounds are numerators over a common
`denominator`; the ends count when `closed` holds. -/
def multipleIn (low value high denominator : Nat) (closed : Bool) (power : Int) :
    Option Nat :=
  let (step, denominator) :=
    if 0 ≤ power then (Nat.pow 10 power.toNat * denominator, 1)
    else (denominator, Nat.pow 10 (-power).toNat)
  let inside (multiple : Nat) : Bool :=
    let point := multiple * step
    multiple != 0 &&
      (if closed then low * denominator ≤ point && point ≤ high * denominator
       else low * denominator < point && point < high * denominator)
  let below := value * denominator / step
  let above := below + 1
  match inside below, inside above with
  | false, false => none
  | true, false => some below
  | false, true => some above
  | true, true =>
    let toBelow := value * denominator - below * step
    let toAbove := above * step - value * denominator
    if toBelow < toAbove then some below
    else if toAbove < toBelow then some above
    else some (if below % 2 = 0 then below else above)

/-- Goes down from a power of ten to the first one with a multiple in the bounds. -/
def coarsest (low value high denominator : Nat) (closed : Bool) : Nat → Int → Nat × Int
  | 0, power => (0, power)
  | fuel + 1, power =>
    match multipleIn low value high denominator closed power with
    | some digits => (digits, power)
    | none => coarsest low value high denominator closed fuel (power - 1)

/-- The shortest decimal that rounds to a finite number above zero: `(digits, power)` stands for
`digits * 10 ^ power`. -/
def shortest (significand : Nat) (exponent : Int) : Nat × Int :=
  let gapBelow := if significand = Nat.pow 2 52 ∧ leastExponent < exponent then 1 else 2
  let (unit, denominator) := quotient 1 (exponent - 2)
  coarsest ((4 * significand - gapBelow) * unit) (4 * significand * unit)
    ((4 * significand + 2) * unit) denominator (significand % 2 == 0) 660 309

/-! ## Layout -/

/-- How the digits of a number are laid out. -/
structure DecimalStyle where
  /-- Whether a number whose first digit stands for this power of ten is written positionally. -/
  positional : Int → Bool
  /-- The text of no number. -/
  nan : String
  /-- The text of infinity without its sign. -/
  infinity : String

/-- Always positional. -/
def DecimalStyle.plain : DecimalStyle := ⟨fun _ => true, "NaN", "inf"⟩

/-- Positional from `0.00001` up to sixteen digits before the point, and with an exponent of at
least two digits elsewhere. There is no text for what is not finite. -/
def DecimalStyle.scientific : DecimalStyle :=
  ⟨fun power => -5 ≤ power && power ≤ 15, "null", "null"⟩

/-- The decimal digits of a natural number. -/
def decimalDigits (value : Nat) : List Char := Nat.toDigits 10 value

/-- The digits laid out with a point, at least one digit on either side of it. -/
def positionalText (digits : List Char) (power : Int) : String :=
  if 0 ≤ power then
    String.ofList (digits ++ List.replicate power.toNat '0' ++ ['.', '0'])
  else
    let places := (-power).toNat
    if places < digits.length then
      let whole := digits.length - places
      String.ofList (digits.take whole ++ '.' :: digits.drop whole)
    else
      String.ofList ('0' :: '.' :: (List.replicate (places - digits.length) '0' ++ digits))

/-- The digits laid out with an exponent. -/
def exponentText (digits : List Char) (power : Int) : String :=
  let scale := power + ((digits.length : Int) - 1)
  let mantissa := match digits with
    | [] => []
    | [digit] => [digit]
    | digit :: rest => digit :: '.' :: rest
  let magnitude := decimalDigits scale.natAbs
  let padded := if magnitude.length < 2 then '0' :: magnitude else magnitude
  String.ofList (mantissa ++ 'e' :: (if 0 ≤ scale then '+' else '-') :: padded)

/-- The text of a number. -/
def text (style : DecimalStyle) : Binary64 → String
  | .nan => style.nan
  | .infinite negative => (if negative then "-" else "") ++ style.infinity
  | .finite negative significand exponent =>
    let sign := if negative then "-" else ""
    if significand = 0 then sign ++ "0.0"
    else
      let (number, power) := shortest significand exponent
      let digits := decimalDigits number
      let scale := power + ((digits.length : Int) - 1)
      sign ++ (if style.positional scale then positionalText digits power
        else exponentText digits power)

end Binary64

end HostRoster
