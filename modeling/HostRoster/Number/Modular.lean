/-!
# Arithmetic modulo a number

Powers by repeated squaring, inverses by the extended algorithm of Euclid, and integer roots by
bisection.
-/

set_option autoImplicit false

namespace HostRoster.Modular

/-- The power of a base modulo a number. -/
def power (modulus base : Nat) (exponent : Nat) : Nat :=
  if exponent = 0 then 1 % modulus
  else
    let half := power modulus (base * base % modulus) (exponent / 2)
    if exponent % 2 = 1 then half * base % modulus else half
termination_by exponent
decreasing_by omega

/-- Runs the extended algorithm of Euclid: with `factor * a` congruent to `remainder` and
`nextFactor * a` congruent to `next`, the answer is the greatest common divisor of the two
remainders and a factor for it. -/
def euclid (remainder next : Nat) (factor nextFactor : Int) : Nat × Int :=
  if next = 0 then (remainder, factor)
  else euclid next (remainder % next) nextFactor
    (factor - ((remainder / next : Nat) : Int) * nextFactor)
termination_by next
decreasing_by exact Nat.mod_lt _ (by omega)

/-- The inverse of a number modulo another one that has no common divisor with it. -/
def inverse (modulus value : Nat) : Nat :=
  ((euclid modulus (value % modulus) 0 1).2 % (modulus : Int)).toNat

/-- The difference of two numbers modulo a third. -/
def difference (modulus minuend subtrahend : Nat) : Nat :=
  (minuend % modulus + (modulus - subtrahend % modulus)) % modulus

/-- The largest number below `2 ^ bits + low` whose power of the given degree is at most `value`,
found bit by bit from the highest one down. -/
def rootFrom (degree value : Nat) : Nat → Nat → Nat
  | 0, low => low
  | bits + 1, low =>
    let trial := low + Nat.pow 2 bits
    rootFrom degree value bits (if Nat.pow trial degree ≤ value then trial else low)

/-- The largest number whose power of the given degree is at most `value`. -/
def root (degree value : Nat) : Nat := rootFrom degree value (value.log2 / degree + 1) 0

end HostRoster.Modular
