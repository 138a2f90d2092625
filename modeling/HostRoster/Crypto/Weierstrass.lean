import HostRoster.Encoding.Bytes
import HostRoster.Number.Modular

/-!
# Curves in short Weierstrass form

The points of a curve `y ^ 2 = x ^ 3 + a * x + b` over a prime field, added by the rule of chord
and tangent, and the two curves that keys are accepted for.
-/

set_option autoImplicit false

namespace HostRoster

/-- A curve over a prime field with a point of prime order. -/
structure Curve where
  /-- The prime of the field. -/
  prime : Nat
  /-- The coefficient of `x`. -/
  a : Nat
  /-- The constant coefficient. -/
  b : Nat
  /-- The order of the base point. -/
  order : Nat
  /-- The first coordinate of the base point. -/
  baseX : Nat
  /-- The second coordinate of the base point. -/
  baseY : Nat
  /-- The bytes of a coordinate and of a scalar. -/
  width : Nat

namespace Curve

/-- A point of a curve. -/
inductive Point where
  /-- The neutral point. -/
  | infinity
  /-- A point by its coordinates. -/
  | affine (x y : Nat)
  deriving DecidableEq, Repr

/-- The third point of a line with a slope through two points, mirrored. -/
def third (curve : Curve) (slope x y other : Nat) : Point :=
  let p := curve.prime
  let x' := Modular.difference p (slope * slope) (x + other)
  .affine x' (Modular.difference p (slope * Modular.difference p x x') y)

/-- The sum of two points. -/
def add (curve : Curve) : Point → Point → Point
  | .infinity, point => point
  | point, .infinity => point
  | .affine x y, .affine x' y' =>
    let p := curve.prime
    if x = x' then
      if y = y' ∧ y ≠ 0 then
        let slope := (3 * x * x + curve.a) * Modular.inverse p (2 * y) % p
        curve.third slope x y x'
      else .infinity
    else
      let slope :=
        Modular.difference p y' y * Modular.inverse p (Modular.difference p x' x) % p
      curve.third slope x y x'

/-- A multiple of a point. -/
def multiply (curve : Curve) (scalar : Nat) (point : Point) : Point :=
  if scalar = 0 then .infinity
  else
    let half := curve.multiply (scalar / 2) (curve.add point point)
    if scalar % 2 = 1 then curve.add half point else half
termination_by scalar
decreasing_by omega

/-- The base point. -/
def base (curve : Curve) : Point := .affine curve.baseX curve.baseY

/-- Whether the coordinates are those of a point of the curve. -/
def contains (curve : Curve) (x y : Nat) : Bool :=
  x < curve.prime && y < curve.prime &&
    y * y % curve.prime == (x * x * x + curve.a * x + curve.b) % curve.prime

/-- A point as bytes: a four, and both coordinates. -/
def encodePoint (curve : Curve) : Point → Bytes
  | .infinity => [0]
  | .affine x y => 4 :: (Bytes.ofNumber curve.width x ++ Bytes.ofNumber curve.width y)

/-- The point that bytes stand for. -/
def decodePoint? (curve : Curve) : Bytes → Option Point
  | 4 :: bytes =>
    if bytes.length = 2 * curve.width then
      let x := Bytes.number (bytes.take curve.width)
      let y := Bytes.number (bytes.drop curve.width)
      if curve.contains x y then some (.affine x y) else none
    else none
  | _ => none

/-- Whether `(r, s)` signs the number `message` under a public point. -/
def verify (curve : Curve) (key : Point) (message r s : Nat) : Bool :=
  let n := curve.order
  if r = 0 ∨ n ≤ r ∨ s = 0 ∨ n ≤ s then false
  else
    let inverse := Modular.inverse n s
    let point := curve.add (curve.multiply (message * inverse % n) curve.base)
      (curve.multiply (r * inverse % n) key)
    match point with
    | .infinity => false
    | .affine x _ => x % n == r

/-- The curve with a prime of 256 bits. -/
def p256 : Curve where
  prime := 0xffffffff00000001000000000000000000000000ffffffffffffffffffffffff
  a := 0xffffffff00000001000000000000000000000000fffffffffffffffffffffffc
  b := 0x5ac635d8aa3a93e7b3ebbd55769886bc651d06b0cc53b0f63bce3c3e27d2604b
  order := 0xffffffff00000000ffffffffffffffffbce6faada7179e84f3b9cac2fc632551
  baseX := 0x6b17d1f2e12c4247f8bce6e563a440f277037d812deb33a0f4a13945d898c296
  baseY := 0x4fe342e2fe1a7f9b8ee7eb4a7c0f9e162bce33576b315ececbb6406837bf51f5
  width := 32

/-- The curve with a prime of 384 bits. -/
def p384 : Curve where
  prime := 0xfffffffffffffffffffffffffffffffffffffffffffffffffffffffffffffffeffffffff0000000000000000ffffffff
  a := 0xfffffffffffffffffffffffffffffffffffffffffffffffffffffffffffffffeffffffff0000000000000000fffffffc
  b := 0xb3312fa7e23ee7e4988e056be3f82d19181d9c6efe8141120314088f5013875ac656398d8a2ed19d2a85c8edd3ec2aef
  order := 0xffffffffffffffffffffffffffffffffffffffffffffffffc7634d81f4372ddf581a0db248b0a77aecec196accc52973
  baseX := 0xaa87ca22be8b05378eb1c71ef320ad746e1d3b628ba79b9859f741e082542a385502f25dbf55296c3a545e3872760ab7
  baseY := 0x3617de4a96262c6f5d9e98bf9292dc29f8f41dbd289a147ce9da3113b5f0b8c00a60b1ce1d7e819d7a431d7c90ea0e5f
  width := 48

end Curve

end HostRoster
