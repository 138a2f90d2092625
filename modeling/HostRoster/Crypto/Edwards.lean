import HostRoster.Crypto.Digest

/-!
# The twisted Edwards curve for signatures

Keys and signatures of the scheme Ed25519: the points of `y ^ 2 - x ^ 2 = 1 + d * x ^ 2 * y ^ 2`
over the field of the prime `2 ^ 255 - 19`, a public key from its seed, and the check of a
signature.
-/

set_option autoImplicit false

namespace HostRoster.Edwards

/-- The prime of the field. -/
def prime : Nat := Nat.pow 2 255 - 19

/-- The order of the base point. -/
def order : Nat := Nat.pow 2 252 + 27742317777372353535851937790883648493

/-- The coefficient of the curve. -/
def d : Nat := (prime - 121665) * Modular.inverse prime 121666 % prime

/-- A point by its coordinates. -/
structure Point where
  /-- The first coordinate. -/
  x : Nat
  /-- The second coordinate. -/
  y : Nat
  deriving DecidableEq, Repr

/-- The neutral point. -/
def neutral : Point := ⟨0, 1⟩

/-- The sum of two points; the rule has no exceptions. -/
def add (left right : Point) : Point :=
  let product := d * (left.x * right.x % prime) % prime * (left.y * right.y % prime) % prime
  ⟨(left.x * right.y + left.y * right.x) % prime * Modular.inverse prime (1 + product) % prime,
   (left.y * right.y + left.x * right.x) % prime *
      Modular.inverse prime (Modular.difference prime 1 product) % prime⟩

/-- A multiple of a point. -/
def multiply (scalar : Nat) (point : Point) : Point :=
  if scalar = 0 then neutral
  else
    let half := multiply (scalar / 2) (add point point)
    if scalar % 2 = 1 then add half point else half
termination_by scalar
decreasing_by omega

/-- The point with its first coordinate negated. -/
def negate (point : Point) : Point := ⟨Modular.difference prime 0 point.x, point.y⟩

/-- A square root modulo the prime, if there is one. -/
def squareRoot? (value : Nat) : Option Nat :=
  let candidate := Modular.power prime value ((prime + 3) / 8)
  let other := candidate * Modular.power prime 2 ((prime - 1) / 4) % prime
  if candidate * candidate % prime = value % prime then some candidate
  else if other * other % prime = value % prime then some other
  else none

/-- The point with a second coordinate and a first coordinate of the given parity. -/
def withSecond? (y : Nat) (odd : Bool) : Option Point :=
  let square := Modular.difference prime (y * y) 1 *
    Modular.inverse prime ((d * (y * y % prime) + 1) % prime) % prime
  (squareRoot? square).map fun x =>
    if (x % 2 == 1) == odd then ⟨x, y % prime⟩ else ⟨Modular.difference prime 0 x, y % prime⟩

/-- The base point. -/
def base : Point :=
  (withSecond? (4 * Modular.inverse prime 5 % prime) false).getD neutral

/-- The number that bytes stand for with the least significant byte first. -/
def littleEndian (bytes : Bytes) : Nat := Bytes.number bytes.reverse

/-- A point as 32 bytes: its second coordinate and the parity of its first. -/
def encodePoint (point : Point) : Bytes :=
  (Bytes.ofNumber 32 (point.y + (point.x % 2) * Nat.pow 2 255)).reverse

/-- The point that 32 bytes stand for. -/
def decodePoint? (bytes : Bytes) : Option Point :=
  if bytes.length = 32 then
    let value := littleEndian bytes
    withSecond? (value % Nat.pow 2 255) (Nat.pow 2 255 ≤ value)
  else none

/-- The secret scalar of a seed: the first half of its digest, a multiple of eight between
`2 ^ 254` and `2 ^ 255`. -/
def secretScalar (seed : Bytes) : Nat :=
  let half := littleEndian ((Digest.sha512.hash seed).take 32)
  half % Nat.pow 2 254 / 8 * 8 + Nat.pow 2 254

/-- The public key of a seed. -/
def publicKey (seed : Bytes) : Bytes := encodePoint (multiply (secretScalar seed) base)

/-- Whether a signature of 64 bytes signs a message under a public key. -/
def verify (key message signature : Bytes) : Bool :=
  match decodePoint? key with
  | none => false
  | some point =>
    let commitment := signature.take 32
    let response := littleEndian (signature.drop 32)
    let challenge := littleEndian (Digest.sha512.hash (commitment ++ key ++ message)) % order
    signature.length == 64 && response < order &&
      encodePoint (add (multiply response base) (multiply challenge (negate point))) == commitment

end HostRoster.Edwards
