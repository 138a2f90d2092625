import HostRoster.Crypto.Edwards
import HostRoster.Crypto.Weierstrass
import HostRoster.Encoding.Der
import HostRoster.Encoding.Pem

/-!
# Signing keys

A private key is loaded for its public half: RSA keys of 2048 to 4096 bits, keys on the two curves
with primes of 256 and 384 bits, and Ed25519 keys. A key is refused when its parts do not belong
together.
-/

set_option autoImplicit false

namespace HostRoster

/-! ## Algorithm names -/

namespace AlgorithmName

/-- RSA keys. -/
def rsaKey : Bytes := [0x06, 0x09, 0x2A, 0x86, 0x48, 0x86, 0xF7, 0x0D, 0x01, 0x01, 0x01]
/-- Keys on elliptic curves. -/
def curveKey : Bytes := [0x06, 0x07, 0x2A, 0x86, 0x48, 0xCE, 0x3D, 0x02, 0x01]
/-- The curve with a prime of 256 bits. -/
def p256 : Bytes := [0x06, 0x08, 0x2A, 0x86, 0x48, 0xCE, 0x3D, 0x03, 0x01, 0x07]
/-- The curve with a prime of 384 bits. -/
def p384 : Bytes := [0x06, 0x05, 0x2B, 0x81, 0x04, 0x00, 0x22]
/-- Ed25519 keys and signatures. -/
def ed25519 : Bytes := [0x06, 0x03, 0x2B, 0x65, 0x70]
/-- The empty parameters of an algorithm. -/
def noParameters : Bytes := [0x05, 0x00]

end AlgorithmName

/-! ## Public halves -/

/-- The curves that keys are accepted for. -/
inductive CurveChoice where
  /-- The curve with a prime of 256 bits. -/
  | p256
  /-- The curve with a prime of 384 bits. -/
  | p384
  deriving DecidableEq, Repr

/-- The curve of a choice. -/
def CurveChoice.curve : CurveChoice → Curve
  | .p256 => Curve.p256
  | .p384 => Curve.p384

/-- The name of a curve. -/
def CurveChoice.name : CurveChoice → Bytes
  | .p256 => AlgorithmName.p256
  | .p384 => AlgorithmName.p384

/-- A loaded key, by its public half. -/
inductive SigningKey where
  /-- An RSA key. -/
  | rsa (modulus exponent : Nat)
  /-- A key on a curve. -/
  | curve (choice : CurveChoice) (point : Bytes)
  /-- An Ed25519 key. -/
  | edwards (point : Bytes)
  deriving DecidableEq, Repr

/-- The algorithm of a key, as certificates name it. -/
def SigningKey.algorithm : SigningKey → Bytes
  | .rsa _ _ => AlgorithmName.rsaKey ++ AlgorithmName.noParameters
  | .curve choice _ => AlgorithmName.curveKey ++ choice.name
  | .edwards _ => AlgorithmName.ed25519

/-- The bits of the public half. -/
def SigningKey.publicBits : SigningKey → Bytes
  | .rsa modulus exponent =>
    Der.element Der.sequence (Der.integerElement modulus ++ Der.integerElement exponent)
  | .curve _ point => point
  | .edwards point => point

/-- The public half as a certificate holds it, without tag and length. -/
def SigningKey.publicKeyInfo (key : SigningKey) : Bytes :=
  Der.element Der.sequence key.algorithm ++ Der.bitsElement key.publicBits

/-! ## The container for keys of any algorithm -/

/-- Which versions of the container an algorithm admits: the second one carries the public half. -/
inductive ContainerVersions where
  /-- The first alone. -/
  | first
  /-- Either. -/
  | either
  deriving DecidableEq, Repr

/-- Reads the public half of a container of the second version, which some writers wrap. -/
def readContainerPublic (bytes : Bytes) : Option (Bytes × Bytes) :=
  if Der.nextIs (Der.contextConstructed 1) bytes then do
    let (content, rest) ← Der.expect .key (Der.contextConstructed 1) bytes
    let (bits, behind) ← Der.bits .key content
    if behind = [] then some (bits, rest) else none
  else do
    let (content, rest) ← Der.expect .key (Der.context 1) bytes
    let bits ← Der.wholeBits? content
    some (bits, rest)

/-- The private part of a container with the given algorithm, and the public half if the container
is of the second version. -/
def openContainer (algorithm : Bytes) (versions : ContainerVersions) (encoded : Bytes) :
    Option (Bytes × Option Bytes) := do
  let content ← Der.only .key Der.sequence encoded
  let (version, rest) ← Der.smallNatural .key content
  let (found, rest) ← Der.expect .key Der.sequence rest
  if found ≠ algorithm then none
  let (secret, rest) ← Der.expect .key Der.octetString rest
  let rest ← if Der.nextIs (Der.contextConstructed 0) rest then
      (Der.expect .key (Der.contextConstructed 0) rest).map (·.2)
    else some rest
  match version, versions with
  | 0, _ => if rest = [] then some (secret, none) else none
  | 1, .either => do
    let (bits, rest) ← readContainerPublic rest
    if rest = [] then some (secret, some bits) else none
  | _, _ => none

/-! ## RSA -/

/-- The numbers of an RSA key. -/
structure RsaNumbers where
  /-- The modulus, the product of the two primes. -/
  n : Nat
  /-- The public exponent. -/
  e : Nat
  /-- The private exponent. -/
  d : Nat
  /-- The first prime. -/
  p : Nat
  /-- The second prime. -/
  q : Nat
  /-- The private exponent for the first prime. -/
  dP : Nat
  /-- The private exponent for the second prime. -/
  dQ : Nat
  /-- The inverse of the second prime modulo the first. -/
  qInverse : Nat
  deriving DecidableEq, Repr

/-- Reads natural numbers one after the other. -/
def readNaturals : Nat → Bytes → Option (List Nat × Bytes)
  | 0, bytes => some ([], bytes)
  | count + 1, bytes => do
    let (digits, rest) ← Der.natural .key bytes
    let (numbers, rest) ← readNaturals count rest
    some (Bytes.number digits :: numbers, rest)

/-- Reads the numbers of an RSA key. -/
def RsaNumbers.read (encoded : Bytes) : Option RsaNumbers := do
  let content ← Der.only .key Der.sequence encoded
  let (version, rest) ← Der.smallNatural .key content
  if version ≠ 0 then none
  match ← readNaturals 8 rest with
  | ([n, e, d, p, q, dP, dQ, qInverse], []) => some ⟨n, e, d, p, q, dP, dQ, qInverse⟩
  | _ => none

/-- The number of bits of a number. -/
def bitLength (value : Nat) : Nat := if value = 0 then 0 else value.log2 + 1

/-- Whether a public exponent and a modulus of at most 4096 bits can be used. -/
def acceptsRsaPublic (leastBits n e : Nat) : Bool :=
  leastBits ≤ (bitLength n + 7) / 8 * 8 && bitLength n ≤ 4096 && n % 2 == 1 &&
    e % 2 == 1 && 3 ≤ e && e < Nat.pow 2 33

/-- Whether the private exponent for a prime can be used with it. -/
def acceptsPrime (prime exponent : Nat) : Bool :=
  prime % 2 == 1 && bitLength prime % 512 == 0 && exponent < prime && exponent % 2 == 1

/-- Whether the numbers belong together. -/
def RsaNumbers.consistent (numbers : RsaNumbers) : Bool :=
  let half := (bitLength numbers.n + 1) / 2
  acceptsRsaPublic 2048 numbers.n numbers.e && 65537 ≤ numbers.e &&
    bitLength numbers.p == half && bitLength numbers.q == half &&
    numbers.p * numbers.q == numbers.n &&
    half < bitLength numbers.d && numbers.d < numbers.n && numbers.d % 2 == 1 &&
    acceptsPrime numbers.p numbers.dP && acceptsPrime numbers.q numbers.dQ &&
    numbers.qInverse < numbers.p && numbers.qInverse * numbers.q % numbers.p == 1

/-- Loads an RSA key in the form for RSA keys alone. -/
def SigningKey.ofRsa (encoded : Bytes) : Option SigningKey := do
  let numbers ← RsaNumbers.read encoded
  if numbers.consistent then some (.rsa numbers.n numbers.e) else none

/-! ## Curves -/

/-- Loads a key on a curve in the form for curve keys alone. The public half has to be there. -/
def SigningKey.ofCurve (choice : CurveChoice) (encoded : Bytes) : Option SigningKey := do
  let content ← Der.only .key Der.sequence encoded
  let (version, rest) ← Der.smallNatural .key content
  if version ≠ 1 then none
  let (secret, rest) ← Der.expect .key Der.octetString rest
  let rest ← if Der.nextIs (Der.contextConstructed 0) rest then do
      let (name, rest) ← Der.expect .key (Der.contextConstructed 0) rest
      if name = choice.name then some rest else none
    else some rest
  let wrapped ← Der.only .key (Der.contextConstructed 1) rest
  let (point, behind) ← Der.bits .key wrapped
  let curve := choice.curve
  let scalar := Bytes.number secret
  if behind = [] ∧ secret.length = curve.width ∧ 0 < scalar ∧ scalar < curve.order ∧
      point = curve.encodePoint (curve.multiply scalar curve.base) then
    some (.curve choice point)
  else none

/-! ## Ed25519 -/

/-- Loads an Ed25519 key from its seed and the public half, if that is given. -/
def SigningKey.ofSeed (seed : Bytes) (given : Option Bytes) : Option SigningKey :=
  if seed.length ≠ 32 then none
  else
    let point := Edwards.publicKey seed
    if given = none ∨ given = some point then some (.edwards point) else none

/-! ## Loading -/

namespace SigningKey

/-- Loads an RSA key from a container. -/
def ofRsaContainer (encoded : Bytes) : Option SigningKey := do
  let (secret, _) ←
    openContainer (AlgorithmName.rsaKey ++ AlgorithmName.noParameters) .first encoded
  ofRsa secret

/-- Loads a key on a curve from a container. -/
def ofCurveContainer (choice : CurveChoice) (encoded : Bytes) : Option SigningKey := do
  let (secret, _) ← openContainer (AlgorithmName.curveKey ++ choice.name) .first encoded
  ofCurve choice secret

/-- Loads an Ed25519 key from a container. -/
def ofEdwardsContainer (encoded : Bytes) : Option SigningKey := do
  let (secret, given) ← openContainer AlgorithmName.ed25519 .either encoded
  let seed ← Der.only .key Der.octetString secret
  ofSeed seed given

/-- Loads a key of the given form. -/
def load (kind : Pem.Kind) (encoded : Bytes) : Option SigningKey :=
  match kind with
  | .rsaKey => ofRsa encoded
  | .ecKey => ofCurve .p256 encoded <|> ofCurve .p384 encoded
  | .privateKey =>
    ofRsaContainer encoded <|> ofCurveContainer .p256 encoded <|>
      ofCurveContainer .p384 encoded <|> ofEdwardsContainer encoded
  | _ => none

end SigningKey

end HostRoster
