import HostRoster.SigningKey

/-!
# Signatures

The signature algorithms that certificates and connections may use. An algorithm is known by two
names: its own, and that of the keys it works with.
-/

set_option autoImplicit false

namespace HostRoster

/-! ## RSA -/

namespace Rsa

/-- The names of the digests, as elements. -/
def digestName (last : UInt8) : Bytes :=
  [0x06, 0x09, 0x60, 0x86, 0x48, 0x01, 0x65, 0x03, 0x04, 0x02, last]

/-- The public numbers of a key from its bits. -/
def publicNumbers (bits : Bytes) : Option (Nat × Nat) := do
  let content ← Der.only .key Der.sequence bits
  match ← readNaturals 2 content with
  | ([n, e], []) => some (n, e)
  | _ => none

/-- The message that a signature was made from, as many bytes as the modulus has. -/
def recover (bits signature : Bytes) : Option (Nat × Bytes) := do
  let (n, e) ← publicNumbers bits
  let width := (bitLength n + 7) / 8
  let value := Bytes.number signature
  if bitLength n < 2048 ∨ 8192 < bitLength n ∨ n % 2 = 0 ∨ e % 2 = 0 ∨ e < 3 ∨ Nat.pow 2 33 ≤ e ∨
      signature.length ≠ width ∨ n ≤ value then none
  else some (n, Bytes.ofNumber width (Modular.power n value e))

/-- The padded digest of the older scheme. -/
def padded (width : Nat) (name : Bytes) (digest : Bytes) : Bytes :=
  let info := Der.element Der.sequence
    (Der.element Der.sequence (name ++ AlgorithmName.noParameters) ++
      Der.element Der.octetString digest)
  0 :: 1 :: (List.replicate (width - 3 - info.length) 0xFF ++ 0 :: info)

/-- Whether a signature of the older scheme signs a message. -/
def verifyPadded (digest : Digest) (name bits message signature : Bytes) : Bool :=
  match recover bits signature with
  | none => false
  | some (_, found) => found == padded found.length name (digest.hash message)

/-- A mask of a length that a seed stands for. -/
def mask (digest : Digest) (seed : Bytes) (length : Nat) : Bytes :=
  let blocks := length / (digest.outputWords * digest.wordBytes) + 1
  ((List.range blocks).flatMap fun counter =>
    digest.hash (seed ++ Bytes.ofNumber 4 counter)).take length

/-- Whether a signature of the newer scheme, with a salt as long as the digest, signs a message. -/
def verifySalted (digest : Digest) (bits message signature : Bytes) : Bool :=
  match recover bits signature with
  | none => false
  | some (n, found) =>
    let emBits := bitLength n - 1
    let emLength := (emBits + 7) / 8
    let hashLength := digest.outputWords * digest.wordBytes
    let encoded := found.drop (found.length - emLength)
    let spare := 8 * emLength - emBits
    let maskedLength := emLength - hashLength - 1
    let masked := encoded.take maskedLength
    let hashed := (encoded.drop maskedLength).take hashLength
    let block := (masked.zip (mask digest hashed maskedLength)).map fun (a, b) => a ^^^ b
    let cleared := match block with
      | first :: rest => UInt8.ofNat (first.toNat % Nat.pow 2 (8 - spare)) :: rest
      | [] => []
    let zeros := maskedLength - hashLength - 1
    let salt := cleared.drop (zeros + 1)
    (found.take (found.length - emLength)).all (· == 0) &&
      2 * hashLength + 2 ≤ emLength &&
      encoded.getLast? == some (0xBC : UInt8) &&
      masked.head?.all (fun first => first.toNat < Nat.pow 2 (8 - spare)) &&
      cleared.take (zeros + 1) == List.replicate zeros (0 : UInt8) ++ [1] &&
      digest.hash (List.replicate 8 0 ++ digest.hash message ++ salt) == hashed

end Rsa

/-! ## Curves -/

/-- The numbers of a signature on a curve. -/
def curveSignature (signature : Bytes) : Option (Nat × Nat) := do
  let content ← Der.only .key Der.sequence signature
  match ← readNaturals 2 content with
  | ([r, s], []) => some (r, s)
  | _ => none

/-- Whether a signature on a curve signs a message. -/
def verifyOnCurve (choice : CurveChoice) (digest : Digest) (bits message signature : Bytes) :
    Bool :=
  let curve := choice.curve
  match curve.decodePoint? bits, curveSignature signature with
  | some key, some (r, s) =>
    curve.verify key (Bytes.number ((digest.hash message).take curve.width)) r s
  | _, _ => false

/-! ## Algorithms -/

/-- A signature algorithm. -/
structure SignatureAlgorithm where
  /-- Its name. -/
  name : Bytes
  /-- The name of the keys it works with. -/
  keyName : Bytes
  /-- Whether a signature under the bits of a public key signs a message. -/
  verify (bits message signature : Bytes) : Bool

namespace SignatureAlgorithm

/-- Signatures on a curve with a digest, named by the last byte of the algorithm. -/
def onCurve (choice : CurveChoice) (digest : Digest) (last : UInt8) : SignatureAlgorithm where
  name := [0x06, 0x08, 0x2A, 0x86, 0x48, 0xCE, 0x3D, 0x04, 0x03, last]
  keyName := AlgorithmName.curveKey ++ choice.name
  verify := verifyOnCurve choice digest

/-- Signatures of the older RSA scheme. -/
def rsaPadded (digest : Digest) (digestLast last : UInt8) (parameters : Bytes) :
    SignatureAlgorithm where
  name := [0x06, 0x09, 0x2A, 0x86, 0x48, 0x86, 0xF7, 0x0D, 0x01, 0x01, last] ++ parameters
  keyName := AlgorithmName.rsaKey ++ AlgorithmName.noParameters
  verify := Rsa.verifyPadded digest (Rsa.digestName digestLast)

/-- Signatures of the newer RSA scheme. -/
def rsaSalted (digest : Digest) (digestLast : UInt8) : SignatureAlgorithm where
  name :=
    let hash := Der.element Der.sequence (Rsa.digestName digestLast ++ AlgorithmName.noParameters)
    [0x06, 0x09, 0x2A, 0x86, 0x48, 0x86, 0xF7, 0x0D, 0x01, 0x01, 0x0A] ++
      Der.element Der.sequence
        (Der.element (Der.contextConstructed 0) hash ++
          Der.element (Der.contextConstructed 1) (Der.element Der.sequence
            ([0x06, 0x09, 0x2A, 0x86, 0x48, 0x86, 0xF7, 0x0D, 0x01, 0x01, 0x08] ++ hash)) ++
          Der.element (Der.contextConstructed 2)
            (Der.integerElement (digest.outputWords * digest.wordBytes)))
  keyName := AlgorithmName.rsaKey ++ AlgorithmName.noParameters
  verify := Rsa.verifySalted digest

/-- Ed25519 signatures. -/
def edwards : SignatureAlgorithm where
  name := AlgorithmName.ed25519
  keyName := AlgorithmName.ed25519
  verify := Edwards.verify

/-- The algorithms that certificates may be signed with. -/
def supported : List SignatureAlgorithm :=
  [onCurve .p256 .sha256 2, onCurve .p256 .sha384 3,
   onCurve .p384 .sha256 2, onCurve .p384 .sha384 3,
   edwards,
   rsaSalted .sha256 1, rsaSalted .sha384 2, rsaSalted .sha512 3,
   rsaPadded .sha256 1 0x0B AlgorithmName.noParameters,
   rsaPadded .sha384 2 0x0C AlgorithmName.noParameters,
   rsaPadded .sha512 3 0x0D AlgorithmName.noParameters,
   rsaPadded .sha256 1 0x0B [], rsaPadded .sha384 2 0x0C [], rsaPadded .sha512 3 0x0D []]

end SignatureAlgorithm

end HostRoster
