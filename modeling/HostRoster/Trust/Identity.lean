import HostRoster.SigningKey
import HostRoster.Trust.Material

/-!
# Trust roots and client identities

`readTrustRoot` takes the one authority to trust from a PEM text: its first item, which has to be
a certificate. `readIdentity` pairs a certificate chain with the private key of its first
certificate, the leaf.

**Order of checks.** The chain is read before the key, the key is loaded before the leaf is looked
at, and no certificate but the leaf is ever taken apart.
-/

set_option autoImplicit false

namespace HostRoster

/-! ## Trust roots -/

/-- The encoding of the first item of a text, which has to be a certificate. -/
def firstCertificate (material : Material) (text : Bytes) : Except TrustError Bytes :=
  match (Pem.read text).items with
  | [] => .error (.invalidPem material)
  | item :: _ =>
    if item.kind = .certificate then .ok item.body
    else .error (.certificateParse material .badEncoding)

/-- The authority that a text names. -/
def readTrustRoot (text : Bytes) : Except TrustError TrustAnchor :=
  match firstCertificate .authority text with
  | .error cause => .error cause
  | .ok encoded =>
    match TrustAnchor.read encoded with
    | .ok anchor => .ok anchor
    | .error fault => .error (.certificateParse .authority fault)

/-! ## Client identities -/

/-- The forms in which private keys are stored. -/
inductive KeyForm where
  /-- For RSA keys alone. -/
  | rsa
  /-- For curve keys alone. -/
  | curve
  /-- For keys of any algorithm. -/
  | container
  deriving DecidableEq, Repr

/-- The form of a private key item. -/
def KeyForm.ofKind? : Pem.Kind → Option KeyForm
  | .rsaKey => some .rsa
  | .ecKey => some .curve
  | .privateKey => some .container
  | _ => none

/-- The item of a form. -/
def KeyForm.kind : KeyForm → Pem.Kind
  | .rsa => .rsaKey
  | .curve => .ecKey
  | .container => .privateKey

/-- A stored private key. -/
structure PrivateKey where
  /-- How it is stored. -/
  form : KeyForm
  /-- Its encoding. -/
  encoded : Bytes
  deriving DecidableEq, Repr

/-- Loads a stored private key. -/
def PrivateKey.load (key : PrivateKey) : Option SigningKey :=
  SigningKey.load key.form.kind key.encoded

/-- The private key of an item. -/
def PrivateKey.ofItem? (item : Pem.Item) : Option PrivateKey :=
  (KeyForm.ofKind? item.kind).map fun form => ⟨form, item.body⟩

/-- The encodings of the certificates of a text, which has to be undamaged and to hold one. -/
def certificateChain (text : Bytes) : Except TrustError (List Bytes) :=
  let contents := Pem.read text
  let chain := (contents.items.filter (·.kind = .certificate)).map (·.body)
  if contents.undamaged ∧ chain ≠ [] then .ok chain else .error (.invalidPem .clientCertificate)

/-- The first private key of a text. -/
def firstPrivateKey (text : Bytes) : Except TrustError PrivateKey :=
  match (Pem.read text).items.findSome? PrivateKey.ofItem? with
  | some key => .ok key
  | none => .error (.invalidPem .clientKey)

/-- A certificate chain with the private key of its leaf. -/
structure ClientIdentity where
  /-- The encodings of the certificates, the leaf first. -/
  chain : List Bytes
  /-- The private key of the leaf. -/
  key : PrivateKey
  deriving DecidableEq, Repr

/-- Checks that a private key belongs to the leaf of a chain. -/
def checkKeyPair (chain : List Bytes) (key : PrivateKey) : Except TrustError Unit :=
  match key.load with
  | none => .error .privateKeyParse
  | some signingKey =>
    match Certificate.read (chain.headD []) with
    | .error fault => .error (.certificateParse .clientCertificate fault)
    | .ok leaf =>
      if leaf.publicKeyInfo = signingKey.publicKeyInfo then .ok ()
      else .error .keyPairMismatch

/-- Pairs the certificate chain of one text with the private key of another. -/
def readIdentity (certificates key : Bytes) : Except TrustError ClientIdentity := do
  let chain ← certificateChain certificates
  let key ← firstPrivateKey key
  checkKeyPair chain key
  return ⟨chain, key⟩

end HostRoster
