import HostRoster.Encoding.Der

/-!
# Certificates

A certificate binds a subject to a public key. `Certificate.read` takes the encoding apart; the
parts keep the contents of their elements, without tag and length.

**Version.** Only certificates of the third version are read, except as trust anchors, where the
first version is read as well.

**Extensions.** Six extensions are remembered, each at most once. An unknown extension is skipped
unless it is marked critical; a trust anchor may have critical unknown ones.

**Faults.** The outer structure is read before the inner one, so a damaged signature part hides
every other fault.
-/

set_option autoImplicit false

namespace HostRoster

/-! ## Faults -/

/-- Why a byte string is no certificate that can be used. -/
inductive CertificateFault where
  /-- It is not encoded as a certificate. -/
  | badEncoding
  /-- It is not of the third version. -/
  | unsupportedVersion
  /-- It has a critical extension that is not known. -/
  | unsupportedCriticalExtension
  /-- The signature algorithm inside is not the one outside. -/
  | signatureAlgorithmMismatch
  /-- It has an extension twice. -/
  | repeatedExtension
  deriving DecidableEq, Repr

/-- The wording of a fault. -/
def CertificateFault.message : CertificateFault → String
  | .badEncoding => "BadEncoding"
  | .unsupportedVersion => "Other(OtherError(UnsupportedCertVersion))"
  | .unsupportedCriticalExtension => "Other(OtherError(UnsupportedCriticalExtension))"
  | .signatureAlgorithmMismatch => "Other(OtherError(SignatureAlgorithmMismatch))"
  | .repeatedExtension => "Other(OtherError(ExtensionValueInvalid))"

/-- What reading a part of an encoding gives. -/
abbrev CertificateReading (α : Type) := Except CertificateFault α

/-- Takes what is there, and calls an encoding bad that lacks it. -/
def wellEncoded {α : Type} : Option α → CertificateReading α
  | some part => .ok part
  | none => .error .badEncoding

/-! ## Extensions -/

/-- The extensions that certificates are read for. -/
structure Extensions where
  /-- What the key may be used for, as the whole value. -/
  keyUsage : Option Bytes := none
  /-- The other names of the subject. -/
  alternativeNames : Option Bytes := none
  /-- Whether the subject is an authority, and how long its chains may be. -/
  basicConstraints : Option Bytes := none
  /-- The names that certificates below may have. -/
  nameConstraints : Option Bytes := none
  /-- Where revocation lists are found. -/
  revocationPoints : Option Bytes := none
  /-- The purposes of the certificate. -/
  extendedKeyUsage : Option Bytes := none
  deriving DecidableEq, Repr

/-- An extension as it stands in a certificate. -/
structure Extension where
  /-- The name of the extension. -/
  identifier : Bytes
  /-- Whether whoever does not know the extension has to refuse the certificate. -/
  critical : Bool
  /-- The value of the extension. -/
  value : Bytes
  deriving DecidableEq, Repr

/-- Reads a truth value that is false when it is left out. -/
def readFlag (bytes : Bytes) : CertificateReading (Bool × Bytes) :=
  if Der.nextIs Der.boolean bytes then
    match Der.expect .certificate Der.boolean bytes with
    | some ([0xFF], rest) => .ok (true, rest)
    | some ([0x00], rest) => .ok (false, rest)
    | _ => .error .badEncoding
  else .ok (false, bytes)

/-- Reads one extension from its content. -/
def Extension.read (content : Bytes) : CertificateReading Extension := do
  let (identifier, rest) ← wellEncoded (Der.expect .certificate Der.objectIdentifier content)
  let (critical, rest) ← readFlag rest
  let value ← wellEncoded (Der.only .certificate Der.octetString rest)
  return ⟨identifier, critical, value⟩

/-- The slots of remembered extensions. -/
inductive ExtensionSlot where
  | keyUsage
  | alternativeNames
  | basicConstraints
  | nameConstraints
  | revocationPoints
  | extendedKeyUsage
  deriving DecidableEq, Repr

/-- The slot of an extension name. -/
def ExtensionSlot.of? : Bytes → Option ExtensionSlot
  | [0x55, 0x1D, 15] => some .keyUsage
  | [0x55, 0x1D, 17] => some .alternativeNames
  | [0x55, 0x1D, 19] => some .basicConstraints
  | [0x55, 0x1D, 30] => some .nameConstraints
  | [0x55, 0x1D, 31] => some .revocationPoints
  | [0x55, 0x1D, 37] => some .extendedKeyUsage
  | _ => none

namespace Extensions

/-- What a slot holds. -/
def get (extensions : Extensions) : ExtensionSlot → Option Bytes
  | .keyUsage => extensions.keyUsage
  | .alternativeNames => extensions.alternativeNames
  | .basicConstraints => extensions.basicConstraints
  | .nameConstraints => extensions.nameConstraints
  | .revocationPoints => extensions.revocationPoints
  | .extendedKeyUsage => extensions.extendedKeyUsage

/-- Fills a slot. -/
def put (extensions : Extensions) (content : Bytes) : ExtensionSlot → Extensions
  | .keyUsage => { extensions with keyUsage := some content }
  | .alternativeNames => { extensions with alternativeNames := some content }
  | .basicConstraints => { extensions with basicConstraints := some content }
  | .nameConstraints => { extensions with nameConstraints := some content }
  | .revocationPoints => { extensions with revocationPoints := some content }
  | .extendedKeyUsage => { extensions with extendedKeyUsage := some content }

/-- Remembers an extension. The value of all slots but the key usage is one sequence. -/
def remember (strict : Bool) (extensions : Extensions) (extension : Extension) :
    CertificateReading Extensions :=
  match ExtensionSlot.of? extension.identifier with
  | none =>
    if strict && extension.critical then .error .unsupportedCriticalExtension else .ok extensions
  | some slot =>
    match extensions.get slot with
    | some _ => .error .repeatedExtension
    | none =>
      match slot with
      | .keyUsage => .ok (extensions.put extension.value slot)
      | _ => do
        let content ← wellEncoded (Der.only .certificate Der.sequence extension.value)
        return extensions.put content slot

/-- Reads extensions one after the other to the end. The bound is at least their number. -/
def readAll (strict : Bool) : Nat → Extensions → Bytes → CertificateReading Extensions
  | _, extensions, [] => .ok extensions
  | 0, _, _ => .error .badEncoding
  | bound + 1, extensions, bytes => do
    let (content, rest) ← wellEncoded (Der.expect .certificate Der.sequence bytes)
    let extension ← Extension.read content
    let extensions ← extensions.remember strict extension
    readAll strict bound extensions rest

end Extensions

/-! ## Certificates -/

/-- A certificate taken apart. -/
structure Certificate where
  /-- The whole encoding. -/
  encoded : Bytes
  /-- The part that is signed, with its tag and length. -/
  signedPart : Bytes
  /-- The algorithm of the signature. -/
  signatureAlgorithm : Bytes
  /-- The signature. -/
  signature : Bytes
  /-- The serial number. -/
  serial : Bytes
  /-- The name of the issuer. -/
  issuer : Bytes
  /-- The times between which the certificate is valid. -/
  validity : Bytes
  /-- The name of the subject. -/
  subject : Bytes
  /-- The algorithm and the bits of the public key. -/
  publicKeyInfo : Bytes
  /-- The remembered extensions. -/
  extensions : Extensions
  deriving DecidableEq, Repr

namespace Certificate

/-- The signed part with its tag and length, its content, the algorithm and the signature. -/
def readOuter (encoded : Bytes) : Option (Bytes × Bytes × Bytes × Bytes) := do
  let content ← Der.only .certificate Der.sequence encoded
  let (inner, afterInner) ← Der.expect .certificate Der.sequence content
  let (algorithm, afterAlgorithm) ← Der.expect .certificate Der.sequence afterInner
  let (signature, rest) ← Der.bits .certificate afterAlgorithm
  if rest = [] then
    some (content.take (content.length - afterInner.length), inner, algorithm, signature)
  else none

/-- Reads the version, which has to be the third. -/
def readVersion (inner : Bytes) : CertificateReading Bytes :=
  match Der.expect .certificate (Der.contextConstructed 0) inner with
  | none => .error .unsupportedVersion
  | some (content, rest) =>
    match Der.smallNatural .certificate content with
    | none => .error .badEncoding
    | some (version, behind) =>
      if version = 2 ∧ behind = [] then .ok rest else .error .unsupportedVersion

/-- Reads the extensions, if there are any. -/
def readExtensions (strict : Bool) (bytes : Bytes) : CertificateReading Extensions :=
  if bytes = [] then .ok {}
  else do
    let content ← wellEncoded (Der.only .certificate (Der.contextConstructed 3) bytes)
    let list ← wellEncoded (Der.only .certificate Der.sequence content)
    Extensions.readAll strict list.length {} list

/-- Reads a certificate. When `strict` holds, unknown critical extensions are refused. -/
def readWith (strict : Bool) (encoded : Bytes) : CertificateReading Certificate := do
  let (signedPart, inner, signatureAlgorithm, signature) ← wellEncoded (readOuter encoded)
  let rest ← readVersion inner
  let (serial, rest) ← wellEncoded (Der.expect .certificate Der.integer rest)
  let (innerAlgorithm, rest) ← wellEncoded (Der.expect .certificate Der.sequence rest)
  if innerAlgorithm ≠ signatureAlgorithm then .error .signatureAlgorithmMismatch
  let (issuer, rest) ← wellEncoded (Der.expect .certificate Der.sequence rest)
  let (validity, rest) ← wellEncoded (Der.expect .certificate Der.sequence rest)
  let (subject, rest) ← wellEncoded (Der.expect .certificate Der.sequence rest)
  let (publicKeyInfo, rest) ← wellEncoded (Der.expect .certificate Der.sequence rest)
  let extensions ← readExtensions strict rest
  return { encoded, signedPart, signatureAlgorithm, signature, serial, issuer, validity, subject,
           publicKeyInfo, extensions }

/-- Reads a certificate that is not a trust anchor. -/
def read (encoded : Bytes) : CertificateReading Certificate := readWith true encoded

end Certificate

/-! ## Trust anchors -/

/-- What is trusted about an authority: its name, its key, and the names it may speak for. -/
structure TrustAnchor where
  /-- The name of the authority. -/
  subject : Bytes
  /-- The algorithm and the bits of its public key. -/
  publicKeyInfo : Bytes
  /-- The names that certificates below it may have. -/
  nameConstraints : Option Bytes
  deriving DecidableEq, Repr

namespace TrustAnchor

/-- Reads a certificate of the first version, which has no version and no extensions. -/
def readFirstVersion (encoded : Bytes) : Option TrustAnchor := do
  let content ← Der.only .certificate Der.sequence encoded
  let (inner, rest) ← Der.expect .certificate Der.sequence content
  let (_, rest) ← Der.expect .certificate Der.sequence rest
  let _ ← Der.only .certificate Der.bitString rest
  let (_, inner) ← Der.expect .certificate Der.integer inner
  let (_, inner) ← Der.expect .certificate Der.sequence inner
  let (_, inner) ← Der.expect .certificate Der.sequence inner
  let (_, inner) ← Der.expect .certificate Der.sequence inner
  let (subject, inner) ← Der.expect .certificate Der.sequence inner
  let publicKeyInfo ← Der.only .certificate Der.sequence inner
  return ⟨subject, publicKeyInfo, none⟩

/-- Reads a certificate as a trust anchor. -/
def read (encoded : Bytes) : CertificateReading TrustAnchor :=
  match Certificate.readWith false encoded with
  | .ok certificate =>
    .ok ⟨certificate.subject, certificate.publicKeyInfo, certificate.extensions.nameConstraints⟩
  | .error .unsupportedVersion => wellEncoded (readFirstVersion encoded)
  | .error fault => .error fault

end TrustAnchor

end HostRoster
