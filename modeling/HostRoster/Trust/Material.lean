import HostRoster.Certificate
import HostRoster.FileTree

/-!
# Trust material

The PEM texts that a trust configuration is made of, how they are read from files, and what can go
wrong with them.
-/

set_option autoImplicit false

namespace HostRoster

/-! ## Causes -/

/-- A piece of trust material. -/
inductive Material where
  /-- The certificate of the supplied authority. -/
  | authority
  /-- The certificate chain of the client. -/
  | clientCertificate
  /-- The private key of the client. -/
  | clientKey
  deriving DecidableEq, Repr

/-- The name of a piece in messages. -/
def Material.name : Material → String
  | .authority => "CA certificate"
  | .clientCertificate => "client certificate"
  | .clientKey => "client private key"

/-- Why no trust configuration can be made. -/
inductive TrustError where
  /-- A text holds no item of the expected kind. -/
  | invalidPem (material : Material)
  /-- An item is no well-formed certificate. -/
  | certificateParse (material : Material) (fault : CertificateFault)
  /-- The private key does not belong to the certificate. -/
  | keyPairMismatch
  /-- The private key cannot be loaded. -/
  | privateKeyParse
  /-- The mode requires a piece that is absent. -/
  | missingMaterial (material : Material)
  /-- A selector names no mode. -/
  | unknownMode (selector : String)
  /-- A file cannot be read. -/
  | unreadable (material : Material) (path : String) (fault : FileFault)
  deriving DecidableEq, Repr

/-- The wording of an error. -/
def TrustError.message : TrustError → String
  | .invalidPem material => "failed to decode PEM block containing " ++ material.name
  | .certificateParse material fault =>
    "error parsing " ++ material.name ++ ": invalid peer certificate: " ++ fault.message
  | .keyPairMismatch => "client private key does not match the client certificate"
  | .privateKeyParse =>
    "error loading client private key: unexpected error: " ++
      "failed to parse private key as RSA, ECDSA, or EdDSA"
  | .missingMaterial material =>
    "trust mode requires a " ++ material.name ++ " but none was supplied"
  | .unknownMode selector => "unknown trust mode `" ++ selector ++ "`"
  | .unreadable material path fault =>
    "failed to read " ++ material.name ++ " from " ++ path ++ ": " ++ fault.message

/-! ## Bundles -/

/-- The supplied PEM texts. Nothing about them is checked before a mode consumes them. -/
structure Bundle where
  /-- The certificate of the authority. -/
  authority : Option Bytes := none
  /-- The certificate chain of the client. -/
  clientCertificate : Option Bytes := none
  /-- The private key of the client. -/
  clientKey : Option Bytes := none
  deriving DecidableEq, Repr, Inhabited

namespace Bundle

/-- The text of a piece. -/
def get? (bundle : Bundle) : Material → Option Bytes
  | .authority => bundle.authority
  | .clientCertificate => bundle.clientCertificate
  | .clientKey => bundle.clientKey

/-- The bundle with the text of a piece set. -/
def put (bundle : Bundle) (text : Bytes) : Material → Bundle
  | .authority => { bundle with authority := some text }
  | .clientCertificate => { bundle with clientCertificate := some text }
  | .clientKey => { bundle with clientKey := some text }

/-- Whether no piece is supplied. -/
def isEmpty (bundle : Bundle) : Bool :=
  bundle.authority.isNone && bundle.clientCertificate.isNone && bundle.clientKey.isNone

/-- A description that tells which pieces are there and shows none of them. -/
def describe (bundle : Bundle) : String :=
  let shown (present : Bool) : String := if present then "true" else "false"
  "CertificateBundle \x7b ca_certificate: " ++ shown bundle.authority.isSome ++
    ", client_certificate: " ++ shown bundle.clientCertificate.isSome ++
    ", client_key: " ++ shown bundle.clientKey.isSome ++ " \x7d"

/-- Reads the file of a piece, if it has one. -/
def readPiece (reader : FileReader) (material : Material) :
    Option String → Except TrustError (Option Bytes)
  | none => .ok none
  | some path =>
    match reader path with
    | .ok content => .ok (some content)
    | .error fault => .error (.unreadable material path fault)

/-- Reads the files of the three pieces, the authority first and the key last. -/
def ofFiles (reader : FileReader) (authority clientCertificate clientKey : Option String) :
    Except TrustError Bundle := do
  let authority ← readPiece reader .authority authority
  let clientCertificate ← readPiece reader .clientCertificate clientCertificate
  let clientKey ← readPiece reader .clientKey clientKey
  return ⟨authority, clientCertificate, clientKey⟩

end Bundle

end HostRoster
