import HostRoster.Certificate.Chain
import HostRoster.Trust.Configuration

/-!
# Opening a connection

What happens when a client with a trust configuration meets a server: the client checks the
certificates of the server, unless its configuration skips that, and in every case that the server
has signed with the key of its leaf certificate.
-/

set_option autoImplicit false

namespace HostRoster

/-- The versions of the protocol. -/
inductive ProtocolVersion where
  /-- Version 1.2. -/
  | tls12
  /-- Version 1.3. -/
  | tls13
  deriving DecidableEq, Repr

/-- A server as a client meets it. -/
structure Server where
  /-- The encodings of the certificates it presents, the leaf first. -/
  chain : List Bytes
  /-- The key it signs with. -/
  key : SigningKey
  /-- The version it speaks. -/
  version : ProtocolVersion
  /-- Whether it asks the client for a certificate. -/
  asksForIdentity : Bool
  deriving DecidableEq, Repr

/-- The algorithms that a client tries on a signature of a key. Version 1.2 leaves the curve
open. -/
def SigningKey.algorithms (version : ProtocolVersion) : SigningKey → List SignatureAlgorithm
  | .rsa _ _ => [.rsaSalted .sha512 3]
  | .edwards _ => [.edwards]
  | .curve .p256 _ =>
    match version with
    | .tls13 => [.onCurve .p256 .sha256 2]
    | .tls12 => [.onCurve .p256 .sha256 2, .onCurve .p384 .sha256 2]
  | .curve .p384 _ =>
    match version with
    | .tls13 => [.onCurve .p384 .sha384 3]
    | .tls12 => [.onCurve .p384 .sha384 3, .onCurve .p256 .sha384 3]

/-- Checks a signature of a key under the public key of a certificate: it holds exactly when the
certificate has the public half of the key. -/
def checkProof (key : SigningKey) (info : Bytes) : List SignatureAlgorithm → ChainCheck Unit
  | [] => .error .badSignature
  | algorithm :: rest => do
    let (name, bits) ← readPublicKeyInfo info
    if algorithm.keyName = name then
      if bits = key.publicBits then .ok () else .error .badSignature
    else if rest = [] then .error (.algorithmUnfitForKey algorithm.name name)
    else checkProof key info rest

/-- The anchors of trust roots, where the public ones are given. -/
def TrustRoots.anchors (publicAnchors : List TrustAnchor) : TrustRoots → List TrustAnchor
  | .none => []
  | .publicAuthorities => publicAnchors
  | .supplied anchors => anchors

/-- How a client words what it finds wrong with a server. -/
def ChainError.rejection (cause : ChainError) : String :=
  "invalid peer certificate: " ++ cause.message

/-- Meets a server at a time, and gives the certificates that the client presents. -/
def meet (publicAnchors : List TrustAnchor) (configuration : TrustConfiguration) (time : Nat)
    (name : ServerName) (server : Server) : ChainCheck (List Bytes) := do
  if !configuration.skipsVerification then
    checkServer time (configuration.roots.anchors publicAnchors) name server.chain
  let leaf ← readLeaf (server.chain.headD [])
  checkProof server.key leaf.publicKeyInfo (server.key.algorithms server.version)
  match server.asksForIdentity, configuration.identity with
  | true, some identity => return identity.chain
  | _, _ => return []

end HostRoster
