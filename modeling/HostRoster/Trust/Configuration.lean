import HostRoster.Trust.Identity
import HostRoster.Trust.Mode

/-!
# Trust configurations

`assemble` makes the client's side of a secured connection from a trust mode and a bundle. A mode
looks at no piece of the bundle that it does not require.
-/

set_option autoImplicit false

namespace HostRoster

/-- Where server certificates are anchored. -/
inductive TrustRoots where
  /-- Nowhere, because servers are not verified. -/
  | none
  /-- At the public authorities. -/
  | publicAuthorities
  /-- At the supplied authorities. -/
  | supplied (anchors : List TrustAnchor)
  deriving DecidableEq, Repr

/-- The client's side of a secured connection. -/
structure TrustConfiguration where
  /-- Where server certificates are anchored. -/
  roots : TrustRoots
  /-- The certificate that the client presents, if it has one. -/
  identity : Option ClientIdentity
  /-- Whether servers are accepted unchecked. -/
  skipsVerification : Bool
  deriving DecidableEq, Repr

namespace TrustConfiguration

/-- No verification and no identity. -/
def unverified : TrustConfiguration := ⟨.none, .none, true⟩

/-- Verification against roots. -/
def verified (roots : TrustRoots) (identity : Option ClientIdentity) : TrustConfiguration :=
  ⟨roots, identity, false⟩

end TrustConfiguration

/-- The text of a piece that is required. -/
def requirePiece (bundle : Bundle) (material : Material) : Except TrustError Bytes :=
  match bundle.get? material with
  | some text => .ok text
  | none => .error (.missingMaterial material)

/-- The supplied authority as the only root. -/
def suppliedRoots (bundle : Bundle) : Except TrustError TrustRoots := do
  let text ← requirePiece bundle .authority
  let anchor ← readTrustRoot text
  return .supplied [anchor]

/-- The client identity of a bundle. -/
def bundleIdentity (bundle : Bundle) : Except TrustError ClientIdentity := do
  let certificates ← requirePiece bundle .clientCertificate
  let key ← requirePiece bundle .clientKey
  readIdentity certificates key

/-- The configuration that a mode makes of a bundle. -/
def assemble (mode : TrustMode) (bundle : Bundle) : Except TrustError TrustConfiguration :=
  match mode with
  | .unverified => .ok .unverified
  | .publicRoots => .ok (.verified .publicAuthorities none)
  | .publicRootsMutual => do
    let identity ← bundleIdentity bundle
    return .verified .publicAuthorities (some identity)
  | .suppliedRoot => do
    let roots ← suppliedRoots bundle
    return .verified roots none
  | .suppliedRootMutual => do
    let roots ← suppliedRoots bundle
    let identity ← bundleIdentity bundle
    return .verified roots (some identity)

/-- The configuration for a selector, where an unknown one means no verification. -/
def assembleSelector (selector : String) (bundle : Bundle) :
    Except TrustError TrustConfiguration :=
  assemble (.ofSelector selector) bundle

/-- The mode of a selector that has to be known. -/
def parseMode (selector : String) : Except TrustError TrustMode :=
  match TrustMode.ofSelector? selector with
  | some mode => .ok mode
  | none => .error (.unknownMode selector)

/-! ## Rendering -/

/-- The side that checks servers. -/
structure ServerVerifier where
  /-- Where server certificates are anchored. -/
  roots : TrustRoots
  deriving DecidableEq, Repr

/-- What a connection is opened with. -/
structure ClientSettings where
  /-- The check of the server, unless it is skipped. -/
  verifier : Option ServerVerifier
  /-- The certificates that the client presents with their key. -/
  identity : Option ClientIdentity
  deriving DecidableEq, Repr

/-- Why a configuration cannot be rendered. -/
inductive RenderError where
  /-- There is no root to verify against. -/
  | noRoots
  /-- The identity does not hold together. -/
  | badIdentity (cause : TrustError)
  deriving DecidableEq, Repr

namespace TrustConfiguration

/-- Whether there is a root. There are always public authorities. -/
def TrustRoots.isEmpty : TrustRoots → Bool
  | .none => true
  | .publicAuthorities => false
  | .supplied anchors => anchors.isEmpty

/-- The check of the server, which needs a root unless it is skipped. -/
def serverVerifier (configuration : TrustConfiguration) :
    Except RenderError (Option ServerVerifier) :=
  if configuration.skipsVerification then .ok none
  else if TrustRoots.isEmpty configuration.roots then .error .noRoots
  else .ok (some ⟨configuration.roots⟩)

/-- What a connection is opened with. The identity is checked once more. -/
def clientSettings (configuration : TrustConfiguration) : Except RenderError ClientSettings := do
  let verifier ← configuration.serverVerifier
  match configuration.identity with
  | none => return ⟨verifier, none⟩
  | some identity =>
    match checkKeyPair identity.chain identity.key with
    | .ok () => return ⟨verifier, some identity⟩
    | .error cause => .error (.badIdentity cause)

end TrustConfiguration

end HostRoster
