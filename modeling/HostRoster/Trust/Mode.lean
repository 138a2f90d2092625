/-!
# Trust modes

A trust mode says whether servers are verified, against which roots, and whether a client
certificate is presented. Modes are chosen by selectors; a selector that names no mode stands for
the mode without verification where the choice is lenient.
-/

set_option autoImplicit false

namespace HostRoster

/-- Which certificates are required, and whether servers are verified. -/
inductive TrustMode where
  /-- No verification and no client identity. -/
  | unverified
  /-- The default roots. -/
  | publicRoots
  /-- The default roots, and a client identity. -/
  | publicRootsMutual
  /-- One supplied authority. -/
  | suppliedRoot
  /-- One supplied authority, and a client identity. -/
  | suppliedRootMutual
  deriving DecidableEq, Repr, Inhabited

namespace TrustMode

/-- All modes. -/
def all : List TrustMode :=
  [.unverified, .publicRoots, .publicRootsMutual, .suppliedRoot, .suppliedRootMutual]

/-- The text that selects a mode. -/
def selector : TrustMode → String
  | .unverified => "no-tls"
  | .publicRoots => "ca-tls"
  | .publicRootsMutual => "ca-mtls"
  | .suppliedRoot => "ss-tls"
  | .suppliedRootMutual => "ss-mtls"

/-- The mode that a text selects. -/
def ofSelector? (text : String) : Option TrustMode :=
  all.find? fun mode => mode.selector == text

/-- The mode that a text selects, or the one without verification. -/
def ofSelector (text : String) : TrustMode := (ofSelector? text).getD .unverified

/-- Whether the mode trusts a supplied authority instead of the default roots. -/
def requiresAuthority : TrustMode → Bool
  | .suppliedRoot | .suppliedRootMutual => true
  | _ => false

/-- Whether the mode presents a client certificate. -/
def requiresIdentity : TrustMode → Bool
  | .publicRootsMutual | .suppliedRootMutual => true
  | _ => false

end TrustMode

end HostRoster
