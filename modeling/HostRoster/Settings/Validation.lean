import HostRoster.Settings

/-!
# Valid settings

`Settings.violations` lists what is wrong with settings, in a fixed order. A mode that selects no
trust mode is not an error here.
-/

set_option autoImplicit false

namespace HostRoster

/-- What is wrong with settings. -/
inductive Violation where
  /-- The namespace is empty. -/
  | emptyNamespace
  /-- The first delay is zero. -/
  | zeroBase
  /-- The first delay is longer than the longest. -/
  | baseExceedsMax (base max : Nat)
  /-- The trust mode requires the certificate of an authority. -/
  | missingAuthorityPath (mode : TrustMode)
  /-- The trust mode requires a client identity. -/
  | missingIdentityPaths (mode : TrustMode)
  /-- The layout of the log is not known. -/
  | unknownLogFormat (format : String)
  deriving DecidableEq, Repr

/-- The wording of a violation. -/
def Violation.message : Violation → String
  | .emptyNamespace => "watcher.namespace must not be empty"
  | .zeroBase => "watcher.retry.rate_limiter_base_ms must be greater than zero"
  | .baseExceedsMax base max =>
    "watcher.retry.rate_limiter_base_ms (" ++ toString base ++
      ") exceeds rate_limiter_max_ms (" ++ toString max ++ ")"
  | .missingAuthorityPath mode => "tls.mode `" ++ mode.selector ++ "` requires tls.ca_cert_path"
  | .missingIdentityPaths mode =>
    "tls.mode `" ++ mode.selector ++ "` requires tls.client_cert_path and tls.client_key_path"
  | .unknownLogFormat format =>
    "observability.log_format `" ++ format ++ "` is not one of: pretty, json"

/-- The known layouts of the log. -/
def knownLogFormats : List String := ["pretty", "json"]

namespace WatcherSettings

/-- What is wrong with the watcher settings. -/
def violations (settings : WatcherSettings) : List Violation :=
  (if settings.namespaceName = "" then [.emptyNamespace] else []) ++
    (if settings.retry.baseMilliseconds = 0 then [.zeroBase] else []) ++
    (if settings.retry.maxMilliseconds < settings.retry.baseMilliseconds then
      [.baseExceedsMax settings.retry.baseMilliseconds settings.retry.maxMilliseconds]
    else [])

end WatcherSettings

namespace TlsSettings

/-- What is wrong with the connection settings. -/
def violations (settings : TlsSettings) : List Violation :=
  match TrustMode.ofSelector? settings.mode with
  | none => []
  | some mode =>
    (if mode.requiresAuthority && settings.authorityPath.isNone then [.missingAuthorityPath mode]
      else []) ++
    (if mode.requiresIdentity && (settings.certificatePath.isNone || settings.keyPath.isNone) then
      [.missingIdentityPaths mode]
    else [])

end TlsSettings

namespace ObservabilitySettings

/-- What is wrong with the reporting settings. -/
def violations (settings : ObservabilitySettings) : List Violation :=
  if settings.logFormat ∈ knownLogFormats then [] else [.unknownLogFormat settings.logFormat]

end ObservabilitySettings

/-- What is wrong with settings. -/
def Settings.violations (settings : Settings) : List Violation :=
  settings.watcher.violations ++ settings.tls.violations ++ settings.observability.violations

end HostRoster
