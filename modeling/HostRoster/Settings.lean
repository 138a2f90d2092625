import HostRoster.Document.Shape
import HostRoster.Log
import HostRoster.Trust.Material
import HostRoster.Trust.Mode

/-!
# Settings

The settings of the program and their defaults. A document sets the fields that it gives, at every
level, and all others keep their default.
-/

set_option autoImplicit false

namespace HostRoster

/-- How often a failed watch is tried again. -/
structure RetrySettings where
  /-- The name of the queue in reports. -/
  name : String := "nkl-handler"
  /-- The delay after the first failure, in milliseconds. -/
  baseMilliseconds : Nat := 2000
  /-- The longest delay, in milliseconds. -/
  maxMilliseconds : Nat := 60000
  deriving DecidableEq, Repr, Inhabited

/-- What is watched. -/
structure WatcherSettings where
  /-- The namespace of the watched resources. -/
  namespaceName : String := "nkl"
  /-- What happens after failures. -/
  retry : RetrySettings := {}
  deriving DecidableEq, Repr, Inhabited

/-- How connections are secured. -/
structure TlsSettings where
  /-- The selector of the trust mode. -/
  mode : String := "no-tls"
  /-- The file of the authority's certificate. -/
  authorityPath : Option String := none
  /-- The file of the client's certificates. -/
  certificatePath : Option String := none
  /-- The file of the client's private key. -/
  keyPath : Option String := none
  deriving DecidableEq, Repr, Inhabited

/-- What is reported, and how. -/
structure ObservabilitySettings where
  /-- The level from which on entries are reported. -/
  logLevel : String := "info"
  /-- The layout of the log. -/
  logFormat : String := "pretty"
  deriving DecidableEq, Repr, Inhabited

/-- All settings. -/
structure Settings where
  /-- What is watched. -/
  watcher : WatcherSettings := {}
  /-- How connections are secured. -/
  tls : TlsSettings := {}
  /-- What is reported. -/
  observability : ObservabilitySettings := {}
  deriving DecidableEq, Repr, Inhabited

/-! ## Reading -/

/-- The fields of the retry settings. -/
def RetrySettings.fields : List (Field RetrySettings) :=
  [⟨"name", fun document record =>
      (document.asText .text).map fun name => { record with name }⟩,
   ⟨"rate_limiter_base_ms", fun document record =>
      document.asWord.map fun baseMilliseconds => { record with baseMilliseconds }⟩,
   ⟨"rate_limiter_max_ms", fun document record =>
      document.asWord.map fun maxMilliseconds => { record with maxMilliseconds }⟩]

/-- The fields of the watcher settings. -/
def WatcherSettings.fields (dialect : Dialect) : List (Field WatcherSettings) :=
  [⟨"namespace", fun document record =>
      (document.asText .text).map fun namespaceName => { record with namespaceName }⟩,
   ⟨"retry", fun document record =>
      (readRecord dialect "WorkQueueSettings" RetrySettings.fields {} document).map
        fun retry => { record with retry }⟩]

/-- The fields of the connection settings. -/
def TlsSettings.fields : List (Field TlsSettings) :=
  [⟨"mode", fun document record =>
      (document.asText .text).map fun mode => { record with mode }⟩,
   ⟨"ca_cert_path", fun document record =>
      (document.asOptionalText .path).map fun authorityPath => { record with authorityPath }⟩,
   ⟨"client_cert_path", fun document record =>
      (document.asOptionalText .path).map fun certificatePath => { record with certificatePath }⟩,
   ⟨"client_key_path", fun document record =>
      (document.asOptionalText .path).map fun keyPath => { record with keyPath }⟩]

/-- The fields of the reporting settings. -/
def ObservabilitySettings.fields : List (Field ObservabilitySettings) :=
  [⟨"log_level", fun document record =>
      (document.asText .text).map fun logLevel => { record with logLevel }⟩,
   ⟨"log_format", fun document record =>
      (document.asText .text).map fun logFormat => { record with logFormat }⟩]

/-- The fields of the settings. -/
def Settings.fields (dialect : Dialect) : List (Field Settings) :=
  [⟨"watcher", fun document record =>
      (readRecord dialect "WatcherSettings" (WatcherSettings.fields dialect) {} document).map
        fun watcher => { record with watcher }⟩,
   ⟨"tls", fun document record =>
      (readRecord dialect "TlsSettings" TlsSettings.fields {} document).map
        fun tls => { record with tls }⟩,
   ⟨"observability", fun document record =>
      (readRecord dialect "ObservabilityConfig" ObservabilitySettings.fields {} document).map
        fun observability => { record with observability }⟩]

/-- The settings of a document. -/
def Settings.ofDocument (dialect : Dialect) (document : Document) : Except ShapeError Settings :=
  readRecord dialect "Settings" (Settings.fields dialect) {} document

/-! ## Use -/

/-- What is reported when a selector names no trust mode. -/
def unknownModeEntry (mode : String) : LogEntry :=
  ⟨.warn, .settings, "Unrecognized TLS mode, falling back to no-tls (server verification disabled)",
    [("mode", .text mode)]⟩

/-- The trust mode of the settings, with a report if the selector names none. -/
def TlsSettings.trustMode (settings : TlsSettings) : TrustMode × List LogEntry :=
  match TrustMode.ofSelector? settings.mode with
  | some mode => (mode, [])
  | none => (.unverified, [unknownModeEntry settings.mode])

/-- The files that the settings name. -/
def TlsSettings.paths (settings : TlsSettings) : List String :=
  [settings.authorityPath, settings.certificatePath, settings.keyPath].filterMap id

/-- The bundle of the files that the settings name. -/
def TlsSettings.loadBundle (settings : TlsSettings) (reader : FileReader) :
    Except TrustError Bundle :=
  Bundle.ofFiles reader settings.authorityPath settings.certificatePath settings.keyPath

end HostRoster
