import HostRoster.Cluster.Session
import HostRoster.CommandLine.Arguments
import HostRoster.Lifecycle.Signal
import HostRoster.Log.Filter
import HostRoster.Log.Layout
import HostRoster.Settings.Loading
import HostRoster.Trust.Configuration

/-!
# The program

The program loads its settings, makes the trust configuration, and then keeps the roster in step
with a cluster until a signal asks it to end. What can be wrong with the trust material is found out
before anything is watched.

`Program.perform` is the whole program as a function of its surroundings: its arguments, the files,
whether there is a cluster, and the signal that ends it. The cluster is one that does not answer, so
that the roster stays empty; `Session` is where events meet the roster.
-/

set_option autoImplicit false

namespace HostRoster

/-- What the program finds around it. -/
structure Surroundings where
  /-- The arguments. -/
  arguments : List String
  /-- The log filter of the environment. -/
  logFilter : Option String := none
  /-- The files. -/
  reader : FileReader
  /-- The signal that comes once the cluster is watched; without one there is no cluster. -/
  signal : Option TerminationSignal := none

/-- What the program leaves behind. -/
structure Outcome where
  /-- The exit code. -/
  code : Nat
  /-- The lines of the output. -/
  output : List String := []
  /-- The lines of the error output. -/
  errors : List String := []
  deriving DecidableEq, Repr

/-- Why the program fails. -/
inductive ProgramError where
  /-- The settings cannot be loaded. -/
  | settings (cause : SettingsError)
  /-- There is no trust configuration. -/
  | trust (cause : TrustError)
  /-- The trust configuration cannot be rendered. -/
  | render (cause : RenderError)
  /-- There is no cluster. -/
  | noCluster
  /-- The source cannot be set up. -/
  | registration (cause : RegistrationError)
  deriving Repr

/-- The word for an error of the settings. -/
def SettingsError.label : SettingsError → String
  | .unreadable _ => "Io"
  | .badSyntax | .badShape _ => "Parse"
  | .invalid _ => "Validation"

/-- The word for an error of the trust configuration. -/
def TrustError.label : TrustError → String
  | .invalidPem _ => "InvalidPem"
  | .certificateParse _ _ => "CertificateParse"
  | .keyPairMismatch => "KeyPairMismatch"
  | .privateKeyParse => "PrivateKeyParse"
  | .missingMaterial _ => "MissingMaterial"
  | .unknownMode _ => "UnknownTrustMode"
  | .unreadable _ _ _ => "Io"

/-- The word for an error of a registration. -/
def RegistrationError.label : RegistrationError → String
  | .alreadyRegistered => "AlreadyRegistered"
  | .emptyNamespace => "EmptyNamespace"
  | .notRegistered => "NotRegistered"

/-- The word for an error of the program. -/
def ProgramError.label : ProgramError → String
  | .settings cause => cause.label
  | .trust cause => cause.label
  | .render .noRoots => "General"
  | .render (.badIdentity cause) => cause.label
  | .noCluster => "InferConfig"
  | .registration cause => cause.label

namespace Program

/-! ## Texts -/

/-- The name and the version of the program. -/
def title : String := "nginx-fleet-sync v0.1.0"

/-- The lines of the usage. -/
def usageLines : List String := ["Usage: nginx-fleet-sync [OPTIONS]"]

/-- The lines of the help. -/
def helpLines : List String :=
  ["Sync NGINX hosts from a Kubernetes ConfigMap", ""] ++ usageLines ++
  ["", "Options:",
    "  -c, --config <CONFIG>        Settings file (TOML). Defaults apply when omitted",
    "      --log-level <LOG_LEVEL>  Log level, overrides the settings file",
    "  -h, --help                   Print help"]

/-- The lines about arguments that are refused. -/
def refusalLines (cause : UsageError) : List String :=
  ["error: " ++ cause.message, ""] ++ usageLines ++ ["", "For more information, try '--help'."]

/-! ## Work -/

/-- The settings of the file, or the default settings where no file is given. -/
def settingsOf (reader : FileReader) (options : Options) : Except SettingsError Settings :=
  match options.config with
  | some path => Settings.load reader path
  | none => .ok {}

/-- The filter of the environment if it is correct, otherwise the one for the level of the options
or the settings, with the complaints about it. -/
def filterOf (environment : Option String) (options : Options) (settings : Settings) :
    LogFilter × List String :=
  match environment.map LogFilter.read with
  | some (.ok filter) => (filter, [])
  | _ =>
    let level := options.logLevel.getD settings.observability.logLevel
    LogFilter.readLeniently ("nginx_fleet_sync=" ++ level ++ ",kube=warn")

/-- What is reported at the start. -/
def startEntries (settings : Settings) : List LogEntry :=
  [⟨.info, .program, title ++ " starting", []⟩,
   ⟨.info, .program, "Settings loaded",
    [("namespace", .text settings.watcher.namespaceName), ("tls_mode", .text settings.tls.mode)]⟩]

/-- The word for roots. -/
def rootsLabel : TrustRoots → String
  | .none => "none"
  | .publicAuthorities => "default"
  | .supplied _ => "custom"

/-- Makes the trust configuration for a mode, and reports it. -/
def secure (mode : TrustMode) (bundle : Bundle) : List LogEntry × Except ProgramError Unit :=
  match assemble mode bundle with
  | .error cause =>
    ([⟨.error, .program, "Failed to assemble TLS configuration",
        [("mode", .text mode.selector), ("error", .text cause.message)]⟩],
      .error (.trust cause))
  | .ok configuration =>
    match configuration.clientSettings with
    | .error cause => ([], .error (.render cause))
    | .ok client =>
      ([⟨.info, .program, "TLS client configuration validated",
          [("mode", .text mode.selector), ("roots", .quoted (rootsLabel configuration.roots)),
           ("client_auth", .flag client.identity.isSome),
           ("skip_verification", .flag configuration.skipsVerification)]⟩],
        .ok ())

/-- Makes the trust configuration of settings, and reports it. -/
def secureSettings (reader : FileReader) (tls : TlsSettings) :
    List LogEntry × Except ProgramError Unit :=
  let (mode, warnings) := tls.trustMode
  match tls.loadBundle reader with
  | .error cause => (warnings, .error (.trust cause))
  | .ok bundle =>
    let (entries, result) := secure mode bundle
    (warnings ++ entries, result)

/-- Watches a cluster that does not answer until a signal comes. -/
def watch (settings : Settings) (signal : TerminationSignal) :
    List LogEntry × Except ProgramError Unit :=
  let namespaceName := settings.watcher.namespaceName
  let source : ClusterSource Unit := { retry := settings.watcher.retry }
  match Session.setUp namespaceName source with
  | (_, some cause) => ([SyncRun.setUpEntry namespaceName], .error (.registration cause))
  | (session, none) =>
    let (watching, before) := session.start.settle
    let (stopped, after) := watching.trigger.settle
    ([SyncRun.setUpEntry namespaceName] ++ Output.entries before ++ [signal.entry] ++
        [⟨.info, .program, "Shutdown signal received, stopping watcher", []⟩] ++
        Output.entries after ++
        [⟨.info, .program, "Shutdown complete",
          [("hosts", .number stopped.run.roster.hosts.length)]⟩],
      .ok ())

/-- All that the program does with its settings, and what it reports. -/
def work (surroundings : Surroundings) (settings : Settings) :
    List LogEntry × Except ProgramError Unit :=
  let (secured, result) := secureSettings surroundings.reader settings.tls
  let begun := startEntries settings ++ secured
  match result, surroundings.signal with
  | .error cause, _ => (begun, .error cause)
  | .ok (), none => (begun, .error .noCluster)
  | .ok (), some signal =>
    let (watched, result) := watch settings signal
    (begun ++ watched, result)

/-- The lines of the error output for a result. -/
def failureLines : Except ProgramError Unit → List String
  | .ok () => []
  | .error cause => ["Error: " ++ cause.label]

/-- The exit code for a result. -/
def exitCode : Except ProgramError Unit → Nat
  | .ok () => 0
  | .error _ => 1

/-- Runs with options. -/
def runWith (surroundings : Surroundings) (options : Options) : Outcome :=
  match settingsOf surroundings.reader options with
  | .error cause => { code := 1, errors := failureLines (.error (.settings cause)) }
  | .ok settings =>
    let (filter, complaints) := filterOf surroundings.logFilter options settings
    let (entries, result) := work surroundings settings
    let layout := LogLayout.ofName settings.observability.logFormat
    { code := exitCode result,
      output := (entries.filter filter.passes).map fun entry => entry.line layout,
      errors := complaints ++ failureLines result }

/-- The whole program. -/
def perform (surroundings : Surroundings) : Outcome :=
  match Command.ofArguments surroundings.arguments with
  | .error cause => { code := 2, errors := refusalLines cause }
  | .ok .help => { code := 0, output := helpLines }
  | .ok (.run options) => runWith surroundings options

end Program

end HostRoster
