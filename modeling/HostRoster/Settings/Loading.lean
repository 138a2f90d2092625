import HostRoster.Settings.Validation
import HostRoster.Toml.Reader

/-!
# Loading settings

Settings are loaded from the text of a TOML file, and refused unless they are valid.
-/

set_option autoImplicit false

namespace HostRoster

/-- Why settings cannot be loaded. -/
inductive SettingsError where
  /-- The file cannot be read. -/
  | unreadable (fault : FileFault)
  /-- The text of the file is not TOML. -/
  | badSyntax
  /-- The document of the file does not have the shape of settings. -/
  | badShape (cause : ShapeError)
  /-- The settings are not valid. -/
  | invalid (violations : List Violation)
  deriving Repr

/-- The wording of violations. -/
def violationsMessage (violations : List Violation) : String :=
  "Validation failed: " ++ ", ".intercalate (violations.map Violation.message)

/-- The wording of an error, where it is fixed. -/
def SettingsError.message : SettingsError → String
  | .unreadable fault => "IO error: " ++ fault.message
  | .badSyntax => "Parse error: the text is not TOML"
  | .badShape cause => "Parse error: " ++ cause.message .toml
  | .invalid violations => violationsMessage violations

/-- The settings of a text. -/
def Settings.ofText (text : String) : Except SettingsError Settings :=
  match Toml.read text with
  | none => .error .badSyntax
  | some document =>
    match Settings.ofDocument .toml document with
    | .error cause => .error (.badShape cause)
    | .ok settings =>
      if settings.violations = [] then .ok settings else .error (.invalid settings.violations)

/-- The settings of a file. -/
def Settings.load (reader : FileReader) (path : String) : Except SettingsError Settings :=
  match reader path with
  | .error fault => .error (.unreadable fault)
  | .ok content =>
    match Bytes.text? content with
    | none => .error (.unreadable .notText)
    | some text => Settings.ofText text

end HostRoster
