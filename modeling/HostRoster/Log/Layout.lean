import HostRoster.Log
import HostRoster.Json.Printer
import HostRoster.Text.Quoted

/-!
# Layouts of log entries

An entry is written on a line of its own: in the plain layout as text with the values behind the
message, or as a document in JSON.
-/

set_option autoImplicit false

namespace HostRoster

/-- How entries are written. -/
inductive LogLayout where
  /-- As text. -/
  | plain
  /-- As documents in JSON. -/
  | json
  deriving DecidableEq, Repr

/-- The layout with this name; an unknown name means text. -/
def LogLayout.ofName (name : String) : LogLayout := if name = "json" then .json else .plain

namespace LogValue

/-- A value in the plain layout. -/
def plainText : LogValue → String
  | .text value => value
  | .quoted value => Quoted.quote value
  | .number value => toString value
  | .flag value => if value then "true" else "false"

/-- A value as a document. -/
def document : LogValue → Document
  | .text value | .quoted value => .string value
  | .number value => .integer value
  | .flag value => .boolean value

end LogValue

namespace LogEntry

/-- An entry in the plain layout. -/
def plainLine (entry : LogEntry) : String :=
  entry.level.name ++ " " ++ entry.origin.path ++ ": " ++ entry.message ++
    String.join (entry.values.map fun (name, value) => " " ++ name ++ "=" ++ value.plainText)

/-- An entry as a document. -/
def document (entry : LogEntry) : Document :=
  .object [
    ("level", .string entry.level.name),
    ("fields", .object (("message", .string entry.message) ::
      entry.values.map fun (name, value) => (name, value.document))),
    ("target", .string entry.origin.path)]

/-- The line of an entry. -/
def line (entry : LogEntry) : LogLayout → String
  | .plain => entry.plainLine
  | .json => Json.print entry.document

end LogEntry

end HostRoster
