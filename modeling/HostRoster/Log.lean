/-!
# Log entries

What the program reports about its work, as data: a level, the part of the program that reports, a
message and named values.
-/

set_option autoImplicit false

namespace HostRoster

/-- How urgent an entry is. -/
inductive LogLevel where
  /-- Only of interest for tracing single steps. -/
  | trace
  /-- Of interest when something is examined. -/
  | debug
  /-- The normal course. -/
  | info
  /-- Something to look at. -/
  | warn
  /-- A failure. -/
  | error
  deriving DecidableEq, Repr

/-- The name of a level in capitals. -/
def LogLevel.name : LogLevel → String
  | .trace => "TRACE"
  | .debug => "DEBUG"
  | .info => "INFO"
  | .warn => "WARN"
  | .error => "ERROR"

/-- The parts of the program that report. -/
inductive LogOrigin where
  /-- The start and the end of the program. -/
  | program
  /-- The settings. -/
  | settings
  /-- The host list and the run that keeps it. -/
  | sync
  /-- The source that is fed inside the program. -/
  | channel
  /-- The source that watches a cluster. -/
  | cluster
  /-- The signals of the operating system. -/
  | signals
  deriving DecidableEq, Repr

/-- The path under which the reports of a part are filtered. -/
def LogOrigin.path : LogOrigin → String
  | .program => "nginx_fleet_sync"
  | .settings => "nginx_fleet_sync::config::schema"
  | .sync => "nginx_fleet_sync::sync::config_sync"
  | .channel => "nginx_fleet_sync::sync::source"
  | .cluster => "nginx_fleet_sync::sync::kubernetes"
  | .signals => "nginx_fleet_sync::lifecycle::signals"

/-- A named value of an entry. -/
inductive LogValue where
  /-- A text. -/
  | text (value : String)
  /-- A text that stands in quotes in the plain layout. -/
  | quoted (value : String)
  /-- A number. -/
  | number (value : Nat)
  /-- A truth value. -/
  | flag (value : Bool)
  deriving DecidableEq, Repr

/-- An entry of the log. -/
structure LogEntry where
  /-- How urgent the entry is. -/
  level : LogLevel
  /-- Who reports. -/
  origin : LogOrigin
  /-- What happened. -/
  message : String
  /-- The values that belong to it. -/
  values : List (String × LogValue) := []
  deriving DecidableEq, Repr

end HostRoster
