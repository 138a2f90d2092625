/-!
# Arguments

The program takes two options with a value and a request for help. An option is given by its long
name, with the value behind an equals sign or as the next argument, or by its letter, with the value
directly behind it or as the next argument.

A value that is the next argument is checked only when the argument behind it has been looked at, so
that an argument which no option accounts for is reported first.
-/

set_option autoImplicit false

namespace HostRoster

/-! ## Options -/

/-- An option with a value. -/
inductive ProgramOption where
  /-- The path of the settings file. -/
  | config
  /-- The level of the log. -/
  | logLevel
  deriving DecidableEq, Repr

/-- How messages name an option. -/
def ProgramOption.display : ProgramOption → String
  | .config => "--config <CONFIG>"
  | .logLevel => "--log-level <LOG_LEVEL>"

/-- The options that are given. -/
structure Options where
  /-- The path of the settings file. -/
  config : Option String := none
  /-- The level of the log. -/
  logLevel : Option String := none
  deriving DecidableEq, Repr

/-- What the arguments ask for. -/
inductive Command where
  /-- The program is to run. -/
  | run (options : Options)
  /-- The help is to be shown. -/
  | help
  deriving DecidableEq, Repr

/-- Why arguments are refused. -/
inductive UsageError where
  /-- No option accounts for an argument. -/
  | unexpectedArgument (argument : String)
  /-- An option that takes none has a value. -/
  | unexpectedValue (value option : String)
  /-- An option has no value, or an empty one where it must not be empty. -/
  | missingValue (option : ProgramOption)
  /-- An option is given twice. -/
  | repeated (option : ProgramOption)
  deriving DecidableEq, Repr

/-- The message of an error. -/
def UsageError.message : UsageError → String
  | .unexpectedArgument argument => "unexpected argument '" ++ argument ++ "' found"
  | .unexpectedValue value option =>
    "unexpected value '" ++ value ++ "' for '" ++ option ++ "' found; no more were expected"
  | .missingValue option =>
    "a value is required for '" ++ option.display ++ "' but none was supplied"
  | .repeated option =>
    "the argument '" ++ option.display ++ "' cannot be used multiple times"

namespace Options

/-- The value of an option. -/
def get? (options : Options) : ProgramOption → Option String
  | .config => options.config
  | .logLevel => options.logLevel

/-- Sets an option that has not been set; a path must not be empty. -/
def set (options : Options) (option : ProgramOption) (value : String) :
    Except UsageError Options :=
  if (options.get? option).isSome then .error (.repeated option)
  else match option with
    | .config =>
      if value = "" then .error (.missingValue option)
      else .ok { options with config := some value }
    | .logLevel => .ok { options with logLevel := some value }

end Options

/-! ## Reading arguments -/

/-- The option that the last argument has begun, with its value if that has come. -/
structure PendingOption where
  /-- The option. -/
  option : ProgramOption
  /-- Its value. -/
  value : Option String := none
  deriving DecidableEq, Repr

/-- What has been read of the arguments. -/
structure ArgumentState where
  /-- The options that are set. -/
  options : Options := {}
  /-- The option that is not set yet. -/
  pending : Option PendingOption := none
  deriving DecidableEq, Repr

namespace ArgumentState

/-- Sets the option that is not set yet. -/
def resolve (state : ArgumentState) : Except UsageError Options :=
  match state.pending with
  | none => .ok state.options
  | some { option, value := none } => .error (.missingValue option)
  | some { option, value := some value } => state.options.set option value

/-- Begins an option, with its value if it stands in the same argument. -/
def begin (state : ArgumentState) (option : ProgramOption) (attached : Option String) :
    Except UsageError ArgumentState := do
  let options ← state.resolve
  match attached with
  | none => return { options, pending := some { option } }
  | some value => return { options := ← options.set option value }

/-- What comes of an argument: the arguments behind it are to be read, or the help shown. -/
inductive Progress where
  /-- Reading goes on. -/
  | more (state : ArgumentState)
  /-- The help is to be shown. -/
  | help
  deriving Repr

/-- Shows the help. -/
def toHelp (state : ArgumentState) : Except UsageError Progress :=
  state.resolve.map fun _ => .help

/-- Takes up a long argument, from what stands behind its two dashes. -/
def takeLong (state : ArgumentState) (text : List Char) : Except UsageError Progress :=
  let name := String.ofList (text.takeWhile (· != '='))
  let attached := match text.dropWhile (· != '=') with
    | [] => none
    | _ :: value => some (String.ofList value)
  match name with
  | "config" => (state.begin .config attached).map .more
  | "log-level" => (state.begin .logLevel attached).map .more
  | "help" =>
    match attached with
    | none => state.toHelp
    | some value => .error (.unexpectedValue value "--help")
  | _ => .error (.unexpectedArgument ("--" ++ name))

/-- Takes up a short argument, from its letter and what stands behind it. -/
def takeShort (state : ArgumentState) (letter : Char) (behind : List Char) :
    Except UsageError Progress :=
  match letter with
  | 'c' =>
    let attached := match behind with
      | [] => none
      | '=' :: value => some (String.ofList value)
      | value => some (String.ofList value)
    (state.begin .config attached).map .more
  | 'h' => state.toHelp
  | _ => .error (.unexpectedArgument (String.ofList ['-', letter]))

/-- Takes up an argument that is no option: it can only be the value that is awaited. -/
def takeValue (state : ArgumentState) (argument : String) : Except UsageError Progress :=
  match state.pending with
  | some { option, value := none } =>
    .ok (.more { state with pending := some { option, value := some argument } })
  | _ => .error (.unexpectedArgument argument)

/-- Takes up an argument. -/
def take (state : ArgumentState) (argument : String) : Except UsageError Progress :=
  match argument.toList with
  | '-' :: '-' :: text => state.takeLong text
  | '-' :: letter :: behind => state.takeShort letter behind
  | _ => state.takeValue argument

/-- Takes up arguments in their order; behind two dashes alone there is no option. -/
def takeAll (state : ArgumentState) : List String → Except UsageError Command
  | [] => state.resolve.map .run
  | argument :: rest =>
    if argument = "--" then
      match rest with
      | [] => state.resolve.map .run
      | behind :: _ => .error (.unexpectedArgument behind)
    else
      match state.take argument with
      | .error cause => .error cause
      | .ok .help => .ok .help
      | .ok (.more next) => next.takeAll rest

end ArgumentState

/-- What arguments ask for. -/
def Command.ofArguments (arguments : List String) : Except UsageError Command :=
  ArgumentState.takeAll {} arguments

end HostRoster
