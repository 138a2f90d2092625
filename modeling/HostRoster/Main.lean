import HostRoster.Program

/-!
# Command line

The program with real files, arguments and outputs. All files that it may want to read are read
first; what it does with them is decided by `Program.perform`. There is no connection to a cluster
here, so a run with correct settings ends where the cluster would be looked for.
-/

set_option autoImplicit false

open HostRoster

namespace HostRoster.Program

/-- Files that have been read, by their paths. -/
abbrev ReadFiles := List (String × Except FileFault Bytes)

/-- The reader of files that have been read. -/
def readerOf (files : ReadFiles) : FileReader := fun path =>
  (files.lookup path).getD (.error .notFound)

/-- The fault that an error of the system stands for. -/
def faultOf : IO.Error → FileFault
  | .noFileOrDirectory _ _ _ => .notFound
  | .permissionDenied _ _ _ => .notPermitted
  | .inappropriateType _ _ _ => .isDirectory
  | other => .other (toString other)

/-- Reads a file. -/
def readFile (path : String) : IO (Except FileFault Bytes) := do
  try
    return .ok (← IO.FS.readBinFile path).toList
  catch cause =>
    return .error (faultOf cause)

/-- Reads files. -/
def readFiles (paths : List String) : IO ReadFiles :=
  paths.mapM fun path => return (path, ← readFile path)

/-- Reads all files that a run with options may want. -/
def gather (options : Options) : IO ReadFiles := do
  let files ← readFiles options.config.toList
  match settingsOf (readerOf files) options with
  | .error _ => return files
  | .ok settings => return files ++ (← readFiles settings.tls.paths)

end HostRoster.Program

/-- Runs the program. -/
def main (arguments : List String) : IO UInt32 := do
  let files ← match Command.ofArguments arguments with
    | .ok (.run options) => Program.gather options
    | _ => pure []
  let outcome := Program.perform
    { arguments, logFilter := ← IO.getEnv "RUST_LOG", reader := Program.readerOf files }
  for line in outcome.output do
    IO.println line
  for line in outcome.errors do
    IO.eprintln line
  return UInt32.ofNat outcome.code
