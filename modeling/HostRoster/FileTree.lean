import HostRoster.Encoding.Bytes

/-!
# Files

A reader of files maps a path to the bytes of the file or to a fault. A `FileTree` is a directory
held as data; its `read` follows a path from the root of the tree as a file system does: empty
components and dots stand still, two dots go up, a file has nothing below it.
-/

set_option autoImplicit false

namespace HostRoster

/-- Why a file cannot be read. -/
inductive FileFault where
  /-- Nothing has this path. -/
  | notFound
  /-- The path is that of a directory. -/
  | isDirectory
  /-- The path goes through a file as if it were a directory. -/
  | notDirectory
  /-- A component of the path is longer than names may be. -/
  | nameTooLong
  /-- The path holds the character zero. -/
  | zeroByte
  /-- The file may not be read. -/
  | notPermitted
  /-- The bytes of the file are not a text. -/
  | notText
  /-- Any other fault, by its wording. -/
  | other (wording : String)
  deriving DecidableEq, Repr

/-- The wording of a fault. -/
def FileFault.message : FileFault → String
  | .notFound => "No such file or directory (os error 2)"
  | .isDirectory => "Is a directory (os error 21)"
  | .notDirectory => "Not a directory (os error 20)"
  | .nameTooLong => "File name too long (os error 36)"
  | .zeroByte => "file name contained an unexpected NUL byte"
  | .notPermitted => "Permission denied (os error 13)"
  | .notText => "stream did not contain valid UTF-8"
  | .other wording => wording

/-- What reading files by their paths gives. -/
abbrev FileReader := String → Except FileFault Bytes

/-- What stands at a path of a tree. -/
inductive FileNode where
  /-- A file with its bytes. -/
  | file (content : Bytes)
  /-- A directory. -/
  | directory
  deriving DecidableEq, Repr

/-- Files and directories by the components of their paths. -/
abbrev FileTree := List (List String × FileNode)

namespace FileTree

/-- The most bytes that a component of a path may have. -/
def longestName : Nat := 255

/-- What stands at the components of a path; the root is a directory. -/
def node? (tree : FileTree) : List String → Option FileNode
  | [] => some .directory
  | components => tree.lookup components

/-- Follows components from a position in the tree. -/
def walk (tree : FileTree) : List String → List String → Except FileFault Bytes
  | position, [] =>
    match tree.node? position with
    | none => .error .notFound
    | some .directory => .error .isDirectory
    | some (.file content) => .ok content
  | position, component :: rest =>
    match tree.node? position with
    | none => .error .notFound
    | some (.file _) => .error .notDirectory
    | some .directory =>
      if component = "" ∨ component = "." then tree.walk position rest
      else if component = ".." then tree.walk position.dropLast rest
      else if longestName < component.utf8ByteSize then .error .nameTooLong
      else tree.walk (position ++ [component]) rest

/-- The components of a path. -/
def components (path : String) : List String := path.splitOn "/"

/-- Reads the file at a path that starts at the root of the tree. -/
def read (tree : FileTree) (path : String) : Except FileFault Bytes :=
  if path.toList.contains '\x00' then .error .zeroByte
  else tree.walk [] (components path)

end FileTree

end HostRoster
