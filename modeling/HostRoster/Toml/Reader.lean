import HostRoster.Toml.Scalar
import HostRoster.Toml.Tree

/-!
# Documents from TOML text

`Toml.read` reads a whole text: its statements line by line, and the document of the tree that they
grow. Arrays and inline tables may be nested 79 deep, and a path may have 79 keys.
-/

set_option autoImplicit false

namespace HostRoster.Toml

/-! ## Keys -/

/-- The bound below which nesting and the lengths of paths have to stay. -/
def nestingLimit : Nat := 80

/-- Whether a character may stand in a key without quotes. -/
def isBareKey (c : Char) : Bool :=
  isDigit c || ('a' ≤ c && c ≤ 'z') || ('A' ≤ c && c ≤ 'Z') || c == '-' || c == '_'

/-- Reads one key of a path. -/
def readSimpleKey (text : List Char) : Reading String :=
  match text with
  | '"' :: text => readQuoted (text.length + 1) [] text
  | '\'' :: text => readLiteral text
  | _ =>
    let key := text.takeWhile isBareKey
    if key = [] then none else some (String.ofList key, text.dropWhile isBareKey)

/-- Reads the keys of a path with points between them. -/
def readKeys (fuel : Nat) (text : List Char) : Reading (List String) :=
  match fuel with
  | 0 => none
  | fuel + 1 =>
    match readSimpleKey (skipBlanks text) with
    | none => none
    | some (key, text) =>
      match skipBlanks text with
      | '.' :: text => (readKeys fuel text).map fun (keys, text) => (key :: keys, text)
      | text => some ([key], text)

/-- Reads a path, as the keys before the last and the last. -/
def readPath (text : List Char) : Reading (List String × String) :=
  match readKeys (text.length + 1) text with
  | none => none
  | some (keys, text) =>
    if keys.length < nestingLimit then
      keys.getLast?.map fun last => ((keys.dropLast, last), text)
    else none

/-! ## Values -/

/-- The text behind blanks, comments and line ends. A comment has to be followed by a line end. -/
def skipFiller (fuel : Nat) (text : List Char) : Option (List Char) :=
  match fuel with
  | 0 => some text
  | fuel + 1 =>
    match skipBlanks text with
    | '#' :: rest =>
      match readLineEnd (skipComment ('#' :: rest)) with
      | some text => skipFiller fuel text
      | none => none
    | text =>
      match readLineEnd text with
      | some text => skipFiller fuel text
      | none => some text

/-- Reads a word. -/
def readWord (word : List Char) (value : Document) (text : List Char) : Reading Document :=
  if word.isPrefixOf text then some (value, text.drop word.length) else none

mutual

/-- Reads a value inside so many arrays and inline tables. -/
def readValue (fuel : Nat) (depth : Nat) (text : List Char) : Reading Document :=
  match fuel with
  | 0 => none
  | fuel + 1 =>
    match text with
    | '"' :: _ | '\'' :: _ => (readString text).map fun (value, text) => (.string value, text)
    | '[' :: text =>
      if depth + 1 < nestingLimit then readElements fuel (depth + 1) [] text else none
    | '\x7b' :: text =>
      if depth + 1 < nestingLimit then
        match skipBlanks text with
        | '\x7d' :: text => some (.object [], text)
        | _ => readPairs fuel (depth + 1) [] text
      else none
    | 't' :: _ => readWord ['t', 'r', 'u', 'e'] (.boolean true) text
    | 'f' :: _ => readWord ['f', 'a', 'l', 's', 'e'] (.boolean false) text
    | _ => readNumberOrMoment text

/-- Reads the elements of an array from here on; `held` has those read, the last one first. -/
def readElements (fuel : Nat) (depth : Nat) (held : List Document) (text : List Char) :
    Reading Document :=
  match fuel with
  | 0 => none
  | fuel + 1 =>
    match skipFiller (text.length + 1) text with
    | none => none
    | some (']' :: text) => some (.array held.reverse, text)
    | some text =>
      match readValue fuel depth text with
      | none => none
      | some (element, text) =>
        match skipFiller (text.length + 1) text with
        | some (',' :: text) => readElements fuel depth (element :: held) text
        | some (']' :: text) => some (.array (element :: held).reverse, text)
        | _ => none

/-- Reads the assignments of an inline table from the next one on. -/
def readPairs (fuel : Nat) (depth : Nat) (entries : Entries) (text : List Char) :
    Reading Document :=
  match fuel with
  | 0 => none
  | fuel + 1 =>
    match readPath text with
    | some ((path, key), '=' :: text) =>
      match readValue fuel depth (skipBlanks text) with
      | none => none
      | some (value, text) =>
        match entries.assign path key value with
        | none => none
        | some entries =>
          match skipBlanks text with
          | ',' :: text => readPairs fuel depth entries text
          | '\x7d' :: text => some (entries.document, text)
          | _ => none
    | _ => none

end

/-! ## Lines -/

/-- The text behind the rest of a line, which holds at most a comment. -/
def skipLineRest (text : List Char) : Option (List Char) :=
  match skipComment (skipBlanks text) with
  | [] => some []
  | text => readLineEnd text

/-- Reads the path of a header between brackets. -/
def readHeader (closing : List Char) (text : List Char) : Reading (List String × String) :=
  match readPath text with
  | none => none
  | some (path, text) =>
    if closing.isPrefixOf text then some (path, text.drop closing.length) else none

/-- Reads a statement up to the end of its line. -/
def readStatement (text : List Char) : Option (Statement × List Char) := do
  match text with
  | '[' :: '[' :: text =>
    let ((path, key), text) ← readHeader [']', ']'] text
    let text ← skipLineRest text
    return (.elementHeader path key, text)
  | '[' :: text =>
    let ((path, key), text) ← readHeader [']'] text
    let text ← skipLineRest text
    return (.tableHeader path key, text)
  | text =>
    let ((path, key), text) ← readPath text
    let text ← skipMark '=' text
    let text := skipBlanks text
    let (value, text) ← readValue (2 * text.length + 2) 0 text
    let text ← skipLineRest text
    return (.assignment path key value, text)

/-- Reads the statements of a text from here on. -/
def readStatements (fuel : Nat) (text : List Char) : Option (List Statement) :=
  match fuel with
  | 0 => none
  | fuel + 1 =>
    match skipBlanks text with
    | [] => some []
    | '#' :: rest => (skipLineRest ('#' :: rest)).bind (readStatements fuel)
    | text =>
      match readLineEnd text with
      | some text => readStatements fuel text
      | none =>
        match readStatement text with
        | none => none
        | some (statement, text) => (readStatements fuel text).map (statement :: ·)

/-- The document of a TOML text. A mark of the byte order at the start does not count. -/
def read (text : String) : Option Document :=
  let characters := match text.toList with
    | '\uFEFF' :: rest => rest
    | characters => characters
  (readStatements (characters.length + 1) characters).bind fun statements =>
    (grow statements).map Entries.document

end HostRoster.Toml
