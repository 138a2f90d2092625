import HostRoster.Document

/-!
# Documents as JSON text

`Json.print` writes a document on one line without blanks.
-/

set_option autoImplicit false

namespace HostRoster.Json

/-- The four hexadecimal digits of a control character. -/
def fourDigits (code : Nat) : List Char :=
  let digits := Nat.toDigits 16 code
  List.replicate (4 - digits.length) '0' ++ digits

/-- How one character is written inside a JSON string. -/
def escapeChar (character : Char) : List Char :=
  match character with
  | '"' => ['\\', '"']
  | '\\' => ['\\', '\\']
  | '\n' => ['\\', 'n']
  | '\r' => ['\\', 'r']
  | '\t' => ['\\', 't']
  | '\x08' => ['\\', 'b']
  | '\x0c' => ['\\', 'f']
  | _ => if character.toNat < 0x20 then '\\' :: 'u' :: fourDigits character.toNat else [character]

/-- A text as a JSON string. -/
def printString (text : String) : String :=
  String.ofList ('"' :: (text.toList.flatMap escapeChar ++ ['"']))

mutual

/-- A document on one line. -/
def print : Document → String
  | .null => "null"
  | .boolean true => "true"
  | .boolean false => "false"
  | .integer value => toString value
  | .real value => value.text .scientific
  | .string value => printString value
  | .array elements => "[" ++ printElements elements ++ "]"
  | .object members => "\x7b" ++ printMembers members ++ "\x7d"

/-- The elements of an array with commas between them. -/
def printElements : List Document → String
  | [] => ""
  | [element] => print element
  | element :: rest => print element ++ "," ++ printElements rest

/-- The members of an object with commas between them. -/
def printMembers : List (String × Document) → String
  | [] => ""
  | [(key, value)] => printString key ++ ":" ++ print value
  | (key, value) :: rest => printString key ++ ":" ++ print value ++ "," ++ printMembers rest

end

end HostRoster.Json
