import HostRoster.Text.Hidden

/-!
# Quoted text

Messages quote text between double quotes. A quote and a backslash are written with a backslash
before them, the usual controls as `\n`, `\r`, `\t` and `\0`, and every other hidden character by
its code point in lower-case hexadecimal, as `\u{301}`.
-/

set_option autoImplicit false

namespace HostRoster.Quoted

/-- The digits of a code point in lower-case hexadecimal. -/
def hexadecimal (code : Nat) : List Char := Nat.toDigits 16 code

/-- How one character is written between the quotes. -/
def escape (character : Char) : List Char :=
  match character with
  | '"' => ['\\', '"']
  | '\\' => ['\\', '\\']
  | '\n' => ['\\', 'n']
  | '\r' => ['\\', 'r']
  | '\t' => ['\\', 't']
  | '\x00' => ['\\', '0']
  | _ =>
    if Hidden.isHidden character then
      '\\' :: 'u' :: '\x7b' :: (hexadecimal character.toNat ++ ['\x7d'])
    else [character]

/-- The quoted form of a text. -/
def quote (text : String) : String :=
  String.ofList ('"' :: (text.toList.flatMap escape ++ ['"']))

end HostRoster.Quoted
