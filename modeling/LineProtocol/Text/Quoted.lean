import LineProtocol.Text.Unprintable

/-!
# Quoted text

Messages that cite a text put it between double quotes. The quote, the backslash, the tab, the
line ends and the null character have short escapes, other unprintable characters are written as
`\u` and their code point in braces, and an apostrophe stands for itself.
-/

set_option autoImplicit false

namespace LineProtocol.Quoted

/-- The digits of a code point in base sixteen, lower case, without leading zeros. -/
def hexadecimal (code : Nat) : List Char :=
  Nat.toDigits 16 code

/-- How a character is written between the quotes. -/
def escape (character : Char) : List Char :=
  match character with
  | '"' => ['\\', '"']
  | '\\' => ['\\', '\\']
  | '\n' => ['\\', 'n']
  | '\r' => ['\\', 'r']
  | '\t' => ['\\', 't']
  | '\x00' => ['\\', '0']
  | _ =>
    if Unprintable.isUnprintable character then
      ['\\', 'u', '\x7b'] ++ hexadecimal character.toNat ++ ['\x7d']
    else [character]

/-- The text between quotes. -/
def quote (text : String) : String :=
  String.ofList ('"' :: text.toList.flatMap escape ++ ['"'])

end LineProtocol.Quoted
