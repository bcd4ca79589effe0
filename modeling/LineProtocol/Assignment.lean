import LineProtocol.Octets

/-!
# Assignments

An option is set by a key and a value: `key`, `key value`, `key=value` or `key = value`. The key
is made of ASCII letters, digits, underscores and hyphens, and the value has no spaces in front.
-/

set_option autoImplicit false

namespace LineProtocol.Assignment

/-- The characters of a key. -/
def isKeyCharacter (character : Char) : Bool :=
  character.isAlphanum || character == '_' || character == '-'

/-- The characters from the first that is no space. -/
def skipSpaces (characters : List Char) : List Char :=
  characters.dropWhile (· == ' ')

/-- What follows one equals sign, if there is one in front. -/
def skipEquals : List Char → List Char
  | '=' :: rest => rest
  | characters => characters

/-- Splits the characters of an assignment into the longest key and the value. There is no split
if the key is empty or if neither a space nor an equals sign follows it. -/
def splitCharacters (characters : List Char) : Option (List Char × List Char) :=
  let key := characters.takeWhile isKeyCharacter
  if key.isEmpty then none
  else
    match characters.dropWhile isKeyCharacter with
    | [] => some (key, [])
    | mark :: rest =>
      if mark = ' ' ∨ mark = '=' then
        some (key, skipSpaces (skipEquals (skipSpaces (mark :: rest))))
      else none

/-- Splits an assignment into its key and its value. -/
def split (text : String) : Option (String × String) :=
  (splitCharacters text.toList).map fun (key, value) ↦ (String.ofList key, String.ofList value)

/-- The assignment of a value to a key; an empty value is left out. -/
def render (key value : String) : String :=
  if value = "" then key else key ++ " = " ++ value

end LineProtocol.Assignment
