import LineProtocol.Failure
import LineProtocol.Text.Blank

/-!
# Faults on the wire

The parameters of an `ERR` line are the number of a fault, its message and its name between angle
brackets. The name always comes last, even an empty one, so a message that itself ends in
brackets is read back whole. Only a name with an opening bracket in it is not.
-/

set_option autoImplicit false

namespace LineProtocol.Fault

/-- The parameters of the `ERR` line of a fault. -/
def encode (fault : Fault) : String :=
  toString fault.wireCode ++ (if fault.message = "" then "" else " " ++ fault.message) ++
    " <" ++ fault.name ++ ">"

/-- The text before the last opening bracket and the text after it. -/
def splitLast (mark : Char) : List Char → Option (List Char × List Char)
  | [] => none
  | character :: rest =>
    match splitLast mark rest with
    | some (before, after) => some (character :: before, after)
    | none => if character = mark then some ([], rest) else none

/-- The list without its last element, if that is the given one. -/
def stripLast (mark : Char) (characters : List Char) : Option (List Char) :=
  if characters.getLast? = some mark then some characters.dropLast else none

/-- Splits a message from the name in brackets at its end. Without such an end all is message and
the name is empty. -/
def splitName (characters : List Char) : List Char × List Char :=
  match stripLast '>' characters with
  | none => (characters, [])
  | some body =>
    match splitLast '<' body with
    | none => (characters, [])
    | some (message, name) => ((stripLast ' ' message).getD message, name)

/-- Splits the text at its first space, which belongs to neither part. -/
def splitSpace (characters : List Char) : List Char × List Char :=
  match characters.span (· ≠ ' ') with
  | (number, []) => (number, [])
  | (number, _ :: rest) => (number, rest)

/-- Reads the parameters of an `ERR` line. -/
def decode (parameters : String) : Except Failure Fault :=
  let (number, rest) := splitSpace (Blank.trimStart parameters.toList)
  match Decimal.below? 0x100000000 number with
  | none =>
    .error (.invalidResponse
      ("malformed error code: " ++ Quoted.quote (String.ofList number)))
  | some value =>
    let (message, name) := splitName rest
    .ok {
      origin := .ofNumber (value / 0x1000000 % 0x80)
      code := .ofNumber (value % 0x10000)
      name := String.ofList name
      message := String.ofList message }

end LineProtocol.Fault
