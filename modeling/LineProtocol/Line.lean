import LineProtocol.Escape
import LineProtocol.Failure
import LineProtocol.Text.Utf8

/-!
# Lines

A line is a verb in upper case, then, if there are parameters, a space and their escaped form, and
a line feed. It has at most a thousand octets, the line feed included. Blank lines, comments
(`#`) and status lines (`S` and a space) only inform; a reader skips them.

A payload of any length is sent as `D` lines, each of them as full as it can be without cutting
an escape.
-/

set_option autoImplicit false

namespace LineProtocol

/-- A line as its reader sees it. -/
structure Line where
  /-- The verb, in upper case. -/
  verb : String
  /-- The parameters, unescaped; empty if there are none. -/
  parameters : Bytes
  deriving DecidableEq, Repr

namespace Line

/-- The most octets of a line, the line feed included. -/
def maxLength : Nat := 1000

/-- The most escaped octets of payload in a `D` line: the verb, the space and the line feed take
three. -/
def maxPayload : Nat := maxLength - 3

/-- The parameters as text, if they are well-formed UTF-8. -/
def text? (line : Line) : Option String :=
  Utf8.decode? line.parameters

/-- The parameters as text, ill-formed parts replaced. -/
def textLossy (line : Line) : String :=
  Utf8.decodeLossy line.parameters

/-- Whether a line can start with the octets: there are some, and none is blank or a control. -/
def isVerb (octets : Bytes) : Bool :=
  !octets.isEmpty && octets.all fun octet ↦ !(Octet.isBlank octet || Octet.isControl octet)

/-- The length of the line of a verb and parameters. -/
def lengthOf (verb parameters : Bytes) : Nat :=
  if parameters.isEmpty then verb.length + 1
  else verb.length + 1 + Escape.encodedLength parameters + 1

/-- The octets of the line of a verb and parameters. -/
def render (verb parameters : Bytes) : Bytes :=
  verb.map Octet.upper ++
    (if parameters.isEmpty then [] else Octet.space :: Escape.encode parameters) ++ [Octet.lf]

/-- The octets of a line, unless the verb is no verb or the line would be too long. -/
def encode (verb : String) (parameters : Bytes) : Except Failure Bytes :=
  let octets := Utf8.encode verb
  if !isVerb octets then .error (.invalidVerb verb)
  else if maxLength < lengthOf octets parameters then
    .error (.lineTooLong (lengthOf octets parameters) maxLength)
  else .ok (render octets parameters)

/-- Undoes the escapes of parameters. -/
def unescape (escaped : Bytes) : Except Failure Bytes :=
  match Escape.decode escaped with
  | .ok parameters => .ok parameters
  | .error offset => .error (.decode ("invalid escape sequence at offset " ++ toString offset))

/-- Reads a line from its octets without the line end: the verb up to the first space, and the
rest unescaped. -/
def parse (raw : Bytes) : Except Failure Line :=
  let verb := raw.takeWhile (· ≠ Octet.space)
  let named := fun parameters ↦ Line.mk (upperCase (Utf8.decodeLossy verb)) parameters
  match raw.dropWhile (· ≠ Octet.space) with
  | [] => .ok (named [])
  | _ :: escaped =>
    match unescape escaped with
    | .ok parameters => .ok (named parameters)
    | .error cause => .error cause

/-- Whether a reader skips the line. -/
def isInformational (raw : Bytes) : Bool :=
  raw.all Octet.isBlank || raw.head? == some 0x23 || raw.take 2 == [0x53, Octet.space]

/-- Puts octets in front of the first piece. -/
def prepend (octets : Bytes) : List Bytes → List Bytes
  | [] => [octets]
  | piece :: pieces => (octets ++ piece) :: pieces

/-- Cuts a payload into escaped pieces, of which the first has at most `room` octets and every
other at most `maxPayload`. A piece ends only where the next octet does not fit. -/
def pieces (room : Nat) : Bytes → List Bytes
  | [] => [[]]
  | octet :: rest =>
    if Escape.width octet ≤ room then
      prepend (Escape.encodeOctet octet) (pieces (room - Escape.width octet) rest)
    else
      [] :: prepend (Escape.encodeOctet octet) (pieces (maxPayload - Escape.width octet) rest)

/-- The `D` line of an escaped piece. -/
def dataLine (piece : Bytes) : Bytes :=
  0x44 :: Octet.space :: piece ++ [Octet.lf]

/-- The `D` lines of a payload, none for an empty one. -/
def dataLines (payload : Bytes) : List Bytes :=
  if payload.isEmpty then [] else (pieces maxPayload payload).map dataLine

end Line

end LineProtocol
