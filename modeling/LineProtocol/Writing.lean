import LineProtocol.Fault.Codec
import LineProtocol.Line
import LineProtocol.Stream.Outlet

/-!
# Writing lines

Each kind of line is written whole and then flushed. A payload is written line by line and flushed
once, after its last line; an empty one writes nothing. A line that would be too long is not
written at all, but the message of a fault gives way: it loses characters from its end until the
line fits.
-/

set_option autoImplicit false

namespace LineProtocol

namespace Fault

/-- The `ERR` line of a fault with another message. -/
def lineWith (fault : Fault) (message : List Char) : Except Failure Bytes :=
  Line.encode "ERR" (Utf8.encode { fault with message := String.ofList message }.encode)

/-- The first of the lines of ever shorter beginnings of a message that is not too long. The
message is given backwards. -/
def longestLine (attempt : List Char → Except Failure Bytes) :
    List Char → Except Failure Bytes
  | [] => attempt []
  | final :: before =>
    match attempt (final :: before).reverse with
    | .error (.lineTooLong _ _) => longestLine attempt before
    | outcome => outcome

/-- The `ERR` line of a fault, its message shortened as far as it must be. -/
def line (fault : Fault) : Except Failure Bytes :=
  longestLine fault.lineWith fault.message.toList.reverse

end Fault

namespace Outlet

/-- Writes octet sequences one after the other and flushes once. -/
def sendEach (outlet : Outlet) : List Bytes → Except Failure Unit × Outlet
  | [] =>
    match outlet.flush with
    | (.ok (), outlet) => (.ok (), outlet)
    | (.error cause, outlet) => (.error (.io cause), outlet)
  | octets :: rest =>
    match outlet.writeAll octets with
    | (.ok (), outlet) => outlet.sendEach rest
    | (.error cause, outlet) => (.error (.io cause), outlet)

/-- Writes a line that was encoded, or passes on why it was not. -/
def sendEncoded (outlet : Outlet) : Except Failure Bytes → Except Failure Unit × Outlet
  | .ok line => outlet.sendEach [line]
  | .error cause => (.error cause, outlet)

/-- Writes the line of a verb and parameters. -/
def sendLine (outlet : Outlet) (verb : String) (parameters : Bytes) :
    Except Failure Unit × Outlet :=
  outlet.sendEncoded (Line.encode verb parameters)

/-- Writes a payload as `D` lines. -/
def sendData (outlet : Outlet) (payload : Bytes) : Except Failure Unit × Outlet :=
  if payload.isEmpty then (.ok (), outlet) else outlet.sendEach (Line.dataLines payload)

/-- Writes the `ERR` line of a fault. -/
def sendFault (outlet : Outlet) (fault : Fault) : Except Failure Unit × Outlet :=
  outlet.sendEncoded fault.line

/-- Writes a comment line. -/
def sendComment (outlet : Outlet) (text : String) : Except Failure Unit × Outlet :=
  outlet.sendLine "#" (Utf8.encode text)

/-- Writes a status line: a keyword and, if it is not empty, a text. -/
def sendStatus (outlet : Outlet) (keyword text : String) : Except Failure Unit × Outlet :=
  outlet.sendLine "S" (Utf8.encode (if text = "" then keyword else keyword ++ " " ++ text))

/-- Writes comment lines until one fails. -/
def sendComments (outlet : Outlet) : List String → Except Failure Unit × Outlet
  | [] => (.ok (), outlet)
  | text :: rest =>
    match outlet.sendComment text with
    | (.ok (), outlet) => outlet.sendComments rest
    | (.error cause, outlet) => (.error cause, outlet)

end Outlet

end LineProtocol
