import LineProtocol.Fault
import LineProtocol.Text.Quoted

/-!
# Failures

What can stop a reader, a writer, a client or a server: a failing stream, a stream that ends, a
line that breaks the format, a fault reported by the other side, a reply or a configuration that
makes no sense. `Failure.message` is the wording of each. A command handler fails with a
`Rejection`, which is either a fault to report, after which the connection goes on, or a failure
that ends it.
-/

set_option autoImplicit false

namespace LineProtocol

/-- The kinds of stream failure. -/
inductive IoKind where
  | notFound
  | permissionDenied
  | connectionRefused
  | connectionReset
  | hostUnreachable
  | networkUnreachable
  | connectionAborted
  | notConnected
  | addrInUse
  | addrNotAvailable
  | networkDown
  | brokenPipe
  | alreadyExists
  | wouldBlock
  | notADirectory
  | isADirectory
  | directoryNotEmpty
  | readOnlyFilesystem
  | staleNetworkFileHandle
  | invalidInput
  | invalidData
  | timedOut
  | writeZero
  | storageFull
  | notSeekable
  | quotaExceeded
  | fileTooLarge
  | resourceBusy
  | executableFileBusy
  | deadlock
  | crossesDevices
  | tooManyLinks
  | invalidFilename
  | argumentListTooLong
  | interrupted
  | unsupported
  | unexpectedEof
  | outOfMemory
  | other
  | uncategorized
  deriving DecidableEq, Repr

/-- A failure of a stream, with the text that goes with it. -/
structure IoError where
  kind : IoKind
  text : String
  deriving DecidableEq, Repr

/-- Why an operation of the protocol failed. -/
inductive Failure where
  /-- The stream failed. -/
  | io (cause : IoError)
  /-- The stream ended where a line was due. -/
  | closed
  /-- A line is not properly escaped. -/
  | decode (text : String)
  /-- A line is longer than it may be. -/
  | lineTooLong (length limit : Nat)
  /-- A verb that no line can start with. -/
  | invalidVerb (verb : String)
  /-- The other side reported a fault. -/
  | peer (fault : Fault)
  /-- The other side's reply does not fit. -/
  | invalidResponse (text : String)
  /-- The other side asked for a keyword that nothing was prepared for. -/
  | missingAnswer (keyword : String)
  /-- The configuration cannot be used. -/
  | configuration (text : String)
  deriving DecidableEq, Repr

namespace Failure

/-- The wording of a failure. -/
def message : Failure → String
  | .io cause => "IO error: " ++ cause.text
  | .closed => "Connection closed by peer"
  | .decode text => "Decode error: " ++ text
  | .lineTooLong length limit =>
    "Line too long: " ++ toString length ++ " bytes (max " ++ toString limit ++ ")"
  | .invalidVerb verb => "Invalid verb: " ++ Quoted.quote verb
  | .peer fault => "Peer error: " ++ fault.display
  | .invalidResponse text => "Invalid response: " ++ text
  | .missingAnswer keyword => "Missing data with keyword " ++ keyword
  | .configuration text => "Configuration error: " ++ text

/-- Whether the other side went away, rather than something being wrong with the exchange. -/
def isDisconnect : Failure → Bool
  | .closed => true
  | .io cause =>
    cause.kind == .unexpectedEof || cause.kind == .connectionReset ||
      cause.kind == .connectionAborted || cause.kind == .brokenPipe
  | _ => false

end Failure

/-- How a command handler fails. -/
inductive Rejection where
  /-- The fault is reported and the connection goes on. -/
  | report (fault : Fault)
  /-- The connection ends and nothing more is written. -/
  | fatal (cause : Failure)
  deriving DecidableEq, Repr

namespace Rejection

/-- A failure met inside a handler ends the connection, but a fault that another peer reported
is passed on as that fault. -/
def ofFailure : Failure → Rejection
  | .peer fault => .report fault
  | cause => .fatal cause

/-- The wording of what is inside. -/
def message : Rejection → String
  | .report fault => fault.display
  | .fatal cause => cause.message

end Rejection

end LineProtocol
