import LineProtocol.Failure
import LineProtocol.Server.Host
import LineProtocol.Text.Decimal

/-!
# Addresses

A server listens at a host and service number or at a path in the file system. Binding can fail
before anything is served: the text may be no address, the host may not be this one, and the path
may be taken by something other than a socket or lead nowhere. A socket that a previous run left
behind is in nobody's way.
-/

set_option autoImplicit false

namespace LineProtocol.Address

/-- What a path names before a socket is bound to it. -/
inductive PathState where
  | free
  /-- A socket that nobody listens on any more. -/
  | staleSocket
  /-- Something that is no socket. -/
  | occupied
  /-- The directory of the path is missing. -/
  | unreachable
  deriving DecidableEq, Repr

/-- Where a server listens. -/
inductive Endpoint where
  | tcp (address : String)
  | path (path : String) (state : PathState)
  deriving DecidableEq, Repr

/-- The text has no service number. -/
def noService : IoError := ⟨.invalidInput, "invalid socket address"⟩

/-- The service number does not fit into sixteen bits, or is no number. -/
def badService : IoError := ⟨.invalidInput, "invalid port value"⟩

/-- A file or a directory on the way is missing. -/
def missingFile : IoError := ⟨.notFound, "No such file or directory (os error 2)"⟩

/-- The other side of a socket is gone. -/
def brokenPipe : IoError := ⟨.brokenPipe, "Broken pipe (os error 32)"⟩

/-- Nothing came on a socket within its time limit. -/
def readTimeout : IoError := ⟨.wouldBlock, "Resource temporarily unavailable (os error 11)"⟩

/-- The text before the last colon and the text after it. -/
def splitService (characters : List Char) : Option (List Char × List Char) :=
  match characters.reverse.span (· ≠ ':') with
  | (_, []) => none
  | (service, _ :: host) => some (host.reverse, service.reverse)

/-- The host of an address, which is in square brackets or looked up. A bracketed host takes a
service number without a sign. -/
def resolve (address : String) : Except IoError Host :=
  match splitService address.toList with
  | none => .error noService
  | some (host, service) =>
    match Decimal.below? 0x10000 service, Host.bracketed? host with
    | none, _ => .error badService
    | some _, some bracketed =>
      if service.head? = some '+' then .error Host.unknown else .ok bracketed
    | some _, none => Host.lookup host

/-- Whether an address can be bound. -/
def bindTcp (address : String) : Except IoError Unit := do
  (← resolve address).listen

/-- Whether an endpoint can be bound. -/
def bind : Endpoint → Except Failure Unit
  | .tcp address =>
    match bindTcp address with
    | .ok () => .ok ()
    | .error cause => .error (.io cause)
  | .path _ .free => .ok ()
  | .path _ .staleSocket => .ok ()
  | .path path .occupied => .error (.configuration (path ++ " exists and is not a socket"))
  | .path _ .unreachable => .error (.io missingFile)

/-- Why a client cannot connect to a server that listens at an endpoint. -/
def obstacle? : Endpoint → Option IoError
  | .tcp address =>
    match resolve address with
    | .ok host => some host.unreached
    | .error cause => some cause
  | .path _ _ => none

/-- What is at an endpoint's path after binding failed. -/
def remains : Endpoint → Bool
  | .path _ .occupied => true
  | _ => false

end LineProtocol.Address
