import LineProtocol.Text.Decimal

/-!
# Faults

A fault is what one side tells the other when a command fails: where it arose, a code, the name
of the place and a message. Origins and codes have numbers from a public registry; an unregistered
number is kept as it is, and only its low seven or sixteen bits are shown to the other side.

`Fault.agrees` compares faults by those numbers, so a registered number agrees with its name.
-/

set_option autoImplicit false

namespace LineProtocol

namespace Fault

/-- Where a fault arose. -/
inductive Origin where
  | unknown
  | gpgAgent
  | pinentry
  | scd
  | dirmngr
  | assuan
  | other (number : Nat)
  deriving DecidableEq, Repr

/-- The number of an origin: its registered number, or the low seven bits of any other. -/
def Origin.number : Origin → Nat
  | .unknown => 0
  | .gpgAgent => 4
  | .pinentry => 5
  | .scd => 6
  | .dirmngr => 10
  | .assuan => 15
  | .other number => number % 0x80

/-- The origin registered under a number. -/
def Origin.ofNumber : Nat → Origin
  | 0 => .unknown
  | 4 => .gpgAgent
  | 5 => .pinentry
  | 6 => .scd
  | 10 => .dirmngr
  | 15 => .assuan
  | number => .other number

/-- What went wrong. -/
inductive Code where
  | general
  | notFound
  | invalidValue
  | notImplemented
  | canceled
  | unknownOption
  | assuanInvalidValue
  | assuanLineTooLong
  | assuanUnexpectedCommand
  | unknownCommand
  | assuanSyntax
  | assuanCanceled
  | assuanParameter
  | other (number : Nat)
  deriving DecidableEq, Repr

/-- The number of a code: its registered number, or the low sixteen bits of any other. -/
def Code.number : Code → Nat
  | .general => 1
  | .notFound => 27
  | .invalidValue => 55
  | .notImplemented => 69
  | .canceled => 99
  | .unknownOption => 174
  | .assuanInvalidValue => 261
  | .assuanLineTooLong => 263
  | .assuanUnexpectedCommand => 274
  | .unknownCommand => 275
  | .assuanSyntax => 276
  | .assuanCanceled => 277
  | .assuanParameter => 280
  | .other number => number % 0x10000

/-- The code registered under a number. -/
def Code.ofNumber : Nat → Code
  | 1 => .general
  | 27 => .notFound
  | 55 => .invalidValue
  | 69 => .notImplemented
  | 99 => .canceled
  | 174 => .unknownOption
  | 261 => .assuanInvalidValue
  | 263 => .assuanLineTooLong
  | 274 => .assuanUnexpectedCommand
  | 275 => .unknownCommand
  | 276 => .assuanSyntax
  | 277 => .assuanCanceled
  | 280 => .assuanParameter
  | number => .other number

end Fault

/-- An error as one side reports it to the other. -/
structure Fault where
  origin : Fault.Origin
  code : Fault.Code
  name : String
  message : String
  deriving DecidableEq, Repr

namespace Fault

/-- Builds a fault with canonical numbers. The name is written between angle brackets, so an
opening one in it becomes an underscore. -/
def make (origin : Origin) (code : Code) (name message : String) : Fault where
  origin := .ofNumber origin.number
  code := .ofNumber code.number
  name := String.ofList (name.toList.map fun character ↦ if character = '<' then '_' else character)
  message := message

/-- A fault of the protocol layer itself. -/
def assuan (code : Code) (message : String) : Fault :=
  make .assuan code "assuan" message

/-- No command has the verb. -/
def unknownCommand : Fault := assuan .unknownCommand "unknown IPC command"

/-- No help is registered under the topic. -/
def notFound : Fault := assuan .notFound "not found"

/-- The blueprint takes no options. -/
def notImplemented : Fault := assuan .notImplemented "not implemented"

/-- The option line cannot be split into a key and a value. -/
def invalidOption : Fault := assuan .assuanInvalidValue "invalid OPTION syntax"

/-- Same numbers, same name, same message. -/
def agrees (left right : Fault) : Bool :=
  left.origin.number == right.origin.number && left.code.number == right.code.number &&
    left.name == right.name && left.message == right.message

/-- The number on the wire: the origin above the low twenty-four bits, the code in them. -/
def wireCode (fault : Fault) : Nat :=
  fault.origin.number * 0x1000000 + fault.code.number

/-- The fault as a message cites it. -/
def display (fault : Fault) : String :=
  if fault.name = "" then fault.message ++ " (code " ++ toString fault.code.number ++ ")"
  else fault.name ++ ": " ++ fault.message

end Fault

end LineProtocol
