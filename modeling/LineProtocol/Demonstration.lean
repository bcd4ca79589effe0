import LineProtocol.Server.Address
import LineProtocol.Server.Conversation
import LineProtocol.Settings.Document

/-!
# The demonstration protocol

A small protocol to try clients on. It remembers a description and a terminal name, returns its
parameters, asks for data and gives it back, and tells its version.

`Launch` is the start of the server program: settings come from a file, flags take precedence over
them, and the protocol is then served on standard input and output or at an endpoint.
-/

set_option autoImplicit false

namespace LineProtocol.Demonstration

/-- The version of the server. -/
def version : String := "0.1.0"

/-- What a connection remembers. -/
structure Memory where
  description : String
  terminal : Option String
  deriving DecidableEq, Repr

/-- Nothing remembered. -/
def Memory.blank : Memory := ⟨"", none⟩

/-- A fault of the demonstration itself. -/
def fault (code : Fault.Code) (message : String) : Fault :=
  .make .unknown code "demo" message

/-- Ends a handler with the outcome of its last step. -/
def conclude (memory : Memory) : Except Failure Unit → Program (Memory × Outcome)
  | .ok () => .done (memory, .ok ())
  | .error cause => .done (memory, .error (.ofFailure cause))

/-- Sends a text as data and ends. -/
def reply (memory : Memory) (text : String) : Program (Memory × Outcome) :=
  .data (Utf8.encode text) (conclude memory)

/-- Remembers a description. -/
def setDescription : Handler Memory :=
  fun memory parameters ↦ .done ({ memory with description := parameters }, .ok ())

/-- Returns the description. -/
def getDescription : Handler Memory :=
  fun memory _ ↦ reply memory memory.description

/-- Returns the parameters. -/
def echo : Handler Memory :=
  fun memory parameters ↦ reply memory parameters

/-- Asks the client for a keyword and returns the answer. -/
def ask : Handler Memory :=
  fun memory parameters ↦
    let keyword := if parameters = "" then "VALUE" else parameters
    .status "INQUIRING" keyword fun
      | .error cause => .done (memory, .error (.ofFailure cause))
      | .ok () =>
        .inquire keyword fun
          | .error rejection => .done (memory, .error rejection)
          | .ok answer => .data answer (conclude memory)

/-- Tells something about the server or the connection. The process number is given by the
program that runs the server. -/
def getInfo (process : String) : Handler Memory :=
  fun memory item ↦
    if item = "version" then reply memory version
    else if item = "pid" then reply memory process
    else if item = "ttyname" then
      match memory.terminal with
      | some name => reply memory name
      | none => .done (memory, .error (.report (fault .notFound "no ttyname set")))
    else
      .done (memory, .error (.report (.assuan .assuanParameter "unknown GETINFO item")))

/-- Remembers the terminal name; defaults are accepted and forgotten. -/
def setOption : OptionSetter Memory :=
  fun memory key value ↦
    if key = "ttyname" then ({ memory with terminal := some value }, .ok ())
    else if "default-".toList.isPrefixOf key.toList then (memory, .ok ())
    else (memory, .error (.report (fault .unknownOption ("unknown option: " ++ key))))

/-- The demonstration protocol. -/
def protocol (process greeting : String) : Blueprint Memory :=
  Blueprint.plain .blank greeting
    |>.withCommand "SETDESC" setDescription
    |>.withCommand "GETDESC" getDescription
    |>.withCommand "ECHO" echo
    |>.withCommand "ASK" ask
    |>.withCommand "GETINFO" (getInfo process)
    |>.withHelp "SETDESC" ["SETDESC <text>", "Remember a description for this session"]
    |>.withHelp "GETDESC" ["Return the description set with SETDESC"]
    |>.withHelp "ECHO" ["ECHO <text>", "Return the parameters as data"]
    |>.withHelp "ASK" ["ASK [keyword]", "Inquire <keyword> from the client and return it"]
    |>.withHelp "GETINFO" ["GETINFO version|pid|ttyname"]
    |>.withSetter setOption

/-! ### Starting the server -/

/-- The flags of the server program, as they were given. -/
structure Flags where
  stdio : Bool
  greeting : Option String
  listenAddress : Option String
  socketPath : Option String
  maxConnections : Option String
  /-- The path of the settings file and what is there. -/
  settings : Option (String × Settings.File)

/-- What the program does with its flags. -/
inductive Launch where
  /-- A flag's value makes no sense. -/
  | misused
  /-- The settings cannot be read. -/
  | failed (cause : Failure)
  /-- One session on standard input and output. -/
  | session (settings : Settings)
  /-- A server at an endpoint. -/
  | server (settings : Settings)
  deriving DecidableEq, Repr

/-- The greeting that settings ask for. -/
def greeting (settings : Settings) : String :=
  settings.greeting.getD ("assuan demo server " ++ version)

/-- Settings with the flags in place of what they override. -/
def override (flags : Flags) (limit : Option Nat) (settings : Settings) : Settings :=
  { settings with
    listenAddress := flags.listenAddress.getD settings.listenAddress
    socketPath := flags.socketPath.or settings.socketPath
    maxConnections := limit.getD settings.maxConnections
    greeting := flags.greeting.or settings.greeting }

/-- Whether the flags have values that make sense, with the limit on connections if one is given:
a limit is a number of sixty-four bits and a path is not empty. -/
def checkFlags (flags : Flags) : Option (Option Nat) :=
  if flags.socketPath = some "" then none
  else
    match flags.maxConnections with
    | none => some none
    | some text => (Decimal.below? 0x10000000000000000 text.toList).map some

/-- Starts the program. -/
def launch (flags : Flags) : Launch :=
  match checkFlags flags with
  | none => .misused
  | some limit =>
    match flags.settings.elim (.ok .default) fun (path, file) ↦ Settings.load path file with
    | .error cause => .failed cause
    | .ok settings =>
      let settings := override flags limit settings
      if flags.stdio then .session settings else .server settings

/-- The exit code of a session: going away is no error. -/
def exitCode : Except Failure Unit → Nat
  | .ok () => 0
  | .error cause => if cause.isDisconnect then 0 else 1

/-- A session on an input that is there as a whole: the exit code and what was written. -/
def session (process : String) (settings : Settings) (input : Bytes) : Nat × Bytes :=
  let conversation :=
    Conversation.serve (protocol process (greeting settings))
      (.ofHalves ⟨[.chunk input], true⟩ .fresh)
  (exitCode (conversation.result?.getD (.ok ())), conversation.wire.outlet.octets)

end LineProtocol.Demonstration
