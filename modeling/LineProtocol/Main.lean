import LineProtocol.Client.Errand
import LineProtocol.Demonstration

/-!
# The command line

`serve` runs the demonstration protocol for one session on standard input and output. `send` runs
one command against a server that writes to this program's standard input and reads its standard
output; what the command returned is written to standard error.
-/

set_option autoImplicit false

namespace LineProtocol.CommandLine

open Demonstration

/-- The most octets read at once. -/
def chunkLength : USize := 1024

/-- What is at the path of a settings file. -/
def readFile (path : String) : IO Settings.File := do
  try
    return .data (← IO.FS.readBinFile path).toList
  catch
    | .noFileOrDirectory .. => return .missing
    | _ => return .directory

/-- The flags of `serve`, or nothing if one is unknown. -/
def serverFlags (flags : Flags) : List String → IO (Option Flags)
  | [] => return some flags
  | "--stdio" :: rest => serverFlags { flags with stdio := true } rest
  | "--greeting" :: value :: rest => serverFlags { flags with greeting := some value } rest
  | "--listen" :: value :: rest => serverFlags { flags with listenAddress := some value } rest
  | "--socket" :: value :: rest => serverFlags { flags with socketPath := some value } rest
  | "--max-connections" :: value :: rest =>
    serverFlags { flags with maxConnections := some value } rest
  | "--config" :: path :: rest => do
    let file ← readFile path
    serverFlags { flags with settings := some (path, file) } rest
  | _ => return none

/-- Writes octets to standard output. -/
def put (octets : Bytes) : IO Unit := do
  let stdout ← IO.getStdout
  stdout.write ⟨octets.toArray⟩
  stdout.flush

/-- Reads the next octets of standard input. -/
def get : IO Bytes := do
  return (← (← IO.getStdin).read chunkLength).toList

/-- Serves standard input until the conversation is over. -/
partial def converse (blueprint : Blueprint Memory) (conversation : Conversation Memory) :
    IO UInt32 := do
  put conversation.wire.outlet.octets
  match conversation.result? with
  | some result => return (exitCode result).toUInt32
  | none =>
    let octets ← get
    let waiting := conversation.emptied
    let next := if octets.isEmpty then waiting.finish else waiting.receive [.chunk octets]
    converse blueprint (next.advance blueprint)

/-- Runs an errand against the server on standard input and output. -/
partial def fetch (progress : Errand.Progress) : IO UInt32 := do
  match progress with
  | .finished report client =>
    put client.wire.outlet.octets
    let stderr ← IO.getStderr
    stderr.write ⟨report.output.toArray⟩
    stderr.putStr report.message
    return report.exitCode.toUInt32
  | .waiting client awaiting later =>
    put client.wire.outlet.octets
    let octets ← get
    let client := client.emptied
    let next := if octets.isEmpty then client.finish else client.receive [.chunk octets]
    fetch (Errand.proceed next (.waiting awaiting) later)

/-- The errand that the arguments of `send` describe, or nothing if they describe none. -/
def errand? (options answers : List (String × String)) : List String → Option Errand
  | "--option" :: text :: rest =>
    (Errand.pair? text).bind fun pair ↦ errand? (options ++ [pair]) answers rest
  | "--inquire" :: text :: rest =>
    (Errand.pair? text).bind fun pair ↦ errand? options (answers ++ [pair]) rest
  | verb :: parameters => some ⟨verb, parameters, options, answers⟩
  | [] => none

/-- Complains and gives the exit code of misuse. -/
def misuse : IO UInt32 := do
  IO.eprintln "usage: serve --stdio [FLAG VALUE]..."
  IO.eprintln "       send [--option KEY=VALUE]... [--inquire KEY=VALUE]... VERB [PARAMETER]..."
  return 2

/-- Runs the program with its arguments. -/
def run : List String → IO UInt32
  | "serve" :: arguments => do
    match ← serverFlags ⟨false, none, none, none, none, none⟩ arguments with
    | none => misuse
    | some flags =>
      match launch flags with
      | .misused => misuse
      | .failed cause => do
        IO.eprintln cause.message
        return 1
      | .server _ => do
        IO.eprintln "only sessions on standard input and output can be served"
        return 1
      | .session settings =>
        let blueprint := protocol "0" (greeting settings)
        converse blueprint (.greet blueprint (.ofHalves .quiet .fresh))
  | "send" :: arguments =>
    match errand? [] [] arguments with
    | none => misuse
    | some errand => fetch (errand.start (.ofHalves .quiet .fresh))
  | _ => misuse

end LineProtocol.CommandLine

/-- The program. -/
def main (arguments : List String) : IO UInt32 :=
  LineProtocol.CommandLine.run arguments
