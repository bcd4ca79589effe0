import LineProtocol.Client.Basic

/-!
# Errands

An errand is a whole connection for one command: hear the greeting, set options, run the command
with the answers prepared for it, say goodbye. It ends with what the client program prints and its
exit code: zero and the data, one for a fault that the server reported, two for any other failure.
-/

set_option autoImplicit false

namespace LineProtocol

/-- What a client is sent to do. -/
structure Errand where
  verb : String
  parameters : List String
  /-- Options to set before the command. -/
  options : List (String × String)
  /-- Answers to inquiries. -/
  answers : List (String × String)
  deriving DecidableEq, Repr

namespace Errand

/-- Splits `KEY=VALUE` at the first equals sign. The key must not be empty. -/
def pair? (text : String) : Option (String × String) :=
  let key := text.toList.takeWhile (· ≠ '=')
  match text.toList.dropWhile (· ≠ '=') with
  | [] => none
  | _ :: value => if key.isEmpty then none else some (String.ofList key, String.ofList value)

/-- What the client program leaves behind. -/
structure Report where
  exitCode : Nat
  output : Bytes
  message : String
  deriving DecidableEq, Repr

/-- The report of data: the data and a line feed, nothing for empty data. -/
def delivered (data : Bytes) : Report :=
  ⟨0, if data.isEmpty then [] else data ++ [Octet.lf], ""⟩

/-- The report of a failure. -/
def failed : Failure → Report
  | .peer fault => ⟨1, [], "ERR " ++ toString fault.wireCode ++ " " ++ fault.display ++ "\n"⟩
  | cause => ⟨2, [], "error: " ++ cause.message ++ "\n"⟩

/-- The requests of an errand, in order. -/
def requests (errand : Errand) : List Request :=
  errand.options.map (fun (key, value) ↦ .option key value) ++
    [.command errand.verb (Utf8.encode (" ".intercalate errand.parameters))
      (.ofList (errand.answers.map fun (keyword, value) ↦
        (keyword, .octets (Utf8.encode value))))]

/-- How far an errand has come. -/
inductive Progress where
  /-- It waits for the server, with the requests still to make. -/
  | waiting (client : Client) (awaiting : Awaiting) (later : List Request)
  | finished (report : Report) (client : Client)
  deriving DecidableEq, Repr

/-- Says goodbye and reports data. -/
def conclude (client : Client) (data : Bytes) : Progress :=
  match client.close with
  | (.ok (), client) => .finished (delivered data) client
  | (.error cause, client) => .finished (failed cause) client

/-- Carries an errand on as far as the input goes, up to the first request that fails. -/
def proceed (client : Client) (turn : Turn) (later : List Request) : Progress :=
  match client.advance turn with
  | (.waiting awaiting, client) => .waiting client awaiting later
  | (.returned (.error cause), client) => .finished (failed cause) client
  | (.returned (.ok data), client) =>
    match later with
    | [] => conclude client data
    | request :: later =>
      let (turn, client) := client.ask request
      proceed client turn later

/-- Begins an errand on a connection. -/
def start (errand : Errand) (wire : Wire) : Progress :=
  proceed (.ofWire wire) (.waiting .greeting) errand.requests

/-- The report of an errand and the client as it was left. One that still waits when no more can
come has lost its connection. -/
def Progress.result : Progress → Report × Client
  | .finished report client => (report, client)
  | .waiting client _ _ => (failed .closed, client)

/-- Runs an errand on a connection on which everything has arrived. -/
def run (errand : Errand) (wire : Wire) : Report × Client :=
  (errand.start wire).result

end Errand

end LineProtocol
