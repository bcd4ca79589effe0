import LineProtocol.Assignment
import LineProtocol.Client.Answer
import LineProtocol.Wire

/-!
# Clients

A client is the asking side of a connection. It reads the server's greeting and then makes one
request at a time: run a command, set an option, reset the state. A request writes its line and
waits for the reply. A command collects the data sent back and answers inquiries until `OK` or
`ERR` comes; an option and a reset read a single line.

An inquiry that cannot be answered is cancelled. The client then reads on to the end of the
reply, so that the next request meets its own, and returns what made it cancel.
-/

set_option autoImplicit false

namespace LineProtocol

/-- The asking side of a connection. -/
structure Client where
  wire : Wire
  /-- What the server said first. -/
  greeting : String
  deriving DecidableEq, Repr

/-- What a client can ask for. -/
inductive Request where
  | command (verb : String) (parameters : Bytes) (answers : Answers)
  | option (key value : String)
  | reset
  deriving DecidableEq, Repr

/-- What a client waits for. -/
inductive Awaiting where
  | greeting
  /-- The rest of a command's reply, given the data so far and the answers left. -/
  | reply (collected : Bytes) (answers : Answers)
  | optionReply
  | resetReply
  /-- The end of a reply that was cancelled for the given reason. -/
  | cancelReply (reason : Failure)
  deriving DecidableEq, Repr

/-- Where a request stands. -/
inductive Turn where
  | returned (outcome : Except Failure Bytes)
  | waiting (awaiting : Awaiting)

namespace Client

/-- A client that has heard nothing yet. -/
def ofWire (wire : Wire) : Client := ⟨wire, ""⟩

/-- The failure that an `ERR` line stands for. -/
def reported (line : Line) : Failure :=
  match Fault.decode line.textLossy with
  | .ok fault => .peer fault
  | .error cause => cause

/-- The client after a write, and what it waits for then. -/
def afterWrite (client : Client) (awaiting : Awaiting)
    (written : Except Failure Unit × Outlet) : Turn × Client :=
  (match written.1 with
    | .ok () => .waiting awaiting
    | .error cause => .returned (.error cause),
   { client with wire := { client.wire with outlet := written.2 } })

/-- Makes a request. -/
def ask (client : Client) : Request → Turn × Client
  | .command verb parameters answers =>
    client.afterWrite (.reply [] answers) (client.wire.outlet.sendLine verb parameters)
  | .option key value =>
    client.afterWrite .optionReply
      (client.wire.outlet.sendLine "OPTION" (Utf8.encode (Assignment.render key value)))
  | .reset => client.afterWrite .resetReply (client.wire.outlet.sendLine "RESET" [])

/-- Says goodbye; nobody waits for the answer. -/
def close (client : Client) : Except Failure Unit × Client :=
  let (outcome, outlet) := client.wire.outlet.sendLine "BYE" []
  (outcome, { client with wire := { client.wire with outlet := outlet } })

/-- Gives up a command for a reason. If even that cannot be said, the request is over. -/
def cancel (client : Client) (reason : Failure) : Turn × Client :=
  match client.wire.outlet.sendLine "CAN" [] with
  | (.ok (), outlet) =>
    (.waiting (.cancelReply reason), { client with wire := { client.wire with outlet := outlet } })
  | (.error _, outlet) =>
    (.returned (.error reason), { client with wire := { client.wire with outlet := outlet } })

/-- The keyword of an inquiry: its parameters up to the first space. -/
def keyword (line : Line) : String :=
  String.ofList (line.textLossy.toList.takeWhile (· ≠ ' '))

/-- Answers an inquiry. -/
def answer (client : Client) (collected : Bytes) (answers : Answers) (line : Line) :
    Turn × Client :=
  match answers.find? (keyword line) with
  | none => client.cancel (.missingAnswer (keyword line))
  | some prepared =>
    match prepared.send client.wire.outlet with
    | (.complete, rest, outlet) =>
      client.afterWrite (.reply collected (answers.replace (keyword line) rest))
        (outlet.sendLine "END" [])
    | (.writeFailed cause, _, outlet) =>
      (.returned (.error cause), { client with wire := { client.wire with outlet := outlet } })
    | (.sourceFailed cause, _, outlet) =>
      { client with wire := { client.wire with outlet := outlet } }.cancel (.io cause)

/-- Takes one line of a reply. -/
def hear (client : Client) (line : Line) : Awaiting → Turn × Client
  | .greeting =>
    if line.verb = "ERR" then (.returned (.error (reported line)), client)
    else (.returned (.ok []), { client with greeting := line.textLossy })
  | .reply collected answers =>
    if line.verb = "OK" then (.returned (.ok collected), client)
    else if line.verb = "ERR" then (.returned (.error (reported line)), client)
    else if line.verb = "D" then
      (.waiting (.reply (collected ++ line.parameters) answers), client)
    else if line.verb = "INQUIRE" then client.answer collected answers line
    else (.waiting (.reply collected answers), client)
  | .optionReply =>
    if line.verb = "ERR" then (.returned (.error (reported line)), client)
    else (.returned (.ok []), client)
  | .resetReply =>
    if line.verb = "OK" then (.returned (.ok []), client)
    else if line.verb = "ERR" then (.returned (.error (reported line)), client)
    else (.returned (.error (.invalidResponse ("not an OK response: " ++ line.verb))), client)
  | .cancelReply reason =>
    if line.verb = "OK" ∨ line.verb = "ERR" then (.returned (.error reason), client)
    else (.waiting (.cancelReply reason), client)

/-- What a request returns when reading fails: the failure, unless the client had already
cancelled for another reason. -/
def lost (cause : Failure) : Awaiting → Failure
  | .cancelReply reason => reason
  | _ => cause

/-! ### What is left to read -/

theorem reader_afterWrite (client : Client) (awaiting : Awaiting)
    (written : Except Failure Unit × Outlet) :
    (client.afterWrite awaiting written).2.wire.reader = client.wire.reader := rfl

theorem reader_cancel (client : Client) (reason : Failure) :
    (client.cancel reason).2.wire.reader = client.wire.reader := by
  unfold cancel
  split <;> rfl

theorem reader_answer (client : Client) (collected : Bytes) (answers : Answers) (line : Line) :
    (client.answer collected answers line).2.wire.reader = client.wire.reader := by
  unfold answer
  split
  · exact reader_cancel _ _
  split
  · exact reader_afterWrite _ _ _
  · rfl
  · exact reader_cancel _ _

/-- Taking a line reads nothing more. -/
theorem reader_hear (client : Client) (line : Line) (awaiting : Awaiting) :
    (client.hear line awaiting).2.wire.reader = client.wire.reader := by
  unfold hear
  split
  · split <;> rfl
  · split
    · rfl
    split
    · rfl
    split
    · rfl
    split
    · exact reader_answer _ _ _ _
    · rfl
  · split <;> rfl
  · split
    · rfl
    split <;> rfl
  · split <;> rfl

/-- Carries a request on as far as the input goes. -/
def advance (client : Client) (turn : Turn) : Turn × Client :=
  match turn with
  | .returned outcome => (.returned outcome, client)
  | .waiting awaiting =>
    match _ : client.wire.reader.readLine with
    | (.waiting, reader) =>
      (.waiting awaiting, { client with wire := { client.wire with reader := reader } })
    | (.error cause, reader) =>
      (.returned (.error (lost cause awaiting)),
        { client with wire := { client.wire with reader := reader } })
    | (.value line, reader) =>
      let heard :=
        { client with wire := { client.wire with reader := reader } }.hear line awaiting
      advance heard.2 heard.1
termination_by client.wire.reader.weight
decreasing_by
  rw [reader_hear]
  exact LineReader.weight_readLine_lt ‹_›

/-- Makes a request and carries it on as far as the input goes. -/
def call (client : Client) (request : Request) : Turn × Client :=
  let (turn, client) := client.ask request
  client.advance turn

/-- Waits for the greeting as far as the input goes. -/
def connect (wire : Wire) : Turn × Client :=
  (ofWire wire).advance (.waiting .greeting)

/-- The client after more has arrived. -/
def receive (client : Client) (arrivals : List Arrival) : Client :=
  { client with wire := client.wire.receive arrivals }

/-- The client once the server sends no more. -/
def finish (client : Client) : Client :=
  { client with wire := client.wire.finish }

/-- The client once the server reads no more. -/
def broken (client : Client) (cause : IoError) : Client :=
  { client with wire := client.wire.broken cause }

/-- The client after what it wrote has been carried away. -/
def emptied (client : Client) : Client :=
  { client with wire := client.wire.emptied }

end Client

end LineProtocol
