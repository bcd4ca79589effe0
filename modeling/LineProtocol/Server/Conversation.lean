import LineProtocol.Assignment
import LineProtocol.Server.Blueprint
import LineProtocol.Text.Blank

/-!
# Conversations

A conversation is the answering side of one connection. It opens with the greeting and then takes
one command line after the other. `NOP`, `BYE`, `RESET`, `OPTION` and `HELP` are its own; any
other verb runs the handler registered for it, and so does `RESET` if one is registered. Every
command gets one closing `OK` or `ERR` line.

A fault is reported and the conversation goes on. A failure of the stream, a line that cannot be
read and a handler's fatal failure end it, and nothing more is written. After `BYE` it ends well,
whether or not the closing line could be written.

A conversation that runs out of input waits: for a command, or for the answer to an inquiry in the
middle of a handler. `Conversation.advance` carries it on when more has arrived.
-/

set_option autoImplicit false

namespace LineProtocol

/-- A handler that waits for the answer to an inquiry. -/
structure Pending (σ : Type) where
  /-- The verb of the command, as it was registered. -/
  verb : String
  parameters : String
  /-- The data received so far. -/
  collected : Bytes
  next : Except Rejection Bytes → Program (σ × Outcome)

/-- Where a conversation stands. -/
inductive Phase (σ : Type) where
  /-- It waits for a command. -/
  | ready
  /-- It waits for the answer to an inquiry. -/
  | asking (pending : Pending σ)
  /-- It is over. -/
  | ended (result : Except Failure Unit)

/-- A handler or option setter that has run, the state it left and how it ended. -/
inductive Call (σ : Type) where
  | command (verb parameters : String) (state : σ) (outcome : Outcome)
  | option (key value : String) (state : σ) (outcome : Outcome)

/-- The answering side of a connection. -/
structure Conversation (σ : Type) where
  wire : Wire
  state : σ
  phase : Phase σ
  /-- The handlers and option setters that have run, the latest last. -/
  calls : List (Call σ)

namespace Conversation

variable {σ : Type}

/-- The verbs that no handler is needed for, in the order in which help lists them. -/
def builtins : List String := ["NOP", "OPTION", "BYE", "RESET", "HELP"]

/-- The parameters of a line have to be text. -/
def malformedText : Fault := .assuan .assuanParameter "parameters are not valid UTF-8"

/-- How the conversation ended, if it has. -/
def result? (conversation : Conversation σ) : Option (Except Failure Unit) :=
  match conversation.phase with
  | .ended result => some result
  | _ => none

/-- Whether the conversation is over. -/
def isOver (conversation : Conversation σ) : Bool :=
  conversation.result?.isSome

/-- Ready for the next command after a write, unless the write failed. -/
def afterWrite (conversation : Conversation σ) (written : Except Failure Unit × Outlet) :
    Conversation σ :=
  { conversation with
    wire := { conversation.wire with outlet := written.2 }
    phase := match written.1 with
      | .ok () => .ready
      | .error cause => .ended (.error cause) }

/-- Closes a command well. -/
def acknowledge (conversation : Conversation σ) : Conversation σ :=
  conversation.afterWrite (conversation.wire.outlet.sendLine "OK" [])

/-- Closes a command with a fault. -/
def reject (conversation : Conversation σ) (fault : Fault) : Conversation σ :=
  conversation.afterWrite (conversation.wire.outlet.sendFault fault)

/-- Closes a command as its handler ended. -/
def close (conversation : Conversation σ) : Outcome → Conversation σ
  | .ok () => conversation.acknowledge
  | .error (.report fault) => conversation.reject fault
  | .error (.fatal cause) => { conversation with phase := .ended (.error cause) }

/-- What a handler's run comes to: the command is closed, or it waits for the client. -/
def settle (conversation : Conversation σ) (verb parameters : String)
    (run : Program.Run (σ × Outcome) × Wire) : Conversation σ :=
  match run with
  | (.finished (state, outcome), wire) =>
    { conversation with
      wire := wire
      state := state
      calls := conversation.calls ++ [Call.command verb parameters state outcome] }.close outcome
  | (.suspended collected next, wire) =>
    { conversation with wire := wire, phase := .asking ⟨verb, parameters, collected, next⟩ }

/-- Runs a command. -/
def perform (conversation : Conversation σ) (command : Command σ) (parameters : String) :
    Conversation σ :=
  conversation.settle command.verb parameters
    ((command.handler conversation.state parameters).run conversation.wire)

/-- Ends the conversation. The client may have gone already. -/
def leave (conversation : Conversation σ) : Conversation σ :=
  { conversation with
    wire := { conversation.wire with outlet := (conversation.wire.outlet.sendLine "OK" []).2 }
    phase := .ended (.ok ()) }

/-- Puts the state back, by the handler registered for it or to the blank state. -/
def reset (blueprint : Blueprint σ) (conversation : Conversation σ) : Conversation σ :=
  match blueprint.commands.find? "RESET" with
  | some command => conversation.perform command ""
  | none => { conversation with state := blueprint.blank }.acknowledge

/-- Sets an option. -/
def assign (blueprint : Blueprint σ) (conversation : Conversation σ) (parameters : String) :
    Conversation σ :=
  match Assignment.split parameters with
  | none => conversation.reject .invalidOption
  | some (key, value) =>
    match blueprint.setter with
    | none => conversation.reject .notImplemented
    | some setter =>
      let (state, outcome) := setter conversation.state key value
      { conversation with
        state := state
        calls := conversation.calls ++ [Call.option key value state outcome] }.close outcome

/-- Writes comments and closes the command well. -/
def inform (conversation : Conversation σ) (lines : List String) : Conversation σ :=
  match conversation.wire.outlet.sendComments lines with
  | (.ok (), outlet) =>
    { conversation with wire := { conversation.wire with outlet := outlet } }.acknowledge
  | written => conversation.afterWrite written

/-- The verbs that help lists. -/
def verbs (blueprint : Blueprint σ) : List String :=
  builtins ++ blueprint.commands.names.filter fun verb ↦ !builtins.contains verb

/-- Lists the verbs, or gives the help on a topic. -/
def assist (blueprint : Blueprint σ) (conversation : Conversation σ) (parameters : String) :
    Conversation σ :=
  match Blank.trim parameters.toList with
  | [] => conversation.inform (verbs blueprint)
  | topic =>
    match blueprint.help.find? (upperCase (String.ofList topic)) with
    | some lines => conversation.inform lines
    | none => conversation.reject .notFound

/-- Takes one command line. -/
def dispatch (blueprint : Blueprint σ) (conversation : Conversation σ) (line : Line) :
    Conversation σ :=
  match line.text? with
  | none => conversation.reject malformedText
  | some parameters =>
    if line.verb = "NOP" then conversation.acknowledge
    else if line.verb = "BYE" then conversation.leave
    else if line.verb = "RESET" then conversation.reset blueprint
    else if line.verb = "OPTION" then conversation.assign blueprint parameters
    else if line.verb = "HELP" then conversation.assist blueprint parameters
    else
      match blueprint.commands.find? line.verb with
      | some command => conversation.perform command parameters
      | none => conversation.reject .unknownCommand

/-! ### What is left to read -/

/-- What is left to read. -/
def weight (conversation : Conversation σ) : Nat :=
  conversation.wire.reader.weight

theorem weight_afterWrite (conversation : Conversation σ)
    (written : Except Failure Unit × Outlet) :
    (conversation.afterWrite written).weight = conversation.weight := rfl

theorem weight_acknowledge (conversation : Conversation σ) :
    conversation.acknowledge.weight = conversation.weight :=
  weight_afterWrite _ _

theorem weight_reject (conversation : Conversation σ) (fault : Fault) :
    (conversation.reject fault).weight = conversation.weight :=
  weight_afterWrite _ _

theorem weight_close (conversation : Conversation σ) (outcome : Outcome) :
    (conversation.close outcome).weight = conversation.weight := by
  unfold close
  split
  · exact weight_acknowledge _
  · exact weight_reject _ _
  · rfl

theorem weight_perform_le (conversation : Conversation σ) (command : Command σ)
    (parameters : String) :
    (conversation.perform command parameters).weight ≤ conversation.weight := by
  have hrun := Program.weight_run_le
    (command.handler conversation.state parameters) conversation.wire
  unfold perform settle
  split
  case h_1 state outcome wire heq =>
    rw [heq] at hrun
    rw [weight_close]
    exact hrun
  case h_2 collected next wire heq =>
    rw [heq] at hrun
    exact hrun

theorem weight_leave (conversation : Conversation σ) :
    conversation.leave.weight = conversation.weight := rfl

theorem weight_reset_le (blueprint : Blueprint σ) (conversation : Conversation σ) :
    (conversation.reset blueprint).weight ≤ conversation.weight := by
  unfold reset
  split
  · exact weight_perform_le _ _ _
  · exact Nat.le_of_eq (weight_acknowledge _)

theorem weight_assign (blueprint : Blueprint σ) (conversation : Conversation σ)
    (parameters : String) :
    (conversation.assign blueprint parameters).weight = conversation.weight := by
  unfold assign
  split
  · exact weight_reject _ _
  split
  · exact weight_reject _ _
  · exact weight_close _ _

theorem weight_inform (conversation : Conversation σ) (lines : List String) :
    (conversation.inform lines).weight = conversation.weight := by
  unfold inform
  split
  · exact weight_acknowledge _
  · exact weight_afterWrite _ _

theorem weight_assist (blueprint : Blueprint σ) (conversation : Conversation σ)
    (parameters : String) :
    (conversation.assist blueprint parameters).weight = conversation.weight := by
  unfold assist
  split
  · exact weight_inform _ _
  split
  · exact weight_inform _ _
  · exact weight_reject _ _

/-- Taking a command never adds to what is left to read. -/
theorem weight_dispatch_le (blueprint : Blueprint σ) (conversation : Conversation σ)
    (line : Line) : (conversation.dispatch blueprint line).weight ≤ conversation.weight := by
  unfold dispatch
  split
  · exact Nat.le_of_eq (weight_reject _ _)
  split
  · exact Nat.le_of_eq (weight_acknowledge _)
  split
  · exact Nat.le_of_eq (weight_leave _)
  split
  · exact weight_reset_le _ _
  split
  · exact Nat.le_of_eq (weight_assign _ _ _)
  split
  · exact Nat.le_of_eq (weight_assist _ _ _)
  split
  · exact weight_perform_le _ _ _
  · exact Nat.le_of_eq (weight_reject _ _)

/-! ### Whole conversations -/

/-- Takes commands for as long as there are whole lines. -/
def takeCommands (blueprint : Blueprint σ) (conversation : Conversation σ) : Conversation σ :=
  match conversation.phase with
  | .ready =>
    match _ : conversation.wire.reader.readLine with
    | (.value line, reader) =>
      takeCommands blueprint
        ({ conversation with wire := { conversation.wire with reader := reader } }.dispatch
          blueprint line)
    | (.error cause, reader) =>
      { conversation with
        wire := { conversation.wire with reader := reader }
        phase := .ended (.error cause) }
    | (.waiting, reader) =>
      { conversation with wire := { conversation.wire with reader := reader } }
  | _ => conversation
termination_by conversation.weight
decreasing_by
  exact Nat.lt_of_le_of_lt (weight_dispatch_le _ _ _) (LineReader.weight_readLine_lt ‹_›)

/-- Goes on with a handler that waits for an answer. -/
def answerPending (conversation : Conversation σ) : Conversation σ :=
  match conversation.phase with
  | .asking pending =>
    conversation.settle pending.verb pending.parameters
      (Program.resume pending.collected pending.next conversation.wire)
  | _ => conversation

/-- Carries the conversation on as far as its input goes. -/
def advance (blueprint : Blueprint σ) (conversation : Conversation σ) : Conversation σ :=
  conversation.answerPending.takeCommands blueprint

/-- A conversation that has sent its greeting. -/
def greet (blueprint : Blueprint σ) (wire : Wire) : Conversation σ :=
  let opening : Conversation σ := ⟨wire, blueprint.start, .ready, []⟩
  opening.afterWrite (wire.outlet.sendLine "OK" (Utf8.encode blueprint.greeting))

/-- A conversation carried on as far as its input goes. -/
def serve (blueprint : Blueprint σ) (wire : Wire) : Conversation σ :=
  (greet blueprint wire).advance blueprint

/-- The conversation after more has arrived. -/
def receive (conversation : Conversation σ) (arrivals : List Arrival) : Conversation σ :=
  { conversation with wire := conversation.wire.receive arrivals }

/-- The conversation once the client sends no more. -/
def finish (conversation : Conversation σ) : Conversation σ :=
  { conversation with wire := conversation.wire.finish }

/-- The conversation after what it wrote has been carried away. -/
def emptied (conversation : Conversation σ) : Conversation σ :=
  { conversation with wire := conversation.wire.emptied }

/-! ### Conversations arrival by arrival -/

/-- Hands arrivals to a conversation one at a time, as long as it waits for more, and then ends
its input. Gives what it wrote before the first, what it wrote between each and the next, and the
conversation. -/
def followFrom (blueprint : Blueprint σ) (conversation : Conversation σ) :
    List Arrival → List Bytes × Conversation σ
  | [] =>
    let final := (conversation.finish).advance blueprint
    ([final.wire.outlet.octets], final.emptied)
  | arrival :: later =>
    if conversation.isOver then ([conversation.wire.outlet.octets], conversation.emptied)
    else
      let next := (conversation.emptied.receive [arrival]).advance blueprint
      let (written, final) := followFrom blueprint next later
      (conversation.wire.outlet.octets :: written, final)

/-- A whole conversation on a stream whose arrivals are given, with what it wrote at each stage. -/
def follow (blueprint : Blueprint σ) (arrivals : List Arrival) (outlet : Outlet) :
    List Bytes × Conversation σ :=
  followFrom blueprint (greet blueprint (.ofHalves .quiet outlet)) arrivals

end Conversation

end LineProtocol
