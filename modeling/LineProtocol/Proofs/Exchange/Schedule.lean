import LineProtocol.Proofs.Line.Channel
import LineProtocol.Exchange

/-!
# Schedules

The rounds of an exchange are one way for its two sides to take turns. In general a side goes on
whenever it likes, and the chunks in flight are handed over a few at a time. `Exchange.Move` is
one such event. A side never waits for anything but something to read, so when it goes on it goes
on to where it needs more, and a side whose input has not come stays where it is.

`Exchange.Linked` tells an exchange by the lines on their way: what each side has in front of it
and what it has written. Handing lines over moves them from the one list to the other and changes
nothing else (`linked_toServer`, `linked_toClient`). A round is a run of moves (`round_eq_moves`),
so what holds after every run holds after every number of rounds.
-/

set_option autoImplicit false

namespace LineProtocol

/-- A side after its first few chunks have been carried away. -/
def Wire.relieved (wire : Wire) (count : Nat) : Wire :=
  { wire with outlet := { wire.outlet with written := wire.outlet.written.drop count } }

namespace Exchange

variable {σ : Type}

/-- What can happen next in an exchange. -/
inductive Move where
  /-- The conversation is given the first few chunks in flight to it. -/
  | toServer (count : Nat)
  /-- The conversation goes on as far as it can. -/
  | server
  /-- The client is given the first few chunks in flight to it. -/
  | toClient (count : Nat)
  /-- The client goes on as far as it can. -/
  | client
  /-- A conversation that is over drops its end: the client finds the end of its stream behind
  what is in flight, and its writes fail. -/
  | drop

/-- The exchange after a move. -/
def move (blueprint : Blueprint σ) (exchange : Exchange σ) : Move → Exchange σ
  | .toServer count =>
    { exchange with
      client := { exchange.client with wire := exchange.client.wire.relieved count }
      server := exchange.server.receive
        (Inlet.carried (exchange.client.wire.outlet.written.take count)) }
  | .server => { exchange with server := exchange.server.advance blueprint }
  | .toClient count =>
    { exchange with
      client := exchange.client.receive
        (Inlet.carried (exchange.server.wire.outlet.written.take count))
      server := { exchange.server with wire := exchange.server.wire.relieved count } }
  | .client =>
    { exchange with
      client := (exchange.client.advance exchange.turn).2
      turn := (exchange.client.advance exchange.turn).1 }
  | .drop =>
    if exchange.server.isOver then
      { exchange with
        client := (exchange.client.receive (arriving exchange.server.wire)).finish.broken
          exchange.gone
        server := exchange.server.emptied }
    else exchange

/-- The exchange after a run of moves. -/
def moves (blueprint : Blueprint σ) (exchange : Exchange σ) (run : List Move) : Exchange σ :=
  run.foldl (move blueprint) exchange

/-- A move, or a request by a client that has no other one under way. -/
inductive Event where
  | move (next : Move)
  | request (request : Request)

/-- The exchange after an event. -/
def step (blueprint : Blueprint σ) (exchange : Exchange σ) : Event → Exchange σ
  | .move next => exchange.move blueprint next
  | .request request =>
    match exchange.turn with
    | .returned _ => exchange.ask request
    | .waiting _ => exchange

/-- The exchange after a history of events. -/
def after (blueprint : Blueprint σ) (exchange : Exchange σ) (events : List Event) : Exchange σ :=
  events.foldl (step blueprint) exchange

/-- The octets that one side has written and the other has made no use of yet: still in flight,
arrived but not read, or read but not taken for a line. -/
def inTransit (exchange : Exchange σ) : Bytes :=
  exchange.client.wire.outlet.octets ++ exchange.server.wire.reader.inlet.unread ++
    exchange.server.wire.reader.buffer ++ exchange.server.wire.outlet.octets ++
    exchange.client.wire.reader.inlet.unread ++ exchange.client.wire.reader.buffer

variable (blueprint : Blueprint σ) {exchange : Exchange σ}

theorem moves_append (first second : List Move) :
    exchange.moves blueprint (first ++ second) =
      (exchange.moves blueprint first).moves blueprint second :=
  List.foldl_append

/-! ### Rounds -/

theorem relieved_all (wire : Wire) : wire.relieved wire.outlet.written.length = wire.emptied := by
  rw [Wire.relieved, List.drop_length]
  rfl

theorem serverTurn_eq_moves (exchange : Exchange σ) :
    exchange.serverTurn blueprint =
      exchange.moves blueprint
        [.toServer exchange.client.wire.outlet.written.length, .server] := by
  simp only [moves, List.foldl_cons, List.foldl_nil, move, relieved_all, List.take_length]
  rfl

theorem clientTurn_of_isOver (h : exchange.server.isOver = true) :
    exchange.clientTurn = exchange.moves blueprint [.drop, .client] := by
  simp only [moves, List.foldl_cons, List.foldl_nil, move, clientTurn, h, if_true]

theorem clientTurn_of_not_isOver (h : ¬exchange.server.isOver = true) :
    exchange.clientTurn = exchange.moves blueprint
      [.toClient exchange.server.wire.outlet.written.length, .client] := by
  simp only [moves, List.foldl_cons, List.foldl_nil, move, clientTurn, h, Bool.false_eq_true,
    if_false, relieved_all, List.take_length]
  rfl

/-- A round is a run of moves. -/
theorem round_eq_moves (exchange : Exchange σ) :
    ∃ run, exchange.round blueprint = exchange.moves blueprint run := by
  have hclient : ∃ run, (exchange.serverTurn blueprint).clientTurn =
      (exchange.serverTurn blueprint).moves blueprint run := by
    by_cases h : (exchange.serverTurn blueprint).server.isOver = true
    · exact ⟨_, clientTurn_of_isOver blueprint h⟩
    · exact ⟨_, clientTurn_of_not_isOver blueprint h⟩
  obtain ⟨run, hrun⟩ := hclient
  refine ⟨[.toServer exchange.client.wire.outlet.written.length, .server] ++ run, ?_⟩
  rw [round, hrun, moves_append, ← serverTurn_eq_moves]

/-- So are as many rounds as it takes. -/
theorem settle_eq_moves (rounds : Nat) (exchange : Exchange σ) :
    ∃ run, exchange.settle blueprint rounds = exchange.moves blueprint run := by
  induction rounds generalizing exchange with
  | zero => exact ⟨[], rfl⟩
  | succ rounds ih =>
    obtain ⟨first, hfirst⟩ := round_eq_moves blueprint exchange
    rw [settle]
    split
    · exact ⟨first, hfirst⟩
    · obtain ⟨rest, hrest⟩ := ih (exchange.round blueprint)
      refine ⟨first ++ rest, ?_⟩
      rw [hrest, hfirst, moves_append]

/-! ### Lines on their way -/

/-- An exchange by the lines that each side has in front of it and the lines it has written. -/
structure Linked (exchange : Exchange σ)
    (serverInbox clientOutbox clientInbox serverOutbox : List Line) : Prop where
  client : exchange.client.wire = .ofLines clientInbox clientOutbox
  server : exchange.server.wire = .ofLines serverInbox serverOutbox

theorem relieved_ofLines (inbox outbox : List Line) (count : Nat) :
    (Wire.ofLines inbox outbox).relieved count = .ofLines inbox (outbox.drop count) := by
  simp only [Wire.relieved, Wire.ofLines, Outlet.holding, List.map_drop]

theorem receive_ofLines (inbox outbox more : List Line) :
    (Wire.ofLines inbox outbox).receive (Inlet.carried (more.map Line.octets)) =
      .ofLines (inbox ++ more) outbox := by
  rw [Wire.receive, Wire.ofLines, LineReader.push_facing]
  rfl

/-- Handing over nothing changes nothing. -/
theorem receive_nothing (wire : Wire) : wire.receive (Inlet.carried []) = wire := by
  rw [Wire.receive, Inlet.push]
  simp only [Inlet.carried, List.filter_nil, List.map_nil, List.append_nil]

theorem written_ofLines (inbox outbox : List Line) :
    (Wire.ofLines inbox outbox).outlet.written = outbox.map Line.octets := rfl

variable {serverInbox clientOutbox clientInbox serverOutbox : List Line}

theorem linked_toServer (h : exchange.Linked serverInbox clientOutbox clientInbox serverOutbox)
    (count : Nat) :
    (exchange.move blueprint (.toServer count)).Linked
      (serverInbox ++ clientOutbox.take count) (clientOutbox.drop count) clientInbox
      serverOutbox := by
  constructor
  · rw [move, h.client]
    exact relieved_ofLines clientInbox clientOutbox count
  · rw [move, h.client, written_ofLines, ← List.map_take]
    simp only [Conversation.receive]
    rw [h.server, receive_ofLines]

theorem linked_toClient (h : exchange.Linked serverInbox clientOutbox clientInbox serverOutbox)
    (count : Nat) :
    (exchange.move blueprint (.toClient count)).Linked serverInbox clientOutbox
      (clientInbox ++ serverOutbox.take count) (serverOutbox.drop count) := by
  constructor
  · rw [move, h.server, written_ofLines, ← List.map_take]
    simp only [Client.receive]
    rw [h.client, receive_ofLines]
  · rw [move, h.server]
    exact relieved_ofLines serverInbox serverOutbox count

theorem serverTurn_ofLines {greeting : String} {turn : Turn} {state : σ} {phase : Phase σ}
    {calls : List (Call σ)} {gone : IoError} :
    serverTurn blueprint ⟨⟨.ofLines clientInbox clientOutbox, greeting⟩, turn,
        ⟨.ofLines serverInbox serverOutbox, state, phase, calls⟩, gone⟩ =
      ⟨⟨.ofLines clientInbox [], greeting⟩, turn,
        Conversation.advance blueprint
          ⟨.ofLines (serverInbox ++ clientOutbox) serverOutbox, state, phase, calls⟩, gone⟩ := by
  simp only [serverTurn, arriving, written_ofLines, Conversation.receive, receive_ofLines]
  rfl

theorem clientTurn_ofLines {greeting : String} {turn : Turn} {state : σ} {phase : Phase σ}
    {calls : List (Call σ)} {gone : IoError} (halive : ∀ result, phase ≠ .ended result) :
    clientTurn ⟨⟨.ofLines clientInbox clientOutbox, greeting⟩, turn,
        ⟨.ofLines serverInbox serverOutbox, state, phase, calls⟩, gone⟩ =
      ⟨(Client.advance ⟨.ofLines (clientInbox ++ serverOutbox) clientOutbox, greeting⟩ turn).2,
        (Client.advance ⟨.ofLines (clientInbox ++ serverOutbox) clientOutbox, greeting⟩ turn).1,
        ⟨.ofLines serverInbox [], state, phase, calls⟩, gone⟩ := by
  have hopen : (Conversation.mk (.ofLines serverInbox serverOutbox) state phase calls).isOver =
      false := by
    cases phase with
    | ended result => exact absurd rfl (halive result)
    | _ => rfl
  simp only [clientTurn, hopen, Bool.false_eq_true, if_false, arriving, written_ofLines,
    Client.receive, receive_ofLines]
  rfl

/-- Nothing is on its way if there are no lines. -/
theorem inTransit_of_linked (h : exchange.Linked [] [] [] []) : exchange.inTransit = [] := by
  rw [inTransit, h.client, h.server]
  rfl

/-- The last of a row of lines is the last of its second part, unless that is empty. -/
theorem split_last {front inbox outbox : List Line} {last : Line}
    (h : front ++ [last] = inbox ++ outbox) :
    (inbox = front ++ [last] ∧ outbox = []) ∨
      ∃ rest, front = inbox ++ rest ∧ outbox = rest ++ [last] := by
  rcases List.eq_nil_or_concat outbox with rfl | ⟨rest, final, rfl⟩
  · rw [List.append_nil] at h
    exact .inl ⟨h.symm, rfl⟩
  · rw [List.concat_eq_append, ← List.append_assoc] at h
    obtain ⟨hfront, hlast⟩ := List.append_inj' h rfl
    refine .inr ⟨rest, hfront, ?_⟩
    rw [List.concat_eq_append, hlast]

end Exchange

end LineProtocol
