import LineProtocol.Client.Basic
import LineProtocol.Server.Conversation

/-!
# Exchanges

An exchange is a client and a conversation whose streams are joined: what one writes arrives at
the other, chunk by chunk and in order. What a side has written and the other has not been given
is in flight.

In a round the conversation is given what the client wrote and goes on as far as it can, and then
the client is given what the conversation wrote and goes on as far as it can. When the conversation
is over the client finds the end of its stream, and its writes fail. `Exchange.settle` makes
rounds until one in which the client writes nothing; after that a further round changes nothing.
-/

set_option autoImplicit false

namespace LineProtocol

/-- A client and a conversation, joined. -/
structure Exchange (σ : Type) where
  client : Client
  turn : Turn
  server : Conversation σ
  /-- How writing to a side that is gone fails. -/
  gone : IoError

namespace Exchange

variable {σ : Type}

/-- The writer's chunks as they arrive. -/
def arriving (wire : Wire) : List Arrival :=
  Inlet.carried wire.outlet.written

/-- A new connection: the conversation has sent its greeting and the client waits for it. -/
def start (blueprint : Blueprint σ) (gone : IoError) : Exchange σ where
  client := .ofWire (.ofHalves .quiet .fresh)
  turn := .waiting .greeting
  server := .greet blueprint (.ofHalves .quiet .fresh)
  gone := gone

/-- The conversation is given what the client wrote. -/
def serverTurn (blueprint : Blueprint σ) (exchange : Exchange σ) : Exchange σ :=
  { exchange with
    client := exchange.client.emptied
    server := (exchange.server.receive (arriving exchange.client.wire)).advance blueprint }

/-- The client is given what the conversation wrote. -/
def clientTurn (exchange : Exchange σ) : Exchange σ :=
  let informed := exchange.client.receive (arriving exchange.server.wire)
  let client :=
    if exchange.server.isOver then (informed.finish).broken exchange.gone else informed
  let (turn, client) := client.advance exchange.turn
  { exchange with client := client, turn := turn, server := exchange.server.emptied }

/-- One round. -/
def round (blueprint : Blueprint σ) (exchange : Exchange σ) : Exchange σ :=
  (exchange.serverTurn blueprint).clientTurn

/-- Rounds until the client writes nothing, a given number at most. -/
def settle (blueprint : Blueprint σ) : Nat → Exchange σ → Exchange σ
  | 0, exchange => exchange
  | rounds + 1, exchange =>
    let next := exchange.round blueprint
    if next.client.wire.outlet.written.isEmpty then next else settle blueprint rounds next

/-- The client makes a request. -/
def ask (exchange : Exchange σ) (request : Request) : Exchange σ :=
  let (turn, client) := exchange.client.ask request
  { exchange with client := client, turn := turn }

/-- A request carried to its end, within a given number of rounds. -/
def call (blueprint : Blueprint σ) (rounds : Nat) (exchange : Exchange σ) (request : Request) :
    Exchange σ :=
  (exchange.ask request).settle blueprint rounds

/-- How the last request ended, if it has. -/
def outcome? (exchange : Exchange σ) : Option (Except Failure Bytes) :=
  match exchange.turn with
  | .returned outcome => some outcome
  | .waiting _ => none

/-- The conversation after the client has dropped its end: it is given what the client wrote, then
the end of the stream, and its own writes fail. -/
def afterDrop (blueprint : Blueprint σ) (exchange : Exchange σ) : Conversation σ :=
  let server := (exchange.server.receive (arriving exchange.client.wire)).finish
  { server with wire := server.wire.broken exchange.gone }.advance blueprint

/-- The client says goodbye and drops its end. -/
def hangUp (blueprint : Blueprint σ) (exchange : Exchange σ) :
    Except Failure Unit × Conversation σ :=
  let (outcome, client) := exchange.client.close
  (outcome, { exchange with client := client }.afterDrop blueprint)

end Exchange

end LineProtocol
