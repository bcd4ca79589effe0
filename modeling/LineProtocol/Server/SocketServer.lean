import LineProtocol.Exchange
import LineProtocol.Server.Acceptor
import LineProtocol.Server.Address

/-!
# Socket servers

A socket server runs an acceptor and serves each connection it admits with a conversation of its
own. The connections here are seen with their clients: each live one is an exchange under its
number. A client over the limit is told so in one `ERR` line and sees the end of its stream, and one
that connects when the loop has ended is never accepted.
-/

set_option autoImplicit false

namespace LineProtocol

/-- A server, its connections and their clients. -/
structure SocketServer (σ : Type) where
  blueprint : Blueprint σ
  acceptor : Acceptor
  /-- The connections whose client is there, by number. -/
  connections : List (Nat × Exchange σ)
  /-- The number of the next connection. -/
  next : Nat

namespace SocketServer

variable {σ : Type}

/-- What a client over the limit is told. -/
def tooMany : Fault := .make .assuan .general "assuan" "too many connections"

/-- A server that has just begun to accept. -/
def start (blueprint : Blueprint σ) (limit : Nat) : SocketServer σ :=
  ⟨blueprint, .start limit, [], 0⟩

/-- The number of live connections. -/
def active (server : SocketServer σ) : Nat := server.acceptor.active.toNat

/-- The connection of a number. -/
def find? (server : SocketServer σ) (connection : Nat) : Option (Exchange σ) :=
  server.connections.lookup connection

/-- The server without a connection's client. -/
def without (server : SocketServer σ) (connection : Nat) : SocketServer σ :=
  { server with connections := server.connections.filter (·.1 ≠ connection) }

/-- Records what became of a connection. A conversation that is over is no longer live. -/
def record (server : SocketServer σ) (connection : Nat) (exchange : Exchange σ) :
    SocketServer σ :=
  { server.without connection with
    connections := (server.without connection).connections ++ [(connection, exchange)]
    acceptor :=
      if exchange.server.isOver then server.acceptor.step (.ended connection .returned)
      else server.acceptor }

/-- Tells a client over the limit why it is turned away. -/
def refuse (outlet : Outlet) : Outlet :=
  (outlet.sendFault tooMany).2

/-- A client that is turned away. -/
def turnAway : Turn × Client :=
  let told := refuse .fresh
  Client.connect (.ofHalves ⟨Inlet.carried told.written, true⟩ .fresh)

/-- A client that nobody accepts. -/
def unaccepted : Turn × Client :=
  Client.connect (.ofHalves .quiet .fresh)

/-- A client connects and waits for its greeting. Gives the connection's number, how the client's
wait ended, and the client. -/
def connect (rounds : Nat) (server : SocketServer σ) :
    Nat × Turn × Client × SocketServer σ :=
  let acceptor := server.acceptor.offer server.next
  let server' := { server with acceptor := acceptor, next := server.next + 1 }
  if (server.next, .refused) ∈ acceptor.log then (server.next, turnAway.1, turnAway.2, server')
  else if (server.next, .admitted) ∉ acceptor.log then
    (server.next, unaccepted.1, unaccepted.2, server')
  else
    let exchange :=
      (Exchange.start server.blueprint Address.brokenPipe).settle server.blueprint rounds
    (server.next, exchange.turn, exchange.client, server'.record server.next exchange)

/-- A client makes a request. -/
def call (rounds : Nat) (server : SocketServer σ) (connection : Nat) (request : Request) :
    Option (Except Failure Bytes) × SocketServer σ :=
  match server.find? connection with
  | none => (none, server)
  | some exchange =>
    let exchange := exchange.call server.blueprint rounds request
    (exchange.outcome?, server.record connection exchange)

/-- A client drops its end. -/
def drop (server : SocketServer σ) (connection : Nat) : SocketServer σ :=
  match server.find? connection with
  | none => server
  | some exchange =>
    (server.record connection
      { exchange with server := exchange.afterDrop server.blueprint }).without connection

/-- A client says goodbye and drops its end. -/
def close (server : SocketServer σ) (connection : Nat) :
    Option (Except Failure Unit) × SocketServer σ :=
  match server.find? connection with
  | none => (none, server)
  | some exchange =>
    let (outcome, conversation) := exchange.hangUp server.blueprint
    (some outcome,
      (server.record connection { exchange with server := conversation }).without connection)

/-- A client stays silent until the server's patience ends. -/
def idle (server : SocketServer σ) (connection : Nat) : SocketServer σ :=
  match server.find? connection with
  | none => server
  | some exchange =>
    let conversation :=
      (exchange.server.receive [.failure Address.readTimeout]).advance server.blueprint
    (server.record connection { exchange with server := conversation }).without connection

/-- The server is asked to stop, and a last connection wakes its loop up. -/
def shutdown (server : SocketServer σ) : SocketServer σ :=
  { server with
    acceptor := server.acceptor.run [.shutdownRequested, .accepted server.next, .looked]
    next := server.next + 1 }

end SocketServer

end LineProtocol
