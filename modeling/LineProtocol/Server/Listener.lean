import LineProtocol.Server.Acceptor
import LineProtocol.Server.Conversation

/-!
# Listeners

A listener gives connections and failures to accept, in order, and says which failures make it
unusable. Every connection is served by a conversation of its own, on its own stream and with a
state of its own, up to the first of these failures.
-/

set_option autoImplicit false

namespace LineProtocol

/-- A connection's stream: what arrives on it before it ends, and its writing half. -/
structure Accepted where
  arrivals : List Arrival
  outlet : Outlet
  deriving DecidableEq, Repr

namespace Accepted

/-- The connection whose client sends the chunks and takes what it is sent. -/
def ofChunks (chunks : List Bytes) : Accepted := ⟨Inlet.carried chunks, .fresh⟩

/-- The connection with all that arrives on it. -/
def wire (accepted : Accepted) : Wire := .ofHalves ⟨accepted.arrivals, true⟩ accepted.outlet

end Accepted

/-- What a listener gives, with streams that are described in some way. -/
inductive Acceptance (α : Type) where
  | connection (stream : α)
  | failure (cause : IoError)
  deriving DecidableEq, Repr

/-- What came of a listener. -/
structure Listener.Report (σ α : Type) where
  /-- The conversations, in the order of their connections. -/
  served : List (Conversation σ)
  /-- What ended the loop. -/
  cause : IoError
  /-- What the listener would still have given. -/
  left : List (Acceptance α)

namespace Listener

variable {σ α : Type}

/-- The failure of a listener that has nothing more to give. -/
def exhausted : IoError := ⟨.invalidInput, "listener closed"⟩

/-- Serves what a listener gives, up to a failure that makes it unusable. -/
def serveUntil (isFatal : IoError → Bool) (accepted : α → Accepted) (blueprint : Blueprint σ) :
    List (Acceptance α) → Report σ α
  | [] => ⟨[], exhausted, []⟩
  | .failure cause :: later =>
    if isFatal cause then ⟨[], cause, later⟩ else serveUntil isFatal accepted blueprint later
  | .connection stream :: later =>
    let rest := serveUntil isFatal accepted blueprint later
    { rest with served := .serve blueprint (accepted stream).wire :: rest.served }

/-- Serves a listener of connections whose clients send chunks. -/
def serve (blueprint : Blueprint σ) : List (Acceptance (List Bytes)) → Report σ (List Bytes) :=
  serveUntil IoError.isFatal Accepted.ofChunks blueprint

end Listener

end LineProtocol
