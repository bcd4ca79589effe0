import LineProtocol.Failure

/-!
# Acceptors

An acceptor is the loop that takes connections in. It accepts one, looks whether a shutdown has
been asked for, compares the number of live connections with the limit, sets the connection's time
limits, counts it and makes a thread that serves it. Threads end and shutdowns are asked for at any
moment in between, so each of these steps is an event of its own. In particular a shutdown can be
asked for when an accept has returned and the loop has not looked yet.

A shutdown that the loop sees ends it, whatever the accept has given. Otherwise a passing failure
to accept is skipped, and one that means the listener itself is unusable ends the loop. A connection
over the limit is refused. A connection that is counted comes with a guard,
which takes it off the count when it is dropped: when the thread ends, in whatever way, or when no
thread could be made.
-/

set_option autoImplicit false

namespace LineProtocol

/-- Whether a failure to accept means that the listener itself is unusable. -/
def IoError.isFatal (cause : IoError) : Bool :=
  cause.kind == .invalidInput || cause.kind == .notConnected || cause.kind == .unsupported

namespace Acceptor

/-- Where the loop stands. -/
inductive Stage where
  | accepting
  /-- An accept has returned, and the loop is to look whether it has been asked to stop. -/
  | looking (accepted : Except IoError Nat)
  /-- A connection has been accepted and the limit is to be looked at. -/
  | judging (connection : Nat)
  /-- A connection is within the limit and its time limits are to be set. -/
  | preparing (connection : Nat)
  /-- A connection is counted and its thread is to be made. -/
  | spawning (connection : Nat)
  | stopped (result : Except Failure Unit)

/-- How a thread ends. -/
inductive Ending where
  | returned
  | panicked
  deriving DecidableEq, Repr

/-- What can happen. -/
inductive Event where
  | accepted (connection : Nat)
  | acceptFailed (cause : IoError)
  | looked
  | judged
  | prepared (possible : Bool)
  | spawned (possible : Bool)
  | ended (connection : Nat) (ending : Ending)
  | shutdownRequested
  deriving DecidableEq, Repr

/-- What becomes of a connection. -/
inductive Mark where
  /-- It was told that there are too many. -/
  | refused
  /-- Its time limits could not be set. -/
  | dropped
  /-- It was counted. -/
  | admitted
  /-- Its guard was dropped. -/
  | released
  deriving DecidableEq, Repr

end Acceptor

/-- The loop that takes connections in. -/
structure Acceptor where
  /-- The most live connections. -/
  limit : Nat
  /-- The counter of live connections, a machine word. -/
  active : UInt64
  /-- The connections whose guard has not been dropped. -/
  guards : List Nat
  /-- What has become of the connections so far. -/
  log : List (Nat × Acceptor.Mark)
  stopping : Bool
  stage : Acceptor.Stage

namespace Acceptor

/-- The loop at its start. -/
def start (limit : Nat) : Acceptor where
  limit := limit
  active := 0
  guards := []
  log := []
  stopping := false
  stage := .accepting

/-- Notes what has become of a connection. -/
def note (acceptor : Acceptor) (connection : Nat) (mark : Mark) : Acceptor :=
  { acceptor with log := acceptor.log ++ [(connection, mark)] }

/-- Counts a connection and makes its guard. -/
def enroll (acceptor : Acceptor) (connection : Nat) : Acceptor :=
  { acceptor.note connection .admitted with
    active := acceptor.active + 1
    guards := acceptor.guards ++ [connection] }

/-- Drops a connection's guard, which takes the connection off the count. -/
def release (acceptor : Acceptor) (connection : Nat) : Acceptor :=
  { acceptor.note connection .released with
    active := acceptor.active - 1
    guards := acceptor.guards.erase connection }

/-- Whether a connection's thread is running. -/
def isServing (acceptor : Acceptor) (connection : Nat) : Bool :=
  acceptor.guards.contains connection &&
    match acceptor.stage with
    | .spawning newest => newest ≠ connection
    | _ => true

/-- Where a loop that is not to stop goes on with what an accept has given. -/
def Stage.afterAccept : Except IoError Nat → Stage
  | .ok connection => .judging connection
  | .error cause => if cause.isFatal then .stopped (.error (.io cause)) else .accepting

/-- What an event changes. An event that does not fit the stage changes nothing. -/
def step (acceptor : Acceptor) (event : Event) : Acceptor :=
  match event, acceptor.stage with
  | .accepted connection, .accepting => { acceptor with stage := .looking (.ok connection) }
  | .acceptFailed cause, .accepting => { acceptor with stage := .looking (.error cause) }
  | .looked, .looking accepted =>
    { acceptor with
      stage := if acceptor.stopping then .stopped (.ok ()) else .afterAccept accepted }
  | .judged, .judging connection =>
    if acceptor.limit ≤ acceptor.active.toNat then
      { acceptor.note connection .refused with stage := .accepting }
    else { acceptor with stage := .preparing connection }
  | .prepared possible, .preparing connection =>
    if possible then { acceptor.enroll connection with stage := .spawning connection }
    else { acceptor.note connection .dropped with stage := .accepting }
  | .spawned possible, .spawning connection =>
    if possible then { acceptor with stage := .accepting }
    else { acceptor.release connection with stage := .accepting }
  | .ended connection _, _ =>
    if acceptor.isServing connection then acceptor.release connection else acceptor
  | .shutdownRequested, _ => { acceptor with stopping := true }
  | _, _ => acceptor

/-- What a sequence of events changes. -/
def run (acceptor : Acceptor) (events : List Event) : Acceptor :=
  events.foldl step acceptor

/-- A connection taken through the loop with nothing happening in between. -/
def offer (acceptor : Acceptor) (connection : Nat) : Acceptor :=
  acceptor.run [.accepted connection, .looked, .judged, .prepared true, .spawned true]

/-- How the loop ended, if it has. -/
def result? (acceptor : Acceptor) : Option (Except Failure Unit) :=
  match acceptor.stage with
  | .stopped result => some result
  | _ => none

end Acceptor

end LineProtocol
