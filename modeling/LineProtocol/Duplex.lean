import LineProtocol.Failure
import LineProtocol.Octets

/-!
# Duplex channels

A duplex channel has two ends, and what is written to one is read from the other, in order. Each
direction is a queue of chunks with a writer and a reader. The reader receives a chunk and reads it
piece by piece before it receives the next one; empty chunks are passed over. Once a writer has shut
down or dropped its end the reader drains the queue and then finds the end of file; once a reader
has dropped its end writes fail.
-/

set_option autoImplicit false

namespace LineProtocol

/-- One direction of a channel. -/
structure Lane where
  /-- The chunks written and not received yet. -/
  queue : List Bytes
  /-- The chunk that the reading end has received last. -/
  pending : Bytes
  /-- How much of that chunk has been read. -/
  position : Nat
  /-- Whether the writing end can still write. -/
  writerOpen : Bool
  /-- Whether the reading end is still there. -/
  readerOpen : Bool
  deriving DecidableEq, Repr

namespace Lane

/-- The lane between two fresh ends. -/
def fresh : Lane := ⟨[], [], 0, true, true⟩

/-- What is left of the chunk received last. -/
def rest (lane : Lane) : Bytes :=
  lane.pending.drop lane.position

/-- The octets written and not read. -/
def octets (lane : Lane) : Bytes :=
  lane.rest ++ lane.queue.flatten

/-- The lane without anything to read. -/
def emptied (lane : Lane) : Lane :=
  { lane with queue := [], pending := [], position := 0 }

/-- What a read of a lane gives. -/
inductive Taken where
  /-- Octets, or none at the end of file. -/
  | octets (taken : Bytes)
  /-- Nothing is there yet. -/
  | nothing
  deriving DecidableEq, Repr

/-- Receives chunks until one has something left to read, or until no more are there. Gives the
chunk received last, how much of it has been read and the chunks behind it. -/
def receive (pending : Bytes) (position : Nat) : List Bytes → Bytes × Nat × List Bytes
  | [] => (pending, position, [])
  | chunk :: later =>
    if position < pending.length then (pending, position, chunk :: later)
    else receive chunk 0 later

/-- The lane when its reader has received what it can read next. -/
def refilled (lane : Lane) : Lane :=
  let (pending, position, queue) := receive lane.pending lane.position lane.queue
  { lane with queue := queue, pending := pending, position := position }

/-- Reads at most `limit` octets, from one chunk. -/
def read (lane : Lane) (limit : Nat) : Taken × Lane :=
  let ready := lane.refilled
  if ready.position < ready.pending.length then
    let taken := ready.rest.take limit
    (.octets taken, { ready with position := ready.position + taken.length })
  else (if lane.writerOpen then .nothing else .octets [], ready)

/-- The failure of writing after one's own shutdown. -/
def shutDown : IoError := ⟨.brokenPipe, "write side shut down"⟩

/-- The failure of writing to an end that is gone. -/
def peerDropped : IoError := ⟨.brokenPipe, "peer dropped"⟩

/-- Writes a chunk. -/
def write (lane : Lane) (chunk : Bytes) : Except IoError Nat × Lane :=
  if !lane.writerOpen then (.error shutDown, lane)
  else if !lane.readerOpen then (.error peerDropped, lane)
  else (.ok chunk.length, { lane with queue := lane.queue ++ [chunk] })

end Lane

/-- The two ends. -/
inductive Side where
  | left
  | right
  deriving DecidableEq, Repr

/-- A pair of connected ends. -/
structure Duplex where
  /-- What the left end writes. -/
  fromLeft : Lane
  /-- What the right end writes. -/
  fromRight : Lane
  /-- Whether a read of the left end gives up when nothing is there. -/
  leftGivesUp : Bool
  /-- Whether a read of the right end gives up when nothing is there. -/
  rightGivesUp : Bool
  deriving DecidableEq, Repr

namespace Duplex

/-- A fresh pair, whose reads wait for ever. -/
def fresh : Duplex := ⟨.fresh, .fresh, false, false⟩

/-- The lane that a side writes. -/
def outgoing (duplex : Duplex) : Side → Lane
  | .left => duplex.fromLeft
  | .right => duplex.fromRight

/-- The lane that a side reads. -/
def incoming (duplex : Duplex) : Side → Lane
  | .left => duplex.fromRight
  | .right => duplex.fromLeft

/-- Whether a side's reads give up. -/
def givesUp (duplex : Duplex) : Side → Bool
  | .left => duplex.leftGivesUp
  | .right => duplex.rightGivesUp

/-- Replaces the lane that a side writes. -/
def withOutgoing (duplex : Duplex) (side : Side) (lane : Lane) : Duplex :=
  match side with
  | .left => { duplex with fromLeft := lane }
  | .right => { duplex with fromRight := lane }

/-- Replaces the lane that a side reads. -/
def withIncoming (duplex : Duplex) (side : Side) (lane : Lane) : Duplex :=
  match side with
  | .left => { duplex with fromRight := lane }
  | .right => { duplex with fromLeft := lane }

/-- The failure of a read that gives up. -/
def timedOut : IoError := ⟨.timedOut, "read timed out"⟩

/-- What an operation on a side comes to. A read without a time limit waits. -/
inductive Result (α : Type) where
  | done (value : α)
  | failed (cause : IoError)
  | waiting
  deriving Repr

/-- Writes a chunk and gives its length. -/
def write (duplex : Duplex) (side : Side) (chunk : Bytes) : Result Nat × Duplex :=
  match (duplex.outgoing side).write chunk with
  | (.ok count, lane) => (.done count, duplex.withOutgoing side lane)
  | (.error cause, lane) => (.failed cause, duplex.withOutgoing side lane)

/-- One read for at most `limit` octets. -/
def read (duplex : Duplex) (side : Side) (limit : Nat) : Result Bytes × Duplex :=
  match (duplex.incoming side).read limit with
  | (.octets taken, lane) => (.done taken, duplex.withIncoming side lane)
  | (.nothing, lane) =>
    (if duplex.givesUp side then .failed timedOut else .waiting, duplex.withIncoming side lane)

/-- Reads up to the end of file, and gives what was read and how the last read ended. -/
def readToEnd (duplex : Duplex) (side : Side) : Bytes × Result Unit × Duplex :=
  let lane := duplex.incoming side
  let drained := duplex.withIncoming side lane.emptied
  (lane.octets,
    if !lane.writerOpen then .done ()
    else if duplex.givesUp side then .failed timedOut
    else .waiting,
    drained)

/-- Stops writing; the other end finds the end of file once it has drained what was sent. -/
def shutdown (duplex : Duplex) (side : Side) : Duplex :=
  duplex.withOutgoing side { duplex.outgoing side with writerOpen := false }

/-- Makes reads give up, or wait for ever. -/
def setTimeout (duplex : Duplex) (side : Side) (givesUp : Bool) : Duplex :=
  match side with
  | .left => { duplex with leftGivesUp := givesUp }
  | .right => { duplex with rightGivesUp := givesUp }

/-- Drops an end: it writes no more, and nothing written to it is kept. -/
def drop (duplex : Duplex) (side : Side) : Duplex :=
  let stopped := duplex.shutdown side
  stopped.withIncoming side { (stopped.incoming side).emptied with readerOpen := false }

/-- What the other side of a connection in this process is called. -/
def label : String := "memory"

end Duplex

/-- The time limit of a setting in milliseconds; zero sets none. -/
def timeLimit? (milliseconds : Nat) : Option Nat :=
  if milliseconds = 0 then none else some milliseconds

end LineProtocol
