import LineProtocol.Failure
import LineProtocol.Octets

/-!
# Outlets

The writing half of a stream is what it has taken so far and what it will do to the calls to come.
A write call takes at most `cap` octets; once `room` octets more have been taken every call is
refused, or takes nothing if no refusal is given; a call can also be interrupted, and then the
same call is made again. A flush can fail, in a way of its own.

`Outlet.writeAll` writes octets call by call until they are gone. It fails with the refusal, or
because a call took nothing, and the octets taken before that stay written.
-/

set_option autoImplicit false

namespace LineProtocol

/-- The writing half of a stream. -/
structure Outlet where
  /-- What each write call took, the latest last. -/
  written : List Bytes
  /-- The most octets a call takes; no bound if there is none. -/
  cap : Option Nat
  /-- The octets that will be taken before calls are refused. -/
  room : Option Nat
  /-- How a call without room fails; without it the call takes nothing. Such a failure ends the
  writing, so it is not meant to be of the kind `interrupted`. -/
  refusal : Option IoError
  /-- For each interruption to come, how many write calls go before it. -/
  interruptions : List Nat
  /-- How many flushes go before the one that fails, and how that one does. -/
  flushFailure : Option (Nat × IoError)
  deriving DecidableEq, Repr

/-- What one write call does. -/
inductive Taking where
  | took (count : Nat)
  | interrupted
  | refused (cause : IoError)
  deriving DecidableEq, Repr

namespace Outlet

/-- The outlet that takes everything and has taken nothing. -/
def fresh : Outlet := ⟨[], none, none, none, [], none⟩

/-- The octets taken so far. -/
def octets (outlet : Outlet) : Bytes :=
  outlet.written.flatten

/-- The outlet after what it took has been carried away. -/
def emptied (outlet : Outlet) : Outlet :=
  { outlet with written := [] }

/-- The outlet once its reader is gone: every call fails in the given way. -/
def broken (outlet : Outlet) (cause : IoError) : Outlet :=
  { outlet with room := some 0, refusal := some cause }

/-- The interruptions to come after one more call that is not interrupted. -/
def countDown : List Nat → List Nat
  | [] => []
  | calls :: later => (calls - 1) :: later

/-- How many of `length` octets a call takes. -/
def share (outlet : Outlet) (length : Nat) : Nat :=
  min (outlet.room.elim length (min length)) (outlet.cap.getD length)

/-- One write call that is not interrupted. -/
def accept (outlet : Outlet) (octets : Bytes) : Taking × Outlet :=
  match outlet.room, outlet.refusal with
  | some 0, some cause => (.refused cause, outlet)
  | room, _ =>
    let count := outlet.share octets.length
    (.took count,
      { outlet with
        written := if count = 0 then outlet.written else outlet.written ++ [octets.take count]
        room := room.map (· - count) })

/-- One write call. -/
def write (outlet : Outlet) (octets : Bytes) : Taking × Outlet :=
  match outlet.interruptions with
  | 0 :: later => (.interrupted, { outlet with interruptions := later })
  | pending => { outlet with interruptions := countDown pending }.accept octets

/-- The failure of a write call that takes nothing. -/
def writeZero : IoError := ⟨.writeZero, "failed to write whole buffer"⟩

/-- How the flush that is to fail does. -/
def flushCause? (outlet : Outlet) : Option IoError :=
  outlet.flushFailure.map (·.2)

theorem flushCause?_eq_none_iff {outlet : Outlet} :
    outlet.flushCause? = none ↔ outlet.flushFailure = none :=
  Option.map_eq_none_iff

theorem length_countDown (calls : List Nat) : (countDown calls).length = calls.length := by
  cases calls <;> rfl

theorem interruptions_accept (outlet : Outlet) (octets : Bytes) :
    (outlet.accept octets).2.interruptions = outlet.interruptions := by
  unfold accept
  split <;> rfl

/-- An interrupted call leaves fewer interruptions to come. -/
theorem interruptions_of_interrupted {outlet later : Outlet} {octets : Bytes}
    (h : outlet.write octets = (.interrupted, later)) :
    later.interruptions.length < outlet.interruptions.length := by
  unfold write at h
  split at h
  case h_1 pending heq =>
    simp only [Prod.mk.injEq, true_and] at h
    subst h
    simp [heq]
  case h_2 =>
    simp only [accept] at h
    split at h <;> simp at h

/-- Any other call leaves as many interruptions to come as before. -/
theorem interruptions_of_took {outlet later : Outlet} {octets : Bytes} {count : Nat}
    (h : outlet.write octets = (.took count, later)) :
    later.interruptions.length = outlet.interruptions.length := by
  unfold write at h
  split at h
  case h_1 => simp at h
  case h_2 =>
    have := congrArg (fun result ↦ result.2.interruptions) h
    simp only [interruptions_accept] at this
    rw [← this, length_countDown]

/-- Writes all of the octets. An interruption is tried again, a refusal is not: it ends the writing
even if it is of the kind `interrupted`, where a writer that went by the kind would try for ever. -/
def writeAll (outlet : Outlet) : Bytes → Except IoError Unit × Outlet
  | [] => (.ok (), outlet)
  | octet :: rest =>
    match _ : outlet.write (octet :: rest) with
    | (.interrupted, outlet') => outlet'.writeAll (octet :: rest)
    | (.refused cause, outlet') => (.error cause, outlet')
    | (.took 0, outlet') => (.error writeZero, outlet')
    | (.took (count + 1), outlet') => outlet'.writeAll (rest.drop count)
termination_by octets => octets.length + outlet.interruptions.length
decreasing_by
  · exact Nat.add_lt_add_left (interruptions_of_interrupted ‹_›) _
  · have hcalls := interruptions_of_took ‹_›
    simp only [List.length_drop, List.length_cons]
    omega

/-- One flush. -/
def flush (outlet : Outlet) : Except IoError Unit × Outlet :=
  match outlet.flushFailure with
  | some (0, cause) => (.error cause, { outlet with flushFailure := none })
  | some (calls + 1, cause) => (.ok (), { outlet with flushFailure := some (calls, cause) })
  | none => (.ok (), outlet)

end Outlet

end LineProtocol
