import LineProtocol.Failure
import LineProtocol.Octets

/-!
# Inlets

The reading half of a stream is what will arrive on it, in order: chunks of octets and failures of
single read calls. A read call takes at most as many octets as it asks for and never crosses from
one chunk into the next. An empty chunk is an end of file that one read call sees. After the last
arrival an inlet that has ended gives end of file for ever, and one that has not keeps its reader
waiting.
-/

set_option autoImplicit false

namespace LineProtocol

/-- What one read call, or several, will meet. -/
inductive Arrival where
  | chunk (octets : Bytes)
  | failure (cause : IoError)
  deriving DecidableEq, Repr

/-- The octets of an arrival. -/
def Arrival.octets : Arrival → Bytes
  | .chunk octets => octets
  | .failure _ => []

/-- The reading half of a stream. -/
structure Inlet where
  arrivals : List Arrival
  /-- Whether nothing follows the arrivals. -/
  ended : Bool
  deriving DecidableEq, Repr

/-- What one read call gives. -/
inductive Delivery where
  /-- Octets, or end of file if there are none. -/
  | octets (taken : Bytes)
  | failed (cause : IoError)
  /-- Nothing has arrived yet. -/
  | pending
  deriving DecidableEq, Repr

namespace Inlet

/-- The inlet on which nothing has arrived yet. -/
def quiet : Inlet := ⟨[], false⟩

/-- Chunks as they arrive from a channel, whose reader passes over empty ones. -/
def carried (chunks : List Bytes) : List Arrival :=
  (chunks.filter (!·.isEmpty)).map .chunk

/-- One read call for at most `limit` octets. -/
def read (inlet : Inlet) (limit : Nat) : Delivery × Inlet :=
  match inlet.arrivals with
  | [] => (if inlet.ended then .octets [] else .pending, inlet)
  | .failure cause :: later => (.failed cause, { inlet with arrivals := later })
  | .chunk octets :: later =>
    (.octets (octets.take limit),
      { inlet with
        arrivals := if octets.length ≤ limit then later else .chunk (octets.drop limit) :: later })

/-- The octets that no read call has taken. -/
def unread (inlet : Inlet) : Bytes :=
  inlet.arrivals.flatMap Arrival.octets

/-- The inlet after more has arrived. -/
def push (inlet : Inlet) (arrivals : List Arrival) : Inlet :=
  { inlet with arrivals := inlet.arrivals ++ arrivals }

/-- The inlet once its writer is gone. -/
def finish (inlet : Inlet) : Inlet :=
  { inlet with ended := true }

/-- How much arrivals weigh: their octets and one for each of them. -/
def weightOf : List Arrival → Nat
  | [] => 0
  | arrival :: later => arrival.octets.length + 1 + weightOf later

/-- How much is left to read. -/
def weight (inlet : Inlet) : Nat :=
  weightOf inlet.arrivals

/-- Octets taken weigh what they weighed before, at least. -/
theorem weight_of_read_octets {inlet rest : Inlet} {limit : Nat} {taken : Bytes}
    (h : inlet.read limit = (.octets taken, rest)) :
    taken.length + rest.weight ≤ inlet.weight := by
  obtain ⟨arrivals, ended⟩ := inlet
  cases arrivals with
  | nil =>
    cases ended
    · simp [read] at h
    · simp only [read, ↓reduceIte, Prod.mk.injEq, Delivery.octets.injEq] at h
      obtain ⟨rfl, rfl⟩ := h
      exact Nat.le_refl _
  | cons arrival later =>
    cases arrival with
    | failure cause => simp [read] at h
    | chunk octets =>
      simp only [read, Prod.mk.injEq, Delivery.octets.injEq] at h
      obtain ⟨rfl, rfl⟩ := h
      split
      · simp only [weight, weightOf, Arrival.octets, List.length_take]
        omega
      · simp only [weight, weightOf, Arrival.octets, List.length_take, List.length_drop]
        omega

/-- A failed call leaves less to read. -/
theorem weight_of_read_failed {inlet rest : Inlet} {limit : Nat} {cause : IoError}
    (h : inlet.read limit = (.failed cause, rest)) : rest.weight < inlet.weight := by
  obtain ⟨arrivals, ended⟩ := inlet
  cases arrivals with
  | nil => cases ended <;> simp [read] at h
  | cons arrival later =>
    cases arrival with
    | chunk octets => simp [read] at h
    | failure failed =>
      simp only [read, Prod.mk.injEq] at h
      obtain ⟨-, rfl⟩ := h
      exact Nat.lt_add_of_pos_left (Nat.succ_pos _)

/-- A call that finds nothing changes nothing. -/
theorem eq_of_read_pending {inlet rest : Inlet} {limit : Nat}
    (h : inlet.read limit = (.pending, rest)) : rest = inlet := by
  obtain ⟨arrivals, ended⟩ := inlet
  cases arrivals with
  | nil => cases ended <;> simp_all [read]
  | cons arrival later => cases arrival <;> simp [read] at h

end Inlet

end LineProtocol
