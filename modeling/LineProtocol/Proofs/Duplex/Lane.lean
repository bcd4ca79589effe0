import Mathlib.Tactic.SplitIfs
import LineProtocol.Duplex

/-!
# One direction of a duplex channel

A read takes octets off the front of what was written to a lane and not read
(`Lane.read_conserves`), however the octets are cut into chunks and however large its buffer is. It
takes at least one if there is one (`Lane.read_of_ne_nil`); otherwise the writer decides whether it
waits (`Lane.read_of_nil`). A read receives chunks one at a time, and a read that has received one
goes on as if it had not begun (`Lane.read_received`).
-/

set_option autoImplicit false

namespace LineProtocol

namespace Lane

/-- The octets that a read gives. -/
def Taken.given : Taken → Bytes
  | .octets taken => taken
  | .nothing => []

theorem receive_octets (pending : Bytes) (position : Nat) (queue : List Bytes) :
    let received := receive pending position queue
    received.1.drop received.2.1 ++ received.2.2.flatten =
      pending.drop position ++ queue.flatten := by
  induction queue generalizing pending position with
  | nil => rfl
  | cons chunk later ih =>
    rw [receive]
    split_ifs with hleft
    · rfl
    · have hread : pending.drop position = [] := List.drop_eq_nil_iff.2 (Nat.le_of_not_lt hleft)
      simp only [ih chunk 0, hread, List.drop_zero, List.flatten_cons, List.nil_append]

/-- A chunk that is received and has nothing left is the last one. -/
theorem receive_queue (pending : Bytes) (position : Nat) (queue : List Bytes) :
    let received := receive pending position queue
    received.1.length ≤ received.2.1 → received.2.2 = [] := by
  induction queue generalizing pending position with
  | nil => exact fun _ ↦ rfl
  | cons chunk later ih =>
    rw [receive]
    split_ifs with hleft
    · exact fun hread ↦ absurd hleft (Nat.not_lt.2 hread)
    · exact ih chunk 0

variable (lane : Lane) (limit : Nat)

theorem octets_refilled : lane.refilled.octets = lane.octets :=
  receive_octets lane.pending lane.position lane.queue

theorem octets_refilled_eq_nil_iff :
    lane.octets = [] ↔ lane.refilled.pending.length ≤ lane.refilled.position := by
  have hqueue : lane.refilled.pending.length ≤ lane.refilled.position →
      lane.refilled.queue = [] := receive_queue lane.pending lane.position lane.queue
  rw [← octets_refilled]
  constructor
  · intro hnone
    exact List.drop_eq_nil_iff.1 (List.append_eq_nil_iff.1 hnone).1
  · intro hread
    rw [octets, rest, hqueue hread, List.drop_eq_nil_iff.2 hread]
    rfl

/-- Without octets a read gives none, or has to wait for a writer that is still there. -/
theorem read_of_nil (h : lane.octets = []) :
    lane.read limit =
      (if lane.writerOpen then .nothing else .octets [], lane.refilled) := by
  rw [octets_refilled_eq_nil_iff] at h
  exact if_neg (Nat.not_lt.2 h)

/-- A read takes octets off the front, at least one if there is room for it. -/
theorem read_of_ne_nil (h : lane.octets ≠ []) :
    ∃ taken next, lane.read limit = (.octets taken, next) ∧ lane.octets = taken ++ next.octets ∧
      taken.length ≤ limit ∧ (0 < limit → taken ≠ []) := by
  rw [Ne, octets_refilled_eq_nil_iff, Nat.not_le] at h
  refine ⟨lane.refilled.rest.take limit, _, if_pos h, ?_, List.length_take_le _ _, ?_⟩
  · have hsplit : lane.refilled.pending.drop
        (lane.refilled.position + (lane.refilled.rest.take limit).length) =
          lane.refilled.rest.drop limit := by
      rw [← List.drop_drop, ← rest, List.length_take, List.drop_eq_drop_iff]
      omega
    calc lane.octets = lane.refilled.rest ++ lane.refilled.queue.flatten := by
          rw [← octets_refilled, octets]
      _ = lane.refilled.rest.take limit ++
          (lane.refilled.rest.drop limit ++ lane.refilled.queue.flatten) := by
        rw [← List.append_assoc, List.take_append_drop]
      _ = _ := by rw [← hsplit]; rfl
  · intro hlimit hnone
    rw [List.take_eq_nil_iff, rest, List.drop_eq_nil_iff] at hnone
    omega

/-- A read loses nothing and invents nothing. -/
theorem read_conserves :
    lane.octets = (lane.read limit).1.given ++ (lane.read limit).2.octets := by
  by_cases hnone : lane.octets = []
  · rw [read_of_nil lane limit hnone]
    simp only [octets_refilled, hnone]
    split <;> rfl
  · obtain ⟨taken, next, hread, hsplit, -⟩ := lane.read_of_ne_nil limit hnone
    rw [hread]
    exact hsplit

@[simp]
theorem read_writerOpen : (lane.read limit).2.writerOpen = lane.writerOpen := by
  unfold read
  dsimp only
  split <;> rfl

@[simp]
theorem read_readerOpen : (lane.read limit).2.readerOpen = lane.readerOpen := by
  unfold read
  dsimp only
  split <;> rfl

/-- The lane when its reader has received one chunk, if nothing is left of the one before. -/
def received : Lane :=
  if lane.position < lane.pending.length then lane
  else match lane.queue with
    | [] => lane
    | chunk :: later => { lane with queue := later, pending := chunk, position := 0 }

theorem refilled_received : lane.received.refilled = lane.refilled := by
  obtain ⟨queue, pending, position, writerOpen, readerOpen⟩ := lane
  rw [received]
  split_ifs with hleft
  · rfl
  · cases queue with
    | nil => rfl
    | cons chunk later =>
      have hreceive : receive pending position (chunk :: later) = receive chunk 0 later :=
        if_neg hleft
      simp only [refilled, hreceive]

@[simp]
theorem received_writerOpen : lane.received.writerOpen = lane.writerOpen := by
  unfold received
  split
  · rfl
  · split <;> rfl

@[simp]
theorem received_readerOpen : lane.received.readerOpen = lane.readerOpen := by
  unfold received
  split
  · rfl
  · split <;> rfl

theorem octets_received : lane.received.octets = lane.octets := by
  rw [← octets_refilled, refilled_received, octets_refilled]

theorem read_received : lane.received.read limit = lane.read limit := by
  simp only [read, refilled_received, received_writerOpen]

variable (chunk : Bytes)

@[simp]
theorem write_writerOpen : (lane.write chunk).2.writerOpen = lane.writerOpen := by
  unfold write
  split_ifs <;> rfl

@[simp]
theorem write_readerOpen : (lane.write chunk).2.readerOpen = lane.readerOpen := by
  unfold write
  split_ifs <;> rfl

/-- A write fails if one of the ends is closed, and then it changes nothing. -/
theorem write_of_closed (h : lane.writerOpen = false ∨ lane.readerOpen = false) :
    ∃ cause, cause.kind = .brokenPipe ∧ lane.write chunk = (.error cause, lane) := by
  by_cases hwriter : lane.writerOpen
  · have hreader : lane.readerOpen = false := h.resolve_left (by simp [hwriter])
    exact ⟨peerDropped, rfl, by simp [write, hwriter, hreader]⟩
  · exact ⟨shutDown, rfl, by simp [write, hwriter]⟩

theorem write_of_open (hwriter : lane.writerOpen = true) (hreader : lane.readerOpen = true) :
    lane.write chunk = (.ok chunk.length, { lane with queue := lane.queue ++ [chunk] }) := by
  simp [write, hwriter, hreader]

end Lane

end LineProtocol
