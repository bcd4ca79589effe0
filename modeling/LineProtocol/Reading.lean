import LineProtocol.Line
import LineProtocol.Stream.Inlet

/-!
# Reading lines

A `LineReader` keeps the octets that have come off its inlet and belong to no line read yet. It
first looks for a line end among them, then refuses to collect more than a line may hold, and only
then makes another read call. Once the stream has reported its end the reader makes no further
call; what is left then is a last line, as it stands.

Reading can find a line, fail, or have to wait. A reader that waits has kept everything it read,
so the same call can be made again when more has arrived.
-/

set_option autoImplicit false

namespace LineProtocol

/-- What an attempt to read gave. -/
inductive Reading (α : Type) where
  | value (found : α)
  | error (cause : Failure)
  /-- More has to arrive first. -/
  | waiting
  deriving DecidableEq, Repr

/-- A reading that does not wait. -/
def Reading.ofExcept {α : Type} : Except Failure α → Reading α
  | .ok found => .value found
  | .error cause => .error cause

/-- The reading half of a connection. -/
structure LineReader where
  /-- Octets taken from the inlet that belong to no line read yet. -/
  buffer : Bytes
  /-- Whether the inlet has reported its end. -/
  atEnd : Bool
  inlet : Inlet
  deriving DecidableEq, Repr

namespace LineReader

/-- The most octets asked for in one read call. -/
def readLength : Nat := 1024

/-- The reader at the start of a stream. -/
def ofInlet (inlet : Inlet) : LineReader := ⟨[], false, inlet⟩

/-- What the buffer holds. -/
inductive Cut where
  /-- A line without its line end, and what follows it. -/
  | line (raw rest : Bytes)
  /-- More than a line may have, by the given length. -/
  | overlong (length : Nat)
  /-- The beginning of a line. -/
  | unfinished
  deriving DecidableEq, Repr

/-- The line without one carriage return at its end. -/
def dropReturn (raw : Bytes) : Bytes :=
  if raw.getLast? = some Octet.cr then raw.dropLast else raw

/-- Looks for the first line of a buffer. -/
def cut (buffer : Bytes) : Cut :=
  let raw := buffer.takeWhile (· ≠ Octet.lf)
  match buffer.dropWhile (· ≠ Octet.lf) with
  | _ :: rest =>
    if Line.maxLength < raw.length + 1 then .overlong (raw.length + 1)
    else .line (dropReturn raw) rest
  | [] =>
    if Line.maxLength ≤ raw.length then .overlong (raw.length + 1) else .unfinished

/-- What is left to read, taken octets included. -/
def weight (reader : LineReader) : Nat :=
  reader.buffer.length + reader.inlet.weight

/-- What remains when no more will come: a last line, or nothing. -/
def last (reader : LineReader) : Reading (Option Bytes) × LineReader :=
  if reader.buffer.isEmpty then (.value none, reader)
  else (.value (some reader.buffer), { reader with buffer := [] })

/-- The next line without its line end, or nothing at the end of the stream. -/
def nextRaw (reader : LineReader) : Reading (Option Bytes) × LineReader :=
  match cut reader.buffer with
  | .line raw rest => (.value (some raw), { reader with buffer := rest })
  | .overlong length => (.error (.lineTooLong length Line.maxLength), reader)
  | .unfinished =>
    if reader.atEnd then reader.last
    else
      match _ : reader.inlet.read readLength with
      | (.octets [], inlet) => { reader with atEnd := true, inlet := inlet }.last
      | (.octets (octet :: octets), inlet) =>
        nextRaw { reader with buffer := reader.buffer ++ octet :: octets, inlet := inlet }
      | (.failed cause, inlet) =>
        if cause.kind = .interrupted then nextRaw { reader with inlet := inlet }
        else (.error (.io cause), { reader with inlet := inlet })
      | (.pending, inlet) => (.waiting, { reader with inlet := inlet })
termination_by reader.inlet.weight
decreasing_by
  · have hweight := Inlet.weight_of_read_octets ‹_›
    rw [List.length_cons] at hweight
    exact Nat.lt_of_lt_of_le (by omega) hweight
  · exact Inlet.weight_of_read_failed ‹_›

theorem length_cut_rest {buffer raw rest : Bytes} (h : cut buffer = .line raw rest) :
    rest.length < buffer.length := by
  have hsplit := congrArg List.length
    (List.takeWhile_append_dropWhile (p := fun octet ↦ decide (octet ≠ Octet.lf)) (l := buffer))
  simp only [cut] at h
  split at h
  case h_1 feed after heq =>
    split at h
    · simp at h
    · simp only [Cut.line.injEq] at h
      obtain ⟨-, rfl⟩ := h
      rw [heq, List.length_append, List.length_cons] at hsplit
      omega
  case h_2 => split at h <;> simp at h

theorem weight_last_le (reader : LineReader) : reader.last.2.weight ≤ reader.weight := by
  unfold last
  split <;> simp [weight]

/-- Reading never adds to what is left to read. -/
theorem weight_nextRaw_le (reader : LineReader) : reader.nextRaw.2.weight ≤ reader.weight := by
  fun_induction nextRaw reader with
  | case1 reader raw rest hcut =>
    have := length_cut_rest hcut
    simp only [weight]
    omega
  | case2 => exact Nat.le_refl _
  | case3 reader => exact weight_last_le reader
  | case4 reader hcut hend inlet hread =>
    refine Nat.le_trans (weight_last_le _) ?_
    have := Inlet.weight_of_read_octets hread
    simp only [weight]
    omega
  | case5 reader hcut hend octet octets inlet hread ih =>
    refine Nat.le_trans ih ?_
    have := Inlet.weight_of_read_octets hread
    simp only [weight, List.length_append]
    omega
  | case6 reader hcut hend cause inlet hread hkind ih =>
    refine Nat.le_trans ih ?_
    have := Inlet.weight_of_read_failed hread
    simp only [weight]
    omega
  | case7 reader hcut hend cause inlet hread hkind =>
    have := Inlet.weight_of_read_failed hread
    simp only [weight]
    omega
  | case8 reader hcut hend inlet hread =>
    obtain rfl := Inlet.eq_of_read_pending hread
    exact Nat.le_refl _

/-- A line read leaves less to read. -/
theorem weight_nextRaw_lt {reader rest : LineReader} {raw : Bytes}
    (h : reader.nextRaw = (.value (some raw), rest)) : rest.weight < reader.weight := by
  have last_lt : ∀ {before : LineReader}, before.last = (.value (some raw), rest) →
      rest.weight < before.weight := by
    intro before hlast
    unfold last at hlast
    split at hlast
    · simp at hlast
    · next hbuffer =>
      simp only [Prod.mk.injEq] at hlast
      obtain ⟨-, rfl⟩ := hlast
      have : before.buffer ≠ [] := by simpa using hbuffer
      have := List.length_pos_iff.2 this
      simp only [weight, List.length_nil]
      omega
  fun_induction nextRaw reader with
  | case1 reader raw' rest' hcut =>
    simp only [Prod.mk.injEq] at h
    obtain ⟨-, rfl⟩ := h
    have := length_cut_rest hcut
    simp only [weight]
    omega
  | case2 => simp at h
  | case3 reader => exact last_lt h
  | case4 reader hcut hend inlet hread =>
    refine Nat.lt_of_lt_of_le (last_lt h) ?_
    have := Inlet.weight_of_read_octets hread
    simp only [weight]
    omega
  | case5 reader hcut hend octet octets inlet hread ih =>
    refine Nat.lt_of_lt_of_le (ih h) ?_
    have := Inlet.weight_of_read_octets hread
    simp only [weight, List.length_append]
    omega
  | case6 reader hcut hend cause inlet hread hkind ih =>
    refine Nat.lt_of_lt_of_le (ih h) ?_
    have := Inlet.weight_of_read_failed hread
    simp only [weight]
    omega
  | case7 => simp at h
  | case8 => simp at h

/-- The next line that does not only inform. The end of the stream is a failure. -/
def readLine (reader : LineReader) : Reading Line × LineReader :=
  match _ : reader.nextRaw with
  | (.value none, rest) => (.error .closed, rest)
  | (.value (some raw), rest) =>
    if Line.isInformational raw then rest.readLine
    else (.ofExcept (Line.parse raw), rest)
  | (.error cause, rest) => (.error cause, rest)
  | (.waiting, rest) => (.waiting, rest)
termination_by reader.weight
decreasing_by exact weight_nextRaw_lt ‹_›

/-- Reading a line never adds to what is left to read. -/
theorem weight_readLine_le (reader : LineReader) : reader.readLine.2.weight ≤ reader.weight := by
  have step : ∀ {before rest : LineReader} {found : Reading (Option Bytes)},
      before.nextRaw = (found, rest) → rest.weight ≤ before.weight := by
    intro before rest found h
    have := weight_nextRaw_le before
    rwa [h] at this
  fun_induction readLine reader with
  | case1 reader rest h => exact step h
  | case2 reader raw rest h hskip ih => exact Nat.le_trans ih (step h)
  | case3 reader raw rest h => exact step h
  | case4 reader cause rest h => exact step h
  | case5 reader rest h => exact step h

/-- A line read leaves less to read. -/
theorem weight_readLine_lt {reader rest : LineReader} {line : Line}
    (h : reader.readLine = (.value line, rest)) : rest.weight < reader.weight := by
  fun_induction readLine reader with
  | case1 => simp at h
  | case2 reader raw next hraw hskip ih => exact Nat.lt_trans (ih h) (weight_nextRaw_lt hraw)
  | case3 reader raw next hraw =>
    simp only [Prod.mk.injEq] at h
    rw [← h.2]
    exact weight_nextRaw_lt hraw
  | case4 => simp at h
  | case5 => simp at h

end LineReader

end LineProtocol
