import LineProtocol.Proofs.Line.Framing
import LineProtocol.Reading
import Mathlib.Data.List.TakeWhile

/-!
# What a byte stream says

The lines of a byte stream that ends are fixed by its octets alone. `ByteStream.segment` looks at
the next thousand octets: a line feed among them ends a line, and one carriage return before it
goes too; without one the line is overlong, unless the stream ends first, and then what is left is
a last line as it stands. `ByteStream.reading` skips the lines that only inform and reads the
first other one, and `ByteStream.readings` goes on from there. An overlong line is never passed:
it is what every further reading finds.

`segment_of_cut_line`, `segment_of_cut_overlong` and `segment_of_cut_unfinished` compare this with
what a buffer shows that holds only the beginning of the stream.
-/

set_option autoImplicit false

namespace LineProtocol

/-- The reading without the length of an overlong line, which is the length of a buffer. -/
def Reading.forgetLength {α : Type} : Reading α → Reading α
  | .error (.lineTooLong _ limit) => .error (.lineTooLong 0 limit)
  | reading => reading

/-- Whether the reading is a failure of the stream. -/
def Reading.isStreamFailure {α : Type} : Reading α → Bool
  | .error (.io _) => true
  | _ => false

/-- A reading that is neither a failure of the stream nor an overlong line. -/
def Reading.IsPlain {α : Type} : Reading α → Prop
  | .error (.io _) => False
  | .error (.lineTooLong _ _) => False
  | _ => True

theorem Reading.IsPlain.isStreamFailure {α : Type} {reading : Reading α} (h : reading.IsPlain) :
    reading.isStreamFailure = false := by
  unfold Reading.isStreamFailure
  split
  · exact h.elim
  · rfl

theorem Reading.IsPlain.forgetLength {α : Type} {reading : Reading α} (h : reading.IsPlain) :
    reading.forgetLength = reading := by
  unfold Reading.forgetLength
  split
  · exact h.elim
  · rfl

namespace ByteStream

/-- What a byte stream starts with. -/
inductive Segment where
  /-- A line without its line end, and what follows it. -/
  | line (raw rest : Bytes)
  | overlong
  | nothing

/-- The first segment of a byte stream. -/
def segment (octets : Bytes) : Segment :=
  if Octet.lf ∈ octets.take Line.maxLength then
    .line (LineReader.dropReturn (octets.takeWhile (· ≠ Octet.lf)))
      (octets.dropWhile (· ≠ Octet.lf)).tail
  else if Line.maxLength ≤ octets.length then .overlong
  else if octets.isEmpty then .nothing
  else .line octets []

theorem length_segment_rest {octets raw rest : Bytes} (h : segment octets = .line raw rest) :
    rest.length < octets.length := by
  unfold segment at h
  split at h
  case isTrue hmem =>
    simp only [Segment.line.injEq] at h
    obtain ⟨-, rfl⟩ := h
    have hdrop : octets.dropWhile (· ≠ Octet.lf) ≠ [] := by
      rw [Ne, List.dropWhile_eq_nil_iff]
      intro hall
      simpa using hall _ (List.mem_of_mem_take hmem)
    have hle := List.length_dropWhile_le (fun octet ↦ decide (octet ≠ Octet.lf)) octets
    have hpos := List.length_pos_iff.2 hdrop
    rw [List.length_tail]
    omega
  case isFalse =>
    split at h
    · simp at h
    split at h
    · simp at h
    case isFalse hempty =>
      simp only [Segment.line.injEq] at h
      obtain ⟨-, rfl⟩ := h
      exact List.length_pos_iff.2 (by simpa using hempty)

/-- The first line that does not only inform, or why there is none, and what is left. -/
def reading (octets : Bytes) : Reading Line × Bytes :=
  match _ : segment octets with
  | .nothing => (.error .closed, octets)
  | .overlong => (.error (.lineTooLong 0 Line.maxLength), octets)
  | .line raw rest =>
    if Line.isInformational raw then reading rest else (.ofExcept (Line.parse raw), rest)
termination_by octets.length
decreasing_by exact length_segment_rest ‹_›

/-- The results of reading again and again. -/
def readings : Nat → Bytes → List (Reading Line)
  | 0, _ => []
  | count + 1, octets => (reading octets).1 :: readings count (reading octets).2

theorem reading_of_nothing {octets : Bytes} (h : segment octets = .nothing) :
    reading octets = (.error .closed, octets) := by
  rw [reading, h]

theorem reading_of_overlong {octets : Bytes} (h : segment octets = .overlong) :
    reading octets = (.error (.lineTooLong 0 Line.maxLength), octets) := by
  rw [reading, h]

theorem reading_of_skipped {octets raw rest : Bytes} (h : segment octets = .line raw rest)
    (hskip : Line.isInformational raw = true) : reading octets = reading rest := by
  rw [reading, h]
  simp only [hskip, if_true]

theorem reading_of_line {octets raw rest : Bytes} (h : segment octets = .line raw rest)
    (hkeep : Line.isInformational raw = false) :
    reading octets = (.ofExcept (Line.parse raw), rest) := by
  rw [reading, h]
  simp only [hkeep, Bool.false_eq_true, if_false]

/-! ### A buffer with the beginning of the stream -/

/-- A line feed is among the first octets exactly if the octets before it leave room for it. -/
theorem lf_mem_take_iff {raw rest : Bytes} {limit : Nat} (hraw : Octet.lf ∉ raw) :
    Octet.lf ∈ (raw ++ Octet.lf :: rest).take limit ↔ raw.length + 1 ≤ limit := by
  constructor
  · intro hmem
    by_contra hlimit
    rw [List.take_append_of_le_length (by omega)] at hmem
    exact hraw (List.mem_of_mem_take hmem)
  · intro hlimit
    rw [List.take_append, List.take_of_length_le (by omega),
      show limit - raw.length = limit - raw.length - 1 + 1 by omega, List.take_succ_cons]
    exact List.mem_append_right _ List.mem_cons_self

theorem segment_of_line {raw : Bytes} (rest : Bytes) (hraw : Octet.lf ∉ raw)
    (hlength : raw.length + 1 ≤ Line.maxLength) :
    segment (raw ++ Octet.lf :: rest) = .line (LineReader.dropReturn raw) rest := by
  have hplain : ∀ octet ∈ raw, (decide (octet ≠ Octet.lf)) = true :=
    fun octet hmem ↦ decide_eq_true fun h ↦ hraw (h ▸ hmem)
  rw [segment, if_pos ((lf_mem_take_iff hraw).2 hlength), List.takeWhile_append_of_pos hplain,
    List.dropWhile_append_of_pos hplain]
  simp

theorem segment_of_overlong {raw : Bytes} (rest : Bytes) (hraw : Octet.lf ∉ raw)
    (hlength : Line.maxLength < raw.length + 1) :
    segment (raw ++ Octet.lf :: rest) = .overlong := by
  rw [segment, if_neg fun hmem ↦ absurd ((lf_mem_take_iff hraw).1 hmem) (Nat.not_le.2 hlength),
    if_pos]
  rw [List.length_append, List.length_cons]
  omega

/-- A buffer is its octets before the first line feed and what follows them. -/
theorem split_at_lf (buffer : Bytes) :
    (∃ raw rest, Octet.lf ∉ raw ∧ buffer = raw ++ Octet.lf :: rest) ∨ Octet.lf ∉ buffer := by
  by_cases hmem : Octet.lf ∈ buffer
  · obtain ⟨raw, rest, hsplit, hraw⟩ := List.eq_append_cons_of_mem hmem
    exact .inl ⟨raw, rest, hraw, hsplit⟩
  · exact .inr hmem

theorem cut_of_lf {raw rest : Bytes} (hraw : Octet.lf ∉ raw) :
    LineReader.cut (raw ++ Octet.lf :: rest) =
      if Line.maxLength < raw.length + 1 then .overlong (raw.length + 1)
      else .line (LineReader.dropReturn raw) rest := by
  have hplain : ∀ octet ∈ raw, (decide (octet ≠ Octet.lf)) = true :=
    fun octet hmem ↦ decide_eq_true fun h ↦ hraw (h ▸ hmem)
  rw [LineReader.cut, List.takeWhile_append_of_pos hplain, List.dropWhile_append_of_pos hplain]
  simp

theorem cut_of_no_lf {buffer : Bytes} (hbuffer : Octet.lf ∉ buffer) :
    LineReader.cut buffer =
      if Line.maxLength ≤ buffer.length then .overlong (buffer.length + 1) else .unfinished := by
  have hplain : ∀ octet ∈ buffer, (decide (octet ≠ Octet.lf)) = true :=
    fun octet hmem ↦ decide_eq_true fun h ↦ hbuffer (h ▸ hmem)
  rw [LineReader.cut, List.takeWhile_eq_self_iff.2 hplain, List.dropWhile_eq_nil_iff.2 hplain]

/-- A line that the buffer shows is the first of the stream, whatever follows. -/
theorem segment_of_cut_line {buffer raw rest : Bytes} (more : Bytes)
    (h : LineReader.cut buffer = .line raw rest) :
    segment (buffer ++ more) = .line raw (rest ++ more) := by
  rcases split_at_lf buffer with ⟨before, after, hbefore, rfl⟩ | hbuffer
  · rw [cut_of_lf hbefore] at h
    split at h
    · simp at h
    case isFalse hlength =>
      simp only [LineReader.Cut.line.injEq] at h
      obtain ⟨rfl, rfl⟩ := h
      rw [List.append_assoc, List.cons_append, segment_of_line _ hbefore (by omega)]
  · rw [cut_of_no_lf hbuffer] at h
    split at h <;> simp at h

/-- A buffer that is overlong shows an overlong line, whatever follows. -/
theorem segment_of_cut_overlong {buffer : Bytes} {length : Nat} (more : Bytes)
    (h : LineReader.cut buffer = .overlong length) :
    segment (buffer ++ more) = .overlong := by
  rcases split_at_lf buffer with ⟨before, after, hbefore, rfl⟩ | hbuffer
  · rw [cut_of_lf hbefore] at h
    split at h
    case isFalse => simp at h
    case isTrue hlength =>
      rw [List.append_assoc, List.cons_append, segment_of_overlong _ hbefore hlength]
  · rw [cut_of_no_lf hbuffer] at h
    split at h
    case isFalse => simp at h
    case isTrue hlength =>
      have htake : (buffer ++ more).take Line.maxLength = buffer.take Line.maxLength :=
        List.take_append_of_le_length hlength
      rw [segment, htake, if_neg fun hmem ↦ hbuffer (List.mem_of_mem_take hmem), if_pos]
      rw [List.length_append]
      omega

/-- A buffer without a whole line is all there is once the stream has ended. -/
theorem segment_of_cut_unfinished {buffer : Bytes} (h : LineReader.cut buffer = .unfinished) :
    segment buffer = if buffer.isEmpty then .nothing else .line buffer [] := by
  rcases split_at_lf buffer with ⟨before, after, hbefore, rfl⟩ | hbuffer
  · rw [cut_of_lf hbefore] at h
    split at h <;> simp at h
  · rw [cut_of_no_lf hbuffer] at h
    split at h
    · simp at h
    case isFalse hlength =>
      rw [segment, if_neg fun hmem ↦ hbuffer (List.mem_of_mem_take hmem), if_neg hlength]

end ByteStream

end LineProtocol
