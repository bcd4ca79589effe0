import LineProtocol.Proofs.Reading.ChunkFree

/-!
# Lines survive a stream

Lines that were written one after the other are read back one after the other, wherever the
stream is cut into chunks. A line at the front of a byte stream is its first segment, because its
stem holds no line end and fits; it is skipped if it informs, and otherwise it parses to what was
written (`reading_of_encoded`). The stream of a list of lines follows by induction on the list,
and `readings_of_encoded` carries it to a reader that meets the stream in chunks.
-/

set_option autoImplicit false

namespace LineProtocol

namespace ByteStream

variable {verb : String} {parameters line : Bytes}

/-- The line of a verb is the first of its stream, unless it is overlong. -/
theorem segment_of_render {verb : Bytes} (rest : Bytes) (hverb : Line.isVerb verb = true) :
    segment (Line.render verb parameters ++ rest) =
      if (Line.render verb parameters).length ≤ Line.maxLength then
        .line (Line.stem verb parameters) rest
      else .overlong := by
  have hreturn : LineReader.dropReturn (Line.stem verb parameters) =
      Line.stem verb parameters := by
    rw [LineReader.dropReturn, if_neg]
    exact fun hlast ↦ Line.cr_not_mem_stem hverb (List.mem_of_getLast? hlast)
  have hstem := @Line.lf_not_mem_stem verb parameters hverb
  rw [Line.length_render, Line.render_eq, List.append_assoc, List.singleton_append,
    ← Line.length_stem]
  by_cases hlength : (Line.stem verb parameters).length + 1 ≤ Line.maxLength
  · rw [if_pos hlength, segment_of_line rest hstem hlength, hreturn]
  · rw [if_neg hlength, segment_of_overlong rest hstem (Nat.not_le.1 hlength)]

theorem segment_of_encoded (rest : Bytes) (h : Line.encode verb parameters = .ok line) :
    segment (line ++ rest) = .line (Line.stem (Utf8.encode verb) parameters) rest := by
  obtain ⟨hverb, hlength, rfl⟩ := Line.encode_eq_ok_iff.1 h
  rw [← Line.render_eq, segment_of_render rest hverb, if_pos]
  rwa [Line.length_render]

/-- A line at the front of a stream is skipped if it informs, and is read as it was written if it
does not. -/
theorem reading_of_encoded (rest : Bytes) (h : Line.encode verb parameters = .ok line) :
    reading (line ++ rest) =
      if Line.informs verb parameters then reading rest
      else (.value ⟨upperCase verb, parameters⟩, rest) := by
  have hsegment := segment_of_encoded rest h
  have hverb := (Line.encode_eq_ok_iff.1 h).1
  have hinforms : Line.isInformational (Line.stem (Utf8.encode verb) parameters) =
      Line.informs verb parameters := Line.isInformational_stem hverb
  by_cases hskip : Line.informs verb parameters = true
  · rw [reading_of_skipped hsegment (hinforms.trans hskip), if_pos hskip]
  · rw [reading_of_line hsegment (hinforms.trans (Bool.not_eq_true _ ▸ hskip)), if_neg hskip,
      Line.parse_stem hverb]
    rfl

theorem reading_nil : reading [] = (.error .closed, []) :=
  reading_of_nothing rfl

theorem readings_nil (count : Nat) :
    readings count [] = List.replicate count (.error .closed) := by
  induction count with
  | zero => rfl
  | succ count ih => rw [readings, reading_nil, ih, List.replicate_succ]

/-- The pairs of a verb and parameters whose lines do not only inform. -/
def telling (pairs : List (String × Bytes)) : List (String × Bytes) :=
  pairs.filter fun pair ↦ !Line.informs pair.1 pair.2

/-- A stream of lines says the lines that do not only inform, and then that it has ended. -/
theorem readings_of_encoded {pairs : List (String × Bytes)} {lines : List Bytes}
    (hlines : List.Forall₂ (fun pair line ↦ Line.encode pair.1 pair.2 = .ok line) pairs lines)
    (extra : Nat) :
    readings ((telling pairs).length + extra) lines.flatten =
      (telling pairs).map (fun pair ↦ .value ⟨upperCase pair.1, pair.2⟩) ++
        List.replicate extra (.error .closed) := by
  induction hlines with
  | nil =>
    rw [telling, List.filter_nil, List.length_nil, Nat.zero_add, List.flatten_nil, readings_nil]
    rfl
  | @cons pair line pairs lines hline _ ih =>
    have hreading := reading_of_encoded lines.flatten hline
    rw [List.flatten_cons]
    by_cases hskip : Line.informs pair.1 pair.2 = true
    · have htelling : telling (pair :: pairs) = telling pairs :=
        List.filter_cons_of_neg (by simp [hskip])
      rw [if_pos hskip] at hreading
      rw [htelling, LineReader.byteStream_readings_congr hreading, ih]
    · have htelling : telling (pair :: pairs) = pair :: telling pairs :=
        List.filter_cons_of_pos (by simp [hskip])
      rw [if_neg hskip] at hreading
      rw [htelling, List.length_cons, Nat.add_right_comm, readings, hreading, ih]
      rfl

end ByteStream

namespace LineReader

/-- A line that tells something is read as it was written by a reader that has it in front, and the
reader owes what is behind it. -/
theorem Owes.readLine_of_encoded {reader : LineReader} {verb : String}
    {parameters line later : Bytes} (howes : reader.Owes (line ++ later))
    (hfailures : reader.inlet.failures = 0) (h : Line.encode verb parameters = .ok line)
    (htells : Line.informs verb parameters = false) :
    ∃ rest, reader.readLine = (.value ⟨upperCase verb, parameters⟩, rest) ∧ rest.Owes later ∧
      rest.inlet.failures = 0 := by
  have hreading : ByteStream.reading (line ++ later) =
      (.value ⟨upperCase verb, parameters⟩, later) := by
    rw [ByteStream.reading_of_encoded later h, if_neg (by rw [htells]; exact Bool.false_ne_true)]
  have hline := howes.readLine
  generalize reader.readLine = result at hline
  cases hline with
  | failed _ _ hless => omega
  | overlong hoverlong => exact nomatch hoverlong.symm.trans hreading
  | found hfound hrest _ hless =>
    obtain ⟨rfl, rfl⟩ := Prod.mk.inj (hfound.symm.trans hreading)
    exact ⟨_, rfl, hrest, by omega⟩

/-- Lines that were written are read back in order, however their stream is cut into chunks, with
their verbs in upper case and their very parameters, and then the stream has ended. Only comments
and status lines are left out. -/
theorem readings_of_encoded_chunks (pairs : List (String × Bytes)) (lines chunks : List Bytes)
    (hlines : List.Forall₂ (fun pair line ↦ Line.encode pair.1 pair.2 = .ok line) pairs lines)
    (hchunks : ∀ chunk ∈ chunks, chunk ≠ []) (hstream : chunks.flatten = lines.flatten)
    (extra : Nat) :
    let kept := pairs.filter fun pair ↦ !Line.informs pair.1 pair.2
    readings (kept.length + extra) (ofInlet ⟨chunks.map .chunk, true⟩) =
      kept.map (fun pair ↦ .value ⟨upperCase pair.1, pair.2⟩) ++
        List.replicate extra (.error .closed) := by
  intro kept
  have hsaid : ByteStream.readings (kept.length + extra) lines.flatten = _ :=
    ByteStream.readings_of_encoded hlines extra
  obtain ⟨howes, hfailures⟩ := owes_of_chunks hchunks
  rw [hstream] at howes
  rw [howes.readings_eq hfailures, hsaid]
  · rfl
  · rw [hsaid]
    intro result hmem
    rcases List.mem_append.1 hmem with hmem | hmem
    · obtain ⟨pair, -, rfl⟩ := List.mem_map.1 hmem
      trivial
    · rw [List.eq_of_mem_replicate hmem]
      trivial

/-- A payload whose escape is cut in two, a comment, and the two kinds of status line. -/
theorem readings_of_parted_escape :
    let pairs : List (String × Bytes) :=
      [("d", [0x25, 0x20]), ("#x", [0x61]), ("s", [0x62]), ("S", [])]
    let lines : List Bytes :=
      [[0x44, 0x20, 0x25, 0x32, 0x35, 0x20, 0x0A], [0x23, 0x58, 0x20, 0x61, 0x0A],
        [0x53, 0x20, 0x62, 0x0A], [0x53, 0x0A]]
    let chunks : List Bytes :=
      [[0x44, 0x20, 0x25, 0x32], [0x35, 0x20], [0x0A, 0x23, 0x58, 0x20, 0x61, 0x0A, 0x53, 0x20],
        [0x62, 0x0A, 0x53], [0x0A]]
    List.Forall₂ (fun pair line ↦ Line.encode pair.1 pair.2 = .ok line) pairs lines ∧
      (∀ chunk ∈ chunks, chunk ≠ []) ∧ chunks.flatten = lines.flatten ∧
      readings 3 (ofInlet ⟨chunks.map .chunk, true⟩) =
        [.value ⟨"D", [0x25, 0x20]⟩, .value ⟨"S", []⟩, .error .closed] := by
  intro pairs lines chunks
  have hlines : List.Forall₂ (fun pair line ↦ Line.encode pair.1 pair.2 = .ok line)
      pairs lines := by
    refine .cons ?_ (.cons ?_ (.cons ?_ (.cons ?_ .nil))) <;> decide
  have hchunks : ∀ chunk ∈ chunks, chunk ≠ [] := by decide
  exact ⟨hlines, hchunks, rfl, readings_of_encoded_chunks pairs lines chunks hlines hchunks rfl 1⟩

end LineReader

end LineProtocol
