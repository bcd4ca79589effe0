import LineProtocol.Proofs.Fault.Reporting
import LineProtocol.Proofs.Reading.ByteStream
import LineProtocol.Wire

/-!
# Lines in transit

Between two sides that write whole lines every chunk is a line. A reader is then told by the lines
in front of it (`LineReader.facing`) and an outlet by the lines it holds (`Outlet.holding`).
Reading takes the first of the lines, or passes it over, and leaves nothing in the buffer
(`readLine_facing`). Writing adds the lines of what is written, or changes nothing
(`sendLine_holding`, `sendData_holding`, `sendFault_holding`).
-/

set_option autoImplicit false

namespace LineProtocol

theorem Inlet.read_chunk {octets : Bytes} {limit : Nat} (later : List Arrival) (ended : Bool)
    (h : octets.length ≤ limit) :
    (Inlet.mk (.chunk octets :: later) ended).read limit = (.octets octets, ⟨later, ended⟩) := by
  simp only [read, List.take_of_length_le h, if_pos h]

/-- Lines arrive as they were written. -/
theorem Inlet.carried_octets (lines : List Line) :
    carried (lines.map Line.octets) = lines.map fun line ↦ .chunk line.octets := by
  have hkept : (lines.map Line.octets).filter (!·.isEmpty) = lines.map Line.octets := by
    refine List.filter_eq_self.2 fun octets hmem ↦ ?_
    obtain ⟨line, -, rfl⟩ := List.mem_map.1 hmem
    simpa using line.octets_ne_nil
  rw [carried, hkept, List.map_map]
  rfl

namespace LineReader

/-- A reader with lines in front of it, after which the stream ends or more may come. -/
def facing (ended : Bool) (lines : List Line) : LineReader :=
  ⟨[], false, ⟨lines.map fun line ↦ .chunk line.octets, ended⟩⟩

variable {line : Line} (ended : Bool) (later : List Line)

theorem nextRaw_of_read {reader : LineReader} {octets : Bytes} {inlet : Inlet}
    (hcut : cut reader.buffer = .unfinished) (hend : reader.atEnd = false)
    (hread : reader.inlet.read readLength = (.octets octets, inlet)) (hsome : octets ≠ []) :
    reader.nextRaw = nextRaw ⟨reader.buffer ++ octets, false, inlet⟩ := by
  obtain ⟨octet, rest, rfl⟩ := List.exists_cons_of_ne_nil hsome
  rw [nextRaw, hcut]
  simp only [hend, Bool.false_eq_true, if_false]
  rw [hread]

theorem nextRaw_of_cut {reader : LineReader} {raw rest : Bytes}
    (hcut : cut reader.buffer = .line raw rest) :
    reader.nextRaw = (.value (some raw), { reader with buffer := rest }) := by
  rw [nextRaw, hcut]

theorem nextRaw_facing (h : line.Sendable) :
    (facing ended (line :: later)).nextRaw =
      (.value (some (Line.stem (Utf8.encode line.verb) line.parameters)),
        facing ended later) := by
  have hreads : line.octets.length ≤ readLength :=
    Nat.le_trans (Line.length_octets h) (by decide)
  have hlength : (Line.stem (Utf8.encode line.verb) line.parameters).length + 1 ≤
      Line.maxLength := by
    rw [Line.length_stem]
    exact h.length
  have hreturn : dropReturn (Line.stem (Utf8.encode line.verb) line.parameters) =
      Line.stem (Utf8.encode line.verb) line.parameters := by
    rw [dropReturn, if_neg]
    exact fun hlast ↦ Line.cr_not_mem_stem h.verb (List.mem_of_getLast? hlast)
  have hcut : cut line.octets =
      .line (Line.stem (Utf8.encode line.verb) line.parameters) [] := by
    rw [Line.octets, ByteStream.cut_of_lf (Line.lf_not_mem_stem h.verb),
      if_neg (Nat.not_lt.2 hlength), hreturn]
  calc
    (facing ended (line :: later)).nextRaw =
        nextRaw ⟨line.octets, false, (facing ended later).inlet⟩ :=
      nextRaw_of_read rfl rfl (Inlet.read_chunk _ _ hreads) line.octets_ne_nil
    _ = _ := nextRaw_of_cut hcut

/-- The line in front is passed over if it only informs, and is read if it does not. -/
theorem readLine_facing (h : line.Sendable) :
    (facing ended (line :: later)).readLine =
      if line.onlyInforms then (facing ended later).readLine
      else (.value line, facing ended later) := by
  rw [readLine, nextRaw_facing ended later h]
  simp only [Line.isInformational_stem h.verb, Line.parse_stem h.verb, h.upper]
  rfl

theorem readLine_facing_of_informs (h : line.Sendable) (hinforms : line.onlyInforms = true) :
    (facing ended (line :: later)).readLine = (facing ended later).readLine := by
  rw [readLine_facing ended later h, if_pos hinforms]

theorem readLine_facing_of_tells (h : line.Sendable) (htells : line.onlyInforms = false) :
    (facing ended (line :: later)).readLine = (.value line, facing ended later) := by
  rw [readLine_facing ended later h, if_neg (by rw [htells]; exact Bool.false_ne_true)]

theorem nextRaw_facing_nil :
    (facing false []).nextRaw = (.waiting, facing false []) := by
  have hread : (facing false []).inlet.read readLength = (.pending, ⟨[], false⟩) := rfl
  rw [nextRaw, show cut (facing false []).buffer = .unfinished from rfl]
  simp only [show (facing false []).atEnd = false from rfl, Bool.false_eq_true, if_false]
  rw [hread]
  rfl

theorem readLine_facing_nil :
    (facing false []).readLine = (.waiting, facing false []) := by
  rw [readLine, nextRaw_facing_nil]

theorem nextRaw_facing_end :
    (facing true []).nextRaw = (.value none, ⟨[], true, ⟨[], true⟩⟩) := by
  have hread : (facing true []).inlet.read readLength = (.octets [], ⟨[], true⟩) := rfl
  rw [nextRaw, show cut (facing true []).buffer = .unfinished from rfl]
  simp only [show (facing true []).atEnd = false from rfl, Bool.false_eq_true, if_false]
  rw [hread]
  rfl

theorem readLine_facing_end :
    (facing true []).readLine = (.error .closed, ⟨[], true, ⟨[], true⟩⟩) := by
  rw [readLine, nextRaw_facing_end]

theorem readLine_spent :
    (LineReader.mk [] true ⟨[], true⟩).readLine = (.error .closed, ⟨[], true, ⟨[], true⟩⟩) := by
  have hraw : (LineReader.mk [] true ⟨[], true⟩).nextRaw =
      (.value none, ⟨[], true, ⟨[], true⟩⟩) := by
    rw [nextRaw, show cut [] = .unfinished from rfl]
    rfl
  rw [readLine, hraw]

theorem push_facing (ended : Bool) (lines more : List Line) :
    { facing ended lines with
      inlet := (facing ended lines).inlet.push (Inlet.carried (more.map Line.octets)) } =
      facing ended (lines ++ more) := by
  rw [Inlet.carried_octets]
  simp only [facing, Inlet.push, List.map_append]

end LineReader

namespace Outlet

/-- An outlet that takes everything and holds the given lines. -/
def holding (lines : List Line) : Outlet :=
  { fresh with written := lines.map Line.octets }

variable (before : List Line)

theorem write_fresh (written : List Bytes) {octets : Bytes} (h : octets ≠ []) :
    write { fresh with written := written } octets =
      (.took octets.length, { fresh with written := written ++ [octets] }) := by
  have hlength : octets.length ≠ 0 := fun hzero ↦ h (List.length_eq_zero_iff.1 hzero)
  simp [write, accept, share, countDown, fresh, hlength]

theorem writeAll_fresh (written : List Bytes) {octets : Bytes} (h : octets ≠ []) :
    writeAll { fresh with written := written } octets =
      (.ok (), { fresh with written := written ++ [octets] }) := by
  obtain ⟨octet, rest, rfl⟩ := List.exists_cons_of_ne_nil h
  rw [writeAll, write_fresh written h, List.length_cons]
  simp only [List.drop_length]
  rw [writeAll]

theorem sendEach_holding (lines : List Line) :
    (holding before).sendEach (lines.map Line.octets) = (.ok (), holding (before ++ lines)) := by
  induction lines generalizing before with
  | nil =>
    rw [List.append_nil]
    rfl
  | cons line later ih =>
    have hwrite : (holding before).writeAll line.octets = (.ok (), holding (before ++ [line])) := by
      rw [holding, writeAll_fresh _ line.octets_ne_nil, holding, List.map_append]
      rfl
    rw [List.map_cons, sendEach, hwrite]
    simp only
    rw [ih, List.append_assoc, List.singleton_append]

/-- What writing a line that was composed, or was not, does. -/
def added (before : List Line) : Except Failure Line → Except Failure Unit × Outlet
  | .ok line => (.ok (), holding (before ++ [line]))
  | .error cause => (.error cause, holding before)

theorem sendEncoded_holding (composed : Except Failure Line) :
    (holding before).sendEncoded (composed.map Line.octets) = added before composed := by
  cases composed with
  | error cause => rfl
  | ok line => exact sendEach_holding before [line]

theorem sendLine_holding (verb : String) (parameters : Bytes) :
    (holding before).sendLine verb parameters = added before (Line.compose verb parameters) := by
  rw [sendLine, Line.encode_eq_map_compose, sendEncoded_holding]

theorem sendFault_holding (fault : Fault) :
    (holding before).sendFault fault = added before fault.composed := by
  rw [sendFault, Fault.line_eq, sendEncoded_holding]

theorem sendData_holding (payload : Bytes) :
    (holding before).sendData payload =
      (.ok (), holding (before ++ Line.ofPayload payload)) := by
  unfold sendData
  split
  case isTrue hempty => rw [Line.ofPayload, if_pos hempty, List.append_nil]
  case isFalse => rw [Line.dataLines_eq, sendEach_holding]

end Outlet

/-! ### Kinds of lines -/

namespace Line

/-- A line of an answer or of a reply that carries data. -/
def IsData (line : Line) : Prop :=
  line.Sendable ∧ line.verb = "D"

/-- A line in the middle of a reply: data, a comment or a status line. -/
def IsInner (line : Line) : Prop :=
  line.Sendable ∧ (line.verb = "D" ∨ line.verb = "#" ∨ line.verb = "S")

/-- A line that closes a reply. -/
def IsClosing (line : Line) : Prop :=
  line.Sendable ∧ (line.verb = "OK" ∨ line.verb = "ERR")

/-- A line that asks for data. -/
def IsInquiry (line : Line) : Prop :=
  line.Sendable ∧ line.verb = "INQUIRE"

/-- A line of a reply that is not its closing line. -/
def IsLead (line : Line) : Prop :=
  line.IsInner ∨ line.IsInquiry

/-- A line that completes an answer, or refuses it. -/
def IsFinal (line : Line) : Prop :=
  line.Sendable ∧ (line.verb = "END" ∨ line.verb = "CAN")

theorem IsData.isInner {line : Line} (h : line.IsData) : line.IsInner :=
  ⟨h.1, .inl h.2⟩

/-- Only comments and status lines inform. -/
theorem onlyInforms_of_verb {line : Line} {verb : String} (h : line.verb = verb)
    (hcomment : (verb.toList.head? == some '#') = false)
    (hstatus : (verb == "S" || verb == "s") = false) : line.onlyInforms = false := by
  rw [onlyInforms, informs, h, hcomment, hstatus]
  rfl

theorem IsClosing.tells {line : Line} (h : line.IsClosing) : line.onlyInforms = false := by
  rcases h.2 with hverb | hverb
  · exact onlyInforms_of_verb hverb (by decide) (by decide)
  · exact onlyInforms_of_verb hverb (by decide) (by decide)

theorem IsInquiry.tells {line : Line} (h : line.IsInquiry) : line.onlyInforms = false :=
  onlyInforms_of_verb h.2 (by decide) (by decide)

theorem isData_of_mem_ofPayload {payload : Bytes} {line : Line} (h : line ∈ ofPayload payload) :
    line.IsData :=
  ⟨(mem_ofPayload h).2.2, (mem_ofPayload h).1⟩

theorem isInner_of_compose {verb : String} {parameters : Bytes} {line : Line}
    (hverb : upperCase verb = "D" ∨ upperCase verb = "#" ∨ upperCase verb = "S")
    (h : compose verb parameters = .ok line) : line.IsInner := by
  obtain ⟨hsendable, rfl⟩ := sendable_of_compose h
  exact ⟨hsendable, hverb⟩

theorem isInquiry_of_compose {parameters : Bytes} {line : Line}
    (h : compose "INQUIRE" parameters = .ok line) : line.IsInquiry := by
  obtain ⟨hsendable, rfl⟩ := sendable_of_compose h
  have hverb : upperCase "INQUIRE" = "INQUIRE" := by decide
  exact ⟨hsendable, hverb⟩

theorem isClosing_of_compose_ok {parameters : Bytes} {line : Line}
    (h : compose "OK" parameters = .ok line) : line.IsClosing := by
  obtain ⟨hsendable, rfl⟩ := sendable_of_compose h
  have hverb : upperCase "OK" = "OK" := by decide
  exact ⟨hsendable, .inl hverb⟩

theorem isClosing_of_composed {fault : Fault} {line : Line} (h : fault.composed = .ok line) :
    line.IsClosing := by
  obtain ⟨hsendable, rfl⟩ := sendable_of_compose h
  have hverb : upperCase "ERR" = "ERR" := by decide
  exact ⟨hsendable, .inr hverb⟩

end Line

/-! ### Sides -/

/-- A side of a connection with lines in front of it and lines it has written. -/
def Wire.ofLines (inbox outbox : List Line) : Wire :=
  ⟨.facing false inbox, .holding outbox⟩

end LineProtocol
