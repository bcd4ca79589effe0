import LineProtocol.Proofs.Line.Framing
import LineProtocol.Writing

/-!
# Lines that can be sent

What a writer puts on a stream is told by `Line`s, the ones a reader at the other end makes of it.
`Line.octets` is how a line is written and `Line.Sendable` says that it can be: its verb is one,
in upper case, and it is not too long. Encoding a verb and parameters gives the octets of such a
line (`sendable_of_encode`).

A payload is cut into portions, which are the unescaped contents of its `D` lines
(`dataLines_eq`). No portion is empty, none is too long, and together they are the payload.
-/

set_option autoImplicit false

namespace LineProtocol

namespace Line

/-- How a line is written. -/
def octets (line : Line) : Bytes :=
  stem (Utf8.encode line.verb) line.parameters ++ [Octet.lf]

/-- Whether a reader skips the line. -/
def onlyInforms (line : Line) : Bool :=
  informs line.verb line.parameters

/-- A line that can be sent and is told by itself. -/
structure Sendable (line : Line) : Prop where
  verb : isVerb (Utf8.encode line.verb) = true
  upper : upperCase line.verb = line.verb
  length : lengthOf (Utf8.encode line.verb) line.parameters ≤ maxLength

theorem isVerb_map_upper {octets : Bytes} (h : isVerb octets = true) :
    isVerb (octets.map Octet.upper) = true := by
  obtain ⟨hne, hplain⟩ := isVerb_iff.1 h
  refine isVerb_iff.2 ⟨by simpa using hne, fun octet hmem ↦ ?_⟩
  obtain ⟨source, hsource, rfl⟩ := List.mem_map.1 hmem
  exact ⟨Octet.isBlank_upper (hplain source hsource).1,
    Octet.isControl_upper (hplain source hsource).2⟩

theorem stem_map_upper (verb parameters : Bytes) :
    stem (verb.map Octet.upper) parameters = stem verb parameters := by
  have hfold : (verb.map Octet.upper).map Octet.upper = verb.map Octet.upper := by
    rw [List.map_map]
    exact List.map_congr_left fun octet _ ↦ Octet.upper_upper octet
  rw [stem, stem, hfold]

/-- The line that a verb in any case and parameters stand for. -/
theorem sendable_of_encode {verb : String} {parameters written : Bytes}
    (h : encode verb parameters = .ok written) :
    (Line.mk (upperCase verb) parameters).Sendable ∧
      written = (Line.mk (upperCase verb) parameters).octets := by
  obtain ⟨hverb, hlength, rfl⟩ := encode_eq_ok_iff.1 h
  refine ⟨⟨?_, upperCase_upperCase verb, ?_⟩, ?_⟩
  · rw [Utf8.encode_upperCase]
    exact isVerb_map_upper hverb
  · rw [Utf8.encode_upperCase, lengthOf, List.length_map]
    exact hlength
  · rw [octets, Utf8.encode_upperCase, stem_map_upper]

/-- The case of its verb makes no difference to whether a line informs. -/
theorem onlyInforms_of_encode {verb : String} {parameters written : Bytes}
    (h : encode verb parameters = .ok written) :
    (Line.mk (upperCase verb) parameters).onlyInforms = informs verb parameters := by
  have hverb := (encode_eq_ok_iff.1 h).1
  have hupper := (sendable_of_encode h).1.verb
  rw [onlyInforms, ← isInformational_stem hverb, ← isInformational_stem hupper,
    Utf8.encode_upperCase, stem_map_upper]

/-- The line of a verb in any case and parameters, if there is one. -/
def compose (verb : String) (parameters : Bytes) : Except Failure Line :=
  (encode verb parameters).map fun _ ↦ ⟨upperCase verb, parameters⟩

theorem compose_of_encode {verb : String} {parameters written : Bytes}
    (h : encode verb parameters = .ok written) :
    compose verb parameters = .ok ⟨upperCase verb, parameters⟩ := by
  rw [compose, h]
  rfl

theorem encode_eq_map_compose (verb : String) (parameters : Bytes) :
    encode verb parameters = (compose verb parameters).map octets := by
  unfold compose
  cases h : encode verb parameters with
  | error cause => rfl
  | ok written => exact congrArg Except.ok (sendable_of_encode h).2

theorem sendable_of_compose {verb : String} {parameters : Bytes} {line : Line}
    (h : compose verb parameters = .ok line) :
    line.Sendable ∧ line = ⟨upperCase verb, parameters⟩ := by
  unfold compose at h
  cases hencode : encode verb parameters with
  | error cause =>
    rw [hencode] at h
    exact nomatch h
  | ok written =>
    rw [hencode] at h
    obtain rfl := Except.ok.inj h
    exact ⟨(sendable_of_encode hencode).1, rfl⟩

/-- A line that can be sent is encoded as it is written. -/
theorem Sendable.encode_eq {line : Line} (h : line.Sendable) :
    encode line.verb line.parameters = .ok line.octets :=
  encode_eq_ok_iff.2 ⟨h.verb, h.length, rfl⟩

theorem octets_ne_nil (line : Line) : line.octets ≠ [] := by
  simp [octets]

theorem length_octets {line : Line} (h : line.Sendable) : line.octets.length ≤ maxLength := by
  rw [octets, List.length_append, List.length_singleton, length_stem]
  exact h.length

/-! ### Payloads -/

/-- Cuts a payload as `pieces` cuts its escaped form. -/
def portions (room : Nat) : Bytes → List Bytes
  | [] => [[]]
  | octet :: rest =>
    if Escape.width octet ≤ room then
      prepend [octet] (portions (room - Escape.width octet) rest)
    else
      [] :: prepend [octet] (portions (maxPayload - Escape.width octet) rest)

theorem prepend_map_encode (octet : UInt8) (parts : List Bytes) :
    (prepend [octet] parts).map Escape.encode =
      prepend (Escape.encodeOctet octet) (parts.map Escape.encode) := by
  cases parts with
  | nil => simp [prepend, Escape.encode]
  | cons part parts => simp [prepend, Escape.encode]

theorem pieces_eq (room : Nat) (payload : Bytes) :
    pieces room payload = (portions room payload).map Escape.encode := by
  induction payload generalizing room with
  | nil => rfl
  | cons octet rest ih =>
    rw [pieces, portions]
    split
    · rw [ih, prepend_map_encode]
    · rw [ih, List.map_cons, prepend_map_encode]
      rfl

theorem flatten_prepend (octet : UInt8) (parts : List Bytes) :
    (prepend [octet] parts).flatten = octet :: parts.flatten := by
  cases parts <;> rfl

/-- The portions of a payload are the payload. -/
theorem flatten_portions (room : Nat) (payload : Bytes) :
    (portions room payload).flatten = payload := by
  induction payload generalizing room with
  | nil => rfl
  | cons octet rest ih =>
    rw [portions]
    split
    · rw [flatten_prepend, ih]
    · rw [List.flatten_cons, List.nil_append, flatten_prepend, ih]

/-- The first portion fits the room there is, and every later one fits a line and is not empty. -/
theorem portions_fit (room : Nat) (payload : Bytes) :
    ∃ first later, portions room payload = first :: later ∧
      Escape.encodedLength first ≤ room ∧
      ∀ part ∈ later, part ≠ [] ∧ Escape.encodedLength part ≤ maxPayload := by
  induction payload generalizing room with
  | nil => exact ⟨[], [], rfl, Nat.zero_le _, by simp⟩
  | cons octet rest ih =>
    rw [portions]
    split
    case isTrue hroom =>
      obtain ⟨first, later, hparts, hfirst, hlater⟩ := ih (room - Escape.width octet)
      refine ⟨octet :: first, later, by rw [hparts]; rfl, ?_, hlater⟩
      rw [Escape.encodedLength]
      omega
    case isFalse hroom =>
      have hwidth : Escape.width octet ≤ maxPayload :=
        Nat.le_trans (Escape.width_le octet) (by decide)
      obtain ⟨first, later, hparts, hfirst, hlater⟩ := ih (maxPayload - Escape.width octet)
      refine ⟨[], (octet :: first) :: later, by rw [hparts]; rfl, Nat.zero_le _, ?_⟩
      intro part hmem
      rcases List.mem_cons.1 hmem with rfl | hmem
      · refine ⟨List.cons_ne_nil _ _, ?_⟩
        rw [Escape.encodedLength]
        omega
      · exact hlater part hmem

/-- The lines of a payload, none for an empty one. -/
def ofPayload (payload : Bytes) : List Line :=
  if payload.isEmpty then [] else (portions maxPayload payload).map (Line.mk "D")

/-- Every line of a payload is a `D` line that can be sent and has something to carry. -/
theorem mem_ofPayload {payload : Bytes} {line : Line} (h : line ∈ ofPayload payload) :
    line.verb = "D" ∧ line.parameters ≠ [] ∧ line.Sendable := by
  have hverb : isVerb (Utf8.encode "D") = true := by decide
  have hupper : upperCase "D" = "D" := by decide
  unfold ofPayload at h
  split at h
  · exact absurd h List.not_mem_nil
  case isFalse hpayload =>
    obtain ⟨octet, rest, rfl⟩ := List.exists_cons_of_ne_nil (by simpa using hpayload)
    obtain ⟨part, hpart, rfl⟩ := List.mem_map.1 h
    have hfits : part ≠ [] ∧ Escape.encodedLength part ≤ maxPayload := by
      -- the first octet of a payload always fits a line, so the first portion has it
      have hwidth : Escape.width octet ≤ maxPayload :=
        Nat.le_trans (Escape.width_le octet) (by decide)
      obtain ⟨first, later, hparts, hfirst, hlater⟩ :=
        portions_fit (maxPayload - Escape.width octet) rest
      rw [portions, if_pos hwidth, hparts] at hpart
      rcases List.mem_cons.1 hpart with rfl | hmem
      · refine ⟨List.cons_ne_nil _ _, ?_⟩
        show Escape.width octet + Escape.encodedLength first ≤ maxPayload
        omega
      · exact hlater part hmem
    refine ⟨rfl, hfits.1, ⟨hverb, hupper, ?_⟩⟩
    have hlength : (Utf8.encode "D").length = 1 := by decide
    simp only [lengthOf, List.isEmpty_eq_false_iff.2 hfits.1, Bool.false_eq_true, if_false,
      hlength]
    have hmax : maxPayload + 3 = maxLength := by decide
    omega

/-- What a payload's lines carry is the payload. -/
theorem flatMap_parameters_ofPayload (payload : Bytes) :
    (ofPayload payload).flatMap Line.parameters = payload := by
  unfold ofPayload
  split
  case isTrue hempty => simpa using hempty.symm
  case isFalse =>
    rw [List.flatMap_map, List.flatMap_def]
    exact (congrArg List.flatten (List.map_id _)).trans (flatten_portions _ _)

/-- A part of a payload stands escaped on its line. -/
theorem dataLine_encode {line : Line} (hverb : line.verb = "D") (hsome : line.parameters ≠ []) :
    dataLine (Escape.encode line.parameters) = line.octets := by
  rw [octets, stem, hverb, if_neg (by simpa using hsome)]
  rfl

/-- A payload is written as its lines. -/
theorem dataLines_eq (payload : Bytes) : dataLines payload = (ofPayload payload).map octets := by
  unfold dataLines
  by_cases hempty : payload.isEmpty = true
  · rw [if_pos hempty, ofPayload, if_pos hempty, List.map_nil]
  · have hlines : ∀ line ∈ ofPayload payload,
        dataLine (Escape.encode line.parameters) = line.octets := by
      intro line hmem
      obtain ⟨hverb, hparameters, -⟩ := mem_ofPayload hmem
      exact dataLine_encode hverb hparameters
    rw [if_neg hempty, pieces_eq, ← List.map_congr_left hlines, ofPayload, if_neg hempty,
      List.map_map, List.map_map]
    rfl

end Line

end LineProtocol
