import LineProtocol.Proofs.Line.Channel
import LineProtocol.Proofs.Line.Refusal
import LineProtocol.Proofs.Reading.Lines

/-!
# As much of a message as fits

A fault is reported on one `ERR` line, and its message gives way if the line is too long.
`Fault.Keeps` says what is kept: a beginning of the message whose line fits, and no longer one does.
There is at most one such beginning (`Keeps.unique`).

A longer message never has a shorter line (`length_fullLine_mono`), although the space in front of
it comes and goes with it and its characters take from one octet to twelve. So a fault whose line is
too long without any message is not reported at all, and any other is reported with the message that
it keeps, which its reader finds again: `sendFault_keeps`.
-/

set_option autoImplicit false

namespace LineProtocol

namespace Fault

/-- The fault with another message. -/
def withMessage (fault : Fault) (message : List Char) : Fault :=
  { fault with message := String.ofList message }

/-- The `ERR` line of the fault, however long it is. -/
def fullLine (fault : Fault) : Bytes :=
  Line.render (Utf8.encode "ERR") (Utf8.encode fault.encode)

/-- Whether the line of the fault is no longer than a line may be. -/
def Fits (fault : Fault) : Prop :=
  fault.fullLine.length ≤ Line.maxLength

/-- What is kept of the message: the longest beginning whose line fits. -/
structure Keeps (fault : Fault) (kept : List Char) : Prop where
  begins : kept <+: fault.message.toList
  fits : (fault.withMessage kept).Fits
  longest : ∀ other, other <+: fault.message.toList → (fault.withMessage other).Fits →
    other.length ≤ kept.length

variable {fault : Fault}

theorem Keeps.unique {kept other : List Char} (h : fault.Keeps kept) (hother : fault.Keeps other) :
    kept = other :=
  (List.prefix_of_prefix_length_le h.begins hother.begins
    (hother.longest kept h.begins h.fits)).eq_of_length_le
      (h.longest other hother.begins hother.fits)

theorem withMessage_message (fault : Fault) : fault.withMessage fault.message.toList = fault := by
  rw [withMessage, String.ofList_toList]

/-- A message whose line fits is kept whole. -/
theorem keeps_message (h : fault.Fits) : fault.Keeps fault.message.toList where
  begins := List.prefix_rfl
  fits := by rwa [withMessage_message]
  longest := fun _ hbegins _ ↦ hbegins.length_le

/-! ### The length of the line -/

/-- The line of a fault with a message is written if it fits, and else it is too long. -/
theorem lineWith_eq (fault : Fault) (message : List Char) :
    fault.lineWith message =
      if (fault.withMessage message).fullLine.length ≤ Line.maxLength then
        .ok (fault.withMessage message).fullLine
      else .error (.lineTooLong (fault.withMessage message).fullLine.length Line.maxLength) :=
  Line.encode_of_isVerb (by decide) _

theorem lineWith_of_fits {message : List Char} (h : (fault.withMessage message).Fits) :
    fault.lineWith message = .ok (fault.withMessage message).fullLine := by
  rw [lineWith_eq]
  exact if_pos h

theorem lineWith_of_not_fits {message : List Char} (h : ¬(fault.withMessage message).Fits) :
    fault.lineWith message =
      .error (.lineTooLong (fault.withMessage message).fullLine.length Line.maxLength) := by
  rw [lineWith_eq]
  exact if_neg h

/-- A message with the space in front of it, if there is one. -/
def spaced (message : List Char) : String :=
  if message = [] then "" else " " ++ String.ofList message

/-- The octets that a message takes. -/
def room (message : List Char) : Nat :=
  Escape.encodedLength (Utf8.encode (spaced message))

/-- A longer message never takes less room. -/
theorem room_mono {message longer : List Char} (h : message <+: longer) :
    room message ≤ room longer := by
  obtain ⟨rest, rfl⟩ := h
  by_cases hempty : message = []
  · rw [hempty]
    exact Nat.zero_le _
  · have hlonger : message ++ rest ≠ [] := fun hnone ↦ hempty (List.append_eq_nil_iff.1 hnone).1
    rw [room, room, spaced, spaced, if_neg hempty, if_neg hlonger, String.ofList_append,
      ← String.append_assoc, Utf8.encode_append (" " ++ String.ofList message),
      Escape.encodedLength_append]
    exact Nat.le_add_right _ _

theorem encode_withMessage (fault : Fault) (message : List Char) :
    (fault.withMessage message).encode =
      toString fault.wireCode ++ spaced message ++ (" <" ++ fault.name ++ ">") := by
  have hempty : String.ofList message = "" ↔ message = [] := by
    rw [← String.toList_inj, String.toList_ofList]
    rfl
  simp only [encode, withMessage, wireCode, spaced, hempty, String.append_assoc]

theorem encode_ne_nil (fault : Fault) : Utf8.encode fault.encode ≠ [] := by
  rw [← List.length_pos_iff]
  refine Nat.lt_of_lt_of_le ?_ (Utf8.le_length_encode _)
  simp [encode, String.toList_append]

/-- The line of a fault is as long as the line without a message and the room of its message. -/
theorem length_fullLine (fault : Fault) (message : List Char) :
    (fault.withMessage message).fullLine.length =
      (fault.withMessage []).fullLine.length + room message := by
  have hline : ∀ message, (fault.withMessage message).fullLine.length =
      (Utf8.encode "ERR").length + 1 +
        (Escape.encodedLength (Utf8.encode (toString fault.wireCode)) + room message +
          Escape.encodedLength (Utf8.encode (" <" ++ fault.name ++ ">"))) + 1 := by
    intro message
    have hsome : (Utf8.encode (fault.withMessage message).encode).isEmpty = false :=
      List.isEmpty_eq_false_iff.2 (encode_ne_nil _)
    rw [fullLine, Line.length_render, Line.lengthOf, hsome, encode_withMessage, Utf8.encode_append,
      Utf8.encode_append, Escape.encodedLength_append, Escape.encodedLength_append]
    rfl
  have hnone : room [] = 0 := rfl
  rw [hline message, hline []]
  omega

/-- A longer message never has a shorter line. -/
theorem length_fullLine_mono (fault : Fault) {message longer : List Char}
    (h : message <+: longer) :
    (fault.withMessage message).fullLine.length ≤ (fault.withMessage longer).fullLine.length := by
  rw [length_fullLine, fault.length_fullLine longer]
  exact Nat.add_le_add_left (room_mono h) _

/-- A beginning of the message is kept if its line fits, but not that of one character more. -/
theorem keeps_of_next {kept : List Char} {next : Char}
    (hbegins : kept ++ [next] <+: fault.message.toList) (hfits : (fault.withMessage kept).Fits)
    (hlong : ¬(fault.withMessage (kept ++ [next])).Fits) : fault.Keeps kept where
  begins := (List.prefix_append kept [next]).trans hbegins
  fits := hfits
  longest := by
    intro other hother hshort
    by_contra hlonger
    rw [Nat.not_le, Nat.lt_iff_add_one_le, ← @List.length_singleton _ next,
      ← List.length_append] at hlonger
    have hextends := List.prefix_of_prefix_length_le hbegins hother hlonger
    exact hlong (Nat.le_trans (fault.length_fullLine_mono hextends) hshort)

/-! ### What is written -/

theorem line_eq_lineWith (fault : Fault) :
    fault.line = fault.lineWith fault.shortened.message.toList := by
  rw [shortened, String.toList_ofList]
  exact longestLine_eq fault.lineWith _

/-- A fault that has no line has none without a message. -/
theorem lineWith_nil_of_line {cause : Failure} (h : fault.line = .error cause) :
    fault.lineWith [] = .error cause := by
  rw [line_eq] at h
  cases hcomposed : fault.composed with
  | ok line =>
    rw [hcomposed] at h
    exact nomatch h
  | error found =>
    rw [hcomposed] at h
    obtain rfl := Except.error.inj h
    exact (lineTooLong_of_composed hcomposed).1

/-- A fault that fits without a message is reported with as much of its message as fits. -/
theorem keeps_shortened (h : (fault.withMessage []).Fits) :
    fault.Keeps fault.shortened.message.toList where
  begins := fault.shortened_isPrefix
  fits := by
    by_contra hlong
    have hline := fault.line_eq_lineWith.trans (lineWith_of_not_fits hlong)
    exact nomatch (lineWith_of_fits h).symm.trans (lineWith_nil_of_line hline)
  longest := by
    intro other hbegins hfits
    by_contra hlonger
    obtain ⟨length, limit, hlong⟩ := fault.lineTooLong_of_longer hbegins (Nat.not_le.1 hlonger)
    exact nomatch (lineWith_of_fits hfits).symm.trans hlong

/-- A fault that does not fit without a message has no line. -/
theorem line_of_not_fits (h : ¬(fault.withMessage []).Fits) :
    fault.line =
      .error (.lineTooLong (fault.withMessage []).fullLine.length Line.maxLength) := by
  have hnone : ¬(fault.withMessage fault.shortened.message.toList).Fits := fun hfits ↦
    h (Nat.le_trans (fault.length_fullLine_mono List.nil_prefix) hfits)
  have hline := fault.line_eq_lineWith.trans (lineWith_of_not_fits hnone)
  rw [hline, ← lineWith_nil_of_line hline, lineWith_of_not_fits h]

/-- The line of a fault that fits is read back as one line. -/
theorem readAs_fullLine (h : fault.Fits) :
    LineReader.ReadAs fault.fullLine [⟨"ERR", Utf8.encode fault.encode⟩] := by
  have hupper : upperCase "ERR" = "ERR" := by decide
  have hline : Line.encode "ERR" (Utf8.encode fault.encode) = .ok fault.fullLine :=
    (Line.encode_of_isVerb (by decide) _).trans (if_pos h)
  obtain ⟨hsendable, hoctets⟩ := Line.sendable_of_encode hline
  rw [hupper] at hsendable hoctets
  have hname : (Line.mk "ERR" (Utf8.encode fault.encode)).verb = "ERR" := rfl
  rw [hoctets]
  exact LineReader.readAs_octets hsendable
    (Line.onlyInforms_of_verb hname (by decide) (by decide))

/-- A fault is reported on one line, with the longest beginning of its message for which there is
room, and its reader finds just that if the name has no opening bracket. If there is no room even
without a message, nothing is written. -/
theorem sendFault_keeps (fault : Fault) (outlet : Outlet) (hroom : outlet.room = none)
    (hcap : outlet.cap ≠ some 0) :
    ((fault.withMessage []).Fits →
      ∃ kept, fault.Keeps kept ∧ (fault.Fits → kept = fault.message.toList) ∧
        (outlet.sendFault fault).2.octets =
          outlet.octets ++ (fault.withMessage kept).fullLine ∧
        (outlet.flushFailure = none → (outlet.sendFault fault).1 = .ok ()) ∧
        ∃ line : Line, line.verb = "ERR" ∧
          LineReader.ReadAs (fault.withMessage kept).fullLine [line] ∧
          ('<' ∉ fault.name.toList →
            ∃ found, decode line.textLossy = .ok found ∧
              found.agrees (fault.withMessage kept) = true)) ∧
      (¬(fault.withMessage []).Fits →
        outlet.sendFault fault =
          (.error (.lineTooLong (fault.withMessage []).fullLine.length Line.maxLength),
            outlet)) := by
  have hlimit : outlet.limit = none := by rw [Outlet.limit, if_neg hcap, hroom]
  refine ⟨fun hfits ↦ ?_, fun hlong ↦ ?_⟩
  · have hkeeps := keeps_shortened hfits
    have hsend : outlet.sendFault fault =
        outlet.sendEach [(fault.withMessage fault.shortened.message.toList).fullLine] := by
      rw [Outlet.sendFault, line_eq_lineWith, lineWith_of_fits hkeeps.fits, Outlet.sendEncoded]
    generalize fault.shortened.message.toList = kept at hkeeps hsend
    have hsends := outlet.sendEach_sends [(fault.withMessage kept).fullLine]
    rw [← hsend, List.flatten_singleton] at hsends
    refine ⟨kept, hkeeps, fun h ↦ hkeeps.unique (keeps_message h), (hsends.of_unlimited hlimit).1,
      hsends.eq_ok hlimit, _, rfl, readAs_fullLine hkeeps.fits, fun hname ↦ ?_⟩
    refine ⟨(fault.withMessage kept).heard, ?_, agrees_heard _⟩
    rw [Line.textLossy, Utf8.decodeLossy_encode]
    exact decode_encode (fault.withMessage kept) hname
  · rw [Outlet.sendFault, line_of_not_fits hlong, Outlet.sendEncoded]

/-- Of five hundred letters of two octets and a percent sign there is room for all but the last
ten letters and the sign, and one octet is left over. -/
theorem sendFault_keeps_of_wide :
    let fault : Fault :=
      ⟨.assuan, .general, "n", String.ofList (List.replicate 500 (Char.ofNat 0xE9) ++ ['%'])⟩
    let outlet : Outlet := { Outlet.fresh with cap := some 7, interruptions := [2] }
    outlet.room = none ∧ outlet.cap ≠ some 0 ∧ (fault.withMessage []).Fits ∧
      '<' ∉ fault.name.toList ∧
      ∃ kept, kept = List.replicate 490 (Char.ofNat 0xE9) ∧ fault.Keeps kept ∧
        (outlet.sendFault fault).1 = .ok () ∧
        (outlet.sendFault fault).2.octets = (fault.withMessage kept).fullLine ∧
        ∃ line : Line, line.verb = "ERR" ∧
          LineReader.ReadAs (fault.withMessage kept).fullLine [line] ∧
          ∃ found, decode line.textLossy = .ok found ∧
            found.agrees (fault.withMessage kept) = true := by
  intro fault outlet
  have hroom : ∀ count, Escape.encodedLength
      (Utf8.encode (String.ofList (List.replicate count (Char.ofNat 0xE9)))) = 2 * count := by
    intro count
    have hletter : Escape.encodedLength (Utf8.encode (String.ofList [Char.ofNat 0xE9])) = 2 := by
      decide
    induction count with
    | zero => rfl
    | succ count ih =>
      rw [List.replicate_succ, ← List.singleton_append, String.ofList_append, Utf8.encode_append,
        Escape.encodedLength_append, ih, hletter]
      omega
  have hlength : ∀ count, (fault.withMessage
      (List.replicate (count + 1) (Char.ofNat 0xE9))).fullLine.length = 21 + 2 * count := by
    intro count
    have hbare : (fault.withMessage []).fullLine.length = 18 := by decide
    have hsome : List.replicate (count + 1) (Char.ofNat 0xE9) ≠ [] := by
      rw [List.replicate_succ]
      exact List.cons_ne_nil _ _
    have hspace : Escape.encodedLength (Utf8.encode " ") = 1 := by decide
    rw [length_fullLine, hbare, room, spaced, if_neg hsome, Utf8.encode_append,
      Escape.encodedLength_append, hspace, hroom]
    omega
  have hcap : outlet.cap ≠ some 0 := by decide
  have hfits : (fault.withMessage []).Fits := by
    show (fault.withMessage []).fullLine.length ≤ Line.maxLength
    decide
  have hname : '<' ∉ fault.name.toList := by decide
  have hkeeps : fault.Keeps (List.replicate 490 (Char.ofNat 0xE9)) := by
    refine @keeps_of_next fault (List.replicate 490 (Char.ofNat 0xE9)) (Char.ofNat 0xE9) ?_ ?_ ?_
    · rw [String.toList_ofList, ← List.replicate_succ']
      exact ⟨List.replicate 9 (Char.ofNat 0xE9) ++ ['%'], by
        rw [← List.append_assoc, List.replicate_append_replicate]⟩
    · rw [Fits, hlength 489]
      decide
    · rw [Fits, ← List.replicate_succ', hlength 490]
      decide
  obtain ⟨kept, hkept, -, hoctets, hresult, line, hverb, hread, hdecode⟩ :=
    (sendFault_keeps fault outlet rfl hcap).1 hfits
  exact ⟨rfl, hcap, hfits, hname, kept, hkept.unique hkeeps, hkept, hresult rfl, hoctets, line,
    hverb, hread, hdecode hname⟩

end Fault

end LineProtocol
