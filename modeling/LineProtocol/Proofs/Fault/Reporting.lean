import LineProtocol.Proofs.Fault.RoundTrip
import LineProtocol.Proofs.Line.Sending

/-!
# Faults as they are reported

Looking for the `ERR` line of a fault is looking for the longest beginning of its message that is
not too long. `shortened` is the fault with that message (`line_eq`), and no longer beginning fits
(`lineTooLong_of_longer`). The reader of the line takes it for a fault that agrees with the
shortened one (`decode_shortened`). A fault has no line at all only if its name is to blame
(`lineTooLong_of_composed`): a short one never is (`exists_composed`), and one as long as a line
always (`exists_lineTooLong`).
-/

set_option autoImplicit false

namespace LineProtocol

namespace Fault

/-- The longest beginning of a message whose line is not too long, nothing if there is none. The
message is given backwards. -/
def longestMessage (attempt : List Char → Except Failure Bytes) : List Char → List Char
  | [] => []
  | final :: before =>
    match attempt (final :: before).reverse with
    | .error (.lineTooLong _ _) => longestMessage attempt before
    | _ => (final :: before).reverse

theorem longestLine_eq (attempt : List Char → Except Failure Bytes) (backwards : List Char) :
    longestLine attempt backwards = attempt (longestMessage attempt backwards) := by
  induction backwards with
  | nil => rfl
  | cons final before ih =>
    rw [longestLine, longestMessage]
    cases htried : attempt (final :: before).reverse with
    | ok octets => exact htried.symm
    | error cause =>
      cases cause with
      | lineTooLong length limit => exact ih
      | _ => exact htried.symm

theorem longestMessage_isPrefix (attempt : List Char → Except Failure Bytes)
    (backwards : List Char) : longestMessage attempt backwards <+: backwards.reverse := by
  induction backwards with
  | nil => exact List.prefix_rfl
  | cons final before ih =>
    rw [longestMessage]
    split
    · rw [List.reverse_cons]
      exact ih.trans (List.prefix_append _ _)
    · exact List.prefix_rfl

theorem lineTooLong_of_longestMessage (attempt : List Char → Except Failure Bytes)
    {backwards longer : List Char} (hbegins : longer <+: backwards.reverse)
    (hlonger : (longestMessage attempt backwards).length < longer.length) :
    ∃ length limit, attempt longer = .error (.lineTooLong length limit) := by
  induction backwards with
  | nil =>
    rw [List.reverse_nil, List.prefix_nil] at hbegins
    subst hbegins
    exact absurd hlonger (Nat.not_lt_zero _)
  | cons final before ih =>
    rw [longestMessage] at hlonger
    have hlength := hbegins.length_le
    rw [List.reverse_cons, List.prefix_concat_iff, ← List.reverse_cons] at hbegins
    split at hlonger
    case h_1 length limit heq =>
      rcases hbegins with rfl | hbegins
      · exact ⟨length, limit, heq⟩
      · exact ih hbegins hlonger
    case h_2 => omega

/-- The fault with as much of its message as its line has room for. -/
def shortened (fault : Fault) : Fault :=
  { fault with
    message := String.ofList (longestMessage fault.lineWith fault.message.toList.reverse) }

/-- The `ERR` line of a fault, unless not even its numbers and its name fit. -/
def composed (fault : Fault) : Except Failure Line :=
  Line.compose "ERR" (Utf8.encode fault.shortened.encode)

/-- The line of a fault is that of the shortened one. -/
theorem line_eq (fault : Fault) : fault.line = fault.composed.map Line.octets := by
  rw [composed, ← Line.encode_eq_map_compose]
  exact longestLine_eq fault.lineWith _

/-- What is kept of a message is a beginning of it. -/
theorem shortened_isPrefix (fault : Fault) :
    fault.shortened.message.toList <+: fault.message.toList := by
  have hbegins := longestMessage_isPrefix fault.lineWith fault.message.toList.reverse
  rw [List.reverse_reverse] at hbegins
  rwa [shortened, String.toList_ofList]

/-- No longer beginning of the message fits the line. -/
theorem lineTooLong_of_longer (fault : Fault) {longer : List Char}
    (hbegins : longer <+: fault.message.toList)
    (hlonger : fault.shortened.message.toList.length < longer.length) :
    ∃ length limit, fault.lineWith longer = .error (.lineTooLong length limit) := by
  rw [shortened, String.toList_ofList] at hlonger
  refine lineTooLong_of_longestMessage fault.lineWith ?_ hlonger
  rwa [List.reverse_reverse]

/-! ### Faults that cannot be reported -/

theorem longestMessage_eq_nil_or (attempt : List Char → Except Failure Bytes)
    (backwards : List Char) :
    longestMessage attempt backwards = [] ∨
      ∀ length limit, attempt (longestMessage attempt backwards) ≠
        .error (.lineTooLong length limit) := by
  induction backwards with
  | nil => exact .inl rfl
  | cons final before ih =>
    rw [longestMessage]
    split
    case h_1 => exact ih
    case h_2 hother => exact .inr fun length limit htried ↦ hother length limit htried

/-- A fault has no line only if its numbers and its name alone are too long for one. -/
theorem lineTooLong_of_composed {fault : Fault} {cause : Failure}
    (h : fault.composed = .error cause) :
    fault.lineWith [] = .error cause ∧ ∃ length, cause = .lineTooLong length Line.maxLength := by
  have hverb : Line.isVerb (Utf8.encode "ERR") = true := by decide
  have htried : fault.lineWith (longestMessage fault.lineWith fault.message.toList.reverse) =
      .error cause := by
    have hencode := Line.encode_eq_map_compose "ERR" (Utf8.encode fault.shortened.encode)
    rw [show Line.compose "ERR" (Utf8.encode fault.shortened.encode) = .error cause from h]
      at hencode
    exact hencode
  obtain ⟨-, hcause⟩ := Line.lineTooLong_of_encode hverb htried
  rcases longestMessage_eq_nil_or fault.lineWith fault.message.toList.reverse with hnil | hfits
  · rw [hnil] at htried
    exact ⟨htried, _, hcause⟩
  · rw [hcause] at htried
    exact absurd htried (hfits _ _)

/-- A fault with a short name always has a line. -/
theorem exists_composed (fault : Fault) (h : fault.name.toList.length ≤ 60) :
    ∃ line, fault.composed = .ok line := by
  cases hcomposed : fault.composed with
  | ok line => exact ⟨line, rfl⟩
  | error cause =>
    exfalso
    have hverb : Line.isVerb (Utf8.encode "ERR") = true := by decide
    obtain ⟨hlong, -⟩ := Line.lineTooLong_of_encode hverb (lineTooLong_of_composed hcomposed).1
    have hdigits : (Nat.toDigits 10 fault.wireCode).length ≤ 10 :=
      (Nat.length_toDigits_le_iff (by decide) (by decide)).2
        (Nat.lt_trans (wireCode_lt fault) (by decide))
    have hcharacters : { fault with message := String.ofList [] }.encode.toList.length =
        (Nat.toDigits 10 fault.wireCode).length + fault.name.toList.length + 3 := by
      simp only [encode, wireCode, String.toList_append, List.length_append,
        Nat.toString_eq_repr, Nat.toList_repr]
      simp
      omega
    have hoctets := Utf8.length_encode_le { fault with message := String.ofList [] }.encode
    have hescaped := Escape.encodedLength_le
      (Utf8.encode { fault with message := String.ofList [] }.encode)
    have hshort := Line.lengthOf_le (Utf8.encode "ERR")
      (Utf8.encode { fault with message := String.ofList [] }.encode)
    have hmost : (Utf8.encode "ERR").length + 2 + 3 * (4 * 73) ≤ Line.maxLength := by decide
    omega

/-- A fault with a name as long as a line has none. -/
theorem exists_lineTooLong (fault : Fault) (h : Line.maxLength ≤ fault.name.toList.length) :
    ∃ length, fault.composed = .error (.lineTooLong length Line.maxLength) := by
  cases hcomposed : fault.composed with
  | error cause =>
    obtain ⟨-, length, rfl⟩ := lineTooLong_of_composed hcomposed
    exact ⟨length, rfl⟩
  | ok line =>
    exfalso
    have hencoded : Line.encode "ERR" (Utf8.encode fault.shortened.encode) = .ok line.octets := by
      rw [Line.encode_eq_map_compose]
      exact congrArg (Except.map Line.octets) hcomposed
    obtain ⟨-, hfits, -⟩ := Line.encode_eq_ok_iff.1 hencoded
    have hname : fault.name.toList.length ≤ fault.shortened.encode.toList.length := by
      simp only [encode, shortened, String.toList_append, List.length_append]
      omega
    have hoctets := Utf8.le_length_encode fault.shortened.encode
    have hline := Line.le_lengthOf (Utf8.encode "ERR") (Utf8.encode fault.shortened.encode)
    omega

/-- A reader takes the line of a fault for what is left of the fault. -/
theorem decode_shortened (fault : Fault) (h : '<' ∉ fault.name.toList) :
    decode fault.shortened.encode = .ok fault.shortened.heard :=
  decode_encode fault.shortened h

/-! ### Faults that are reported again -/

theorem lineWith_message (fault : Fault) :
    fault.lineWith fault.message.toList = Line.encode "ERR" (Utf8.encode fault.encode) := by
  rw [lineWith, String.ofList_toList]

/-- A message whose line is not too long is kept whole. -/
theorem longestMessage_of_ok {attempt : List Char → Except Failure Bytes}
    {backwards : List Char} {octets : Bytes} (h : attempt backwards.reverse = .ok octets) :
    longestMessage attempt backwards = backwards.reverse := by
  cases backwards with
  | nil => rfl
  | cons final before => rw [longestMessage, h]

/-- Nothing is taken from a fault whose line is not too long. -/
theorem shortened_of_encode {fault : Fault} {octets : Bytes}
    (h : Line.encode "ERR" (Utf8.encode fault.encode) = .ok octets) :
    fault.shortened = fault := by
  rw [← lineWith_message, ← List.reverse_reverse fault.message.toList] at h
  rw [shortened, longestMessage_of_ok h, List.reverse_reverse, String.ofList_toList]

/-- The line of what a reader makes of a fault's line is that line. -/
theorem line_heard_shortened {fault : Fault} {octets : Bytes} (h : fault.line = .ok octets) :
    fault.shortened.heard.line = .ok octets := by
  have hencoded : Line.encode "ERR" (Utf8.encode fault.shortened.heard.encode) = .ok octets := by
    rw [encode_heard, ← lineWith_message, shortened, String.toList_ofList]
    exact (longestLine_eq fault.lineWith _).symm.trans h
  rw [line_eq, composed, shortened_of_encode hencoded, ← Line.encode_eq_map_compose, hencoded]

end Fault

end LineProtocol
