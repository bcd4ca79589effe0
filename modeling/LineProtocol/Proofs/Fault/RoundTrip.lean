import LineProtocol.Fault.Codec
import LineProtocol.Proofs.Text.Numeral

/-!
# A fault survives its encoding

The number of a fault is written in decimal digits, up to a space, and is read back from them
(`below?_toDigits`). The name comes last, in brackets. A name without an opening bracket is the
text behind the last one, whatever the message looks like (`splitLast_append`). So
`decode_encode` reads back the numbers, the name and the message of a fault; the origin and the
code are then those registered under the numbers, which is as far as faults are compared. Of any
other name a part is lost, so the names without an opening bracket are just those of the faults
that survive: `decode_encode_agrees_iff`.
-/

set_option autoImplicit false

namespace LineProtocol

namespace Fault

theorem number_origin_lt (origin : Origin) : origin.number < 0x80 := by
  cases origin with
  | other number => exact Nat.mod_lt _ (by decide)
  | _ => decide

theorem number_code_lt (code : Code) : code.number < 0x10000 := by
  cases code with
  | other number => exact Nat.mod_lt _ (by decide)
  | _ => decide

theorem wireCode_lt (fault : Fault) : fault.wireCode < 0x100000000 := by
  have horigin := number_origin_lt fault.origin
  have hcode := number_code_lt fault.code
  unfold wireCode
  omega

theorem stripLast_append (mark : Char) (characters : List Char) :
    stripLast mark (characters ++ [mark]) = some characters := by
  simp [stripLast]

theorem splitLast_of_not_mem {mark : Char} {characters : List Char} (h : mark ∉ characters) :
    splitLast mark characters = none := by
  induction characters with
  | nil => rfl
  | cons first later ih =>
    rw [List.mem_cons, not_or] at h
    rw [splitLast, ih h.2]
    simp only
    rw [if_neg (Ne.symm h.1)]

/-- A text is split at a mark that is not behind it again. -/
theorem splitLast_append {mark : Char} {after : List Char} (before : List Char)
    (h : mark ∉ after) : splitLast mark (before ++ mark :: after) = some (before, after) := by
  induction before with
  | nil => simp [splitLast, splitLast_of_not_mem h]
  | cons first later ih => rw [List.cons_append, splitLast, ih]

theorem splitName_of_tag {name : List Char} (message : List Char) (h : '<' ∉ name) :
    splitName (message ++ '<' :: name ++ ['>']) = ((stripLast ' ' message).getD message, name) := by
  unfold splitName
  rw [stripLast_append]
  simp only [splitLast_append message h]

theorem splitSpace_append {number : List Char} (rest : List Char) (h : ' ' ∉ number) :
    splitSpace (number ++ ' ' :: rest) = (number, rest) := by
  have hplain : ∀ character ∈ number, (decide (character ≠ ' ')) = true :=
    fun character hmem ↦ decide_eq_true fun heq ↦ h (heq ▸ hmem)
  rw [splitSpace, List.span_eq_takeWhile_dropWhile, List.takeWhile_append_of_pos hplain,
    List.dropWhile_append_of_pos hplain]
  simp

/-- The number of a fault is what its encoding starts with and the name is at its end; the message
is between them, and the space behind it is not part of it. -/
theorem toList_encode (fault : Fault) :
    ∃ body : List Char,
      fault.encode.toList =
        Nat.toDigits 10 fault.wireCode ++ ' ' :: (body ++ '<' :: fault.name.toList ++ ['>']) ∧
      (stripLast ' ' body).getD body = fault.message.toList := by
  by_cases hempty : fault.message = ""
  case pos =>
    refine ⟨[], ?_, ?_⟩
    · rw [encode, if_pos hempty]
      simp [Nat.toString_eq_repr, Nat.toList_repr]
    · rw [hempty]
      rfl
  case neg =>
    refine ⟨fault.message.toList ++ [' '], ?_, ?_⟩
    · rw [encode, if_neg hempty]
      simp [Nat.toString_eq_repr, Nat.toList_repr]
    · rw [stripLast_append, Option.getD_some]

/-- The fault that a number and the text behind it report. -/
def reported (value : Nat) (text : List Char) : Fault where
  origin := .ofNumber (value / 0x1000000 % 0x80)
  code := .ofNumber (value % 0x10000)
  name := String.ofList (splitName text).2
  message := String.ofList (splitName text).1

theorem decode_of_split {parameters : String} {number rest : List Char} {value : Nat}
    (hsplit : splitSpace (Blank.trimStart parameters.toList) = (number, rest))
    (hnumber : Decimal.below? 0x100000000 number = some value) :
    decode parameters = .ok (reported value rest) := by
  simp only [decode, hsplit, hnumber, reported]

theorem wireCode_origin (fault : Fault) :
    fault.wireCode / 0x1000000 % 0x80 = fault.origin.number := by
  have horigin := number_origin_lt fault.origin
  have hcode := number_code_lt fault.code
  unfold wireCode
  omega

theorem wireCode_code (fault : Fault) : fault.wireCode % 0x10000 = fault.code.number := by
  have hcode := number_code_lt fault.code
  unfold wireCode
  omega

/-- What a reader makes of a fault: its origin and code are those registered under its numbers. -/
def heard (fault : Fault) : Fault :=
  ⟨.ofNumber fault.origin.number, .ofNumber fault.code.number, fault.name, fault.message⟩

theorem number_ofNumber_origin {number : Nat} (h : number < 0x80) :
    (Origin.ofNumber number).number = number := by
  unfold Origin.ofNumber
  split
  case h_7 => exact Nat.mod_eq_of_lt h
  all_goals rfl

theorem number_ofNumber_code {number : Nat} (h : number < 0x10000) :
    (Code.ofNumber number).number = number := by
  unfold Code.ofNumber
  split
  case h_14 => exact Nat.mod_eq_of_lt h
  all_goals rfl

@[simp] theorem number_origin_heard (fault : Fault) :
    fault.heard.origin.number = fault.origin.number :=
  number_ofNumber_origin (number_origin_lt _)

@[simp] theorem number_code_heard (fault : Fault) : fault.heard.code.number = fault.code.number :=
  number_ofNumber_code (number_code_lt _)

@[simp] theorem name_heard (fault : Fault) : fault.heard.name = fault.name :=
  rfl

@[simp] theorem message_heard (fault : Fault) : fault.heard.message = fault.message :=
  rfl

/-- A reader's fault is the same by all that faults are compared by. -/
theorem agrees_heard (fault : Fault) : fault.heard.agrees fault = true := by
  simp [agrees]

@[simp] theorem wireCode_heard (fault : Fault) : fault.heard.wireCode = fault.wireCode := by
  simp only [wireCode, number_origin_heard, number_code_heard]

/-- What a reader makes of a fault is written as the fault was. -/
theorem encode_heard (fault : Fault) : fault.heard.encode = fault.encode := by
  rw [encode, wireCode_heard, name_heard, message_heard, encode]

/-- Decoding an encoded fault gives what its number and the text behind it report. -/
theorem exists_decode_encode (fault : Fault) :
    ∃ body, (stripLast ' ' body).getD body = fault.message.toList ∧
      decode fault.encode =
        .ok (reported fault.wireCode (body ++ '<' :: fault.name.toList ++ ['>'])) := by
  have hspace : ' ' ∉ Nat.toDigits 10 fault.wireCode :=
    fun hmem ↦ absurd (Decimal.isDigit_of_mem_toDigits hmem) (by decide)
  obtain ⟨body, hencode, hbody⟩ := toList_encode fault
  have hsplit : splitSpace (Blank.trimStart fault.encode.toList) =
      (Nat.toDigits 10 fault.wireCode, body ++ '<' :: fault.name.toList ++ ['>']) := by
    rw [hencode, Decimal.trimStart_toDigits, splitSpace_append _ hspace]
  exact ⟨body, hbody, decode_of_split hsplit (Decimal.below?_toDigits (wireCode_lt fault))⟩

/-- Decoding an encoded fault gives it back, if there is no opening bracket in its name. -/
theorem decode_encode (fault : Fault) (h : '<' ∉ fault.name.toList) :
    decode fault.encode = .ok fault.heard := by
  obtain ⟨body, hbody, hdecode⟩ := exists_decode_encode fault
  rw [hdecode, reported, splitName_of_tag _ h, wireCode_origin, wireCode_code]
  simp only [hbody, String.ofList_toList, heard]

/-! ### Names that do not survive -/

/-- A text with a mark in it has a last one. -/
theorem exists_last_of_mem {mark : Char} {characters : List Char} (h : mark ∈ characters) :
    ∃ before after, characters = before ++ mark :: after ∧ mark ∉ after := by
  obtain ⟨after, before, hreverse, hafter⟩ :=
    List.eq_append_cons_of_mem (List.mem_reverse.2 h)
  refine ⟨before.reverse, after.reverse, ?_, by simpa using hafter⟩
  rw [← List.reverse_reverse characters, hreverse]
  simp

/-- Of a name with an opening bracket in it only what is behind the last one is read back. -/
theorem decode_encode_of_mem {fault : Fault} (h : '<' ∈ fault.name.toList) :
    ∃ found, decode fault.encode = .ok found ∧ found.name ≠ fault.name := by
  obtain ⟨before, after, hname, hafter⟩ := exists_last_of_mem h
  obtain ⟨body, -, hdecode⟩ := exists_decode_encode fault
  refine ⟨_, hdecode, fun heq ↦ ?_⟩
  have htag : body ++ '<' :: fault.name.toList ++ ['>'] =
      (body ++ '<' :: before) ++ '<' :: after ++ ['>'] := by
    simp [hname]
  have hshorter : after = before ++ '<' :: after := by
    rw [← hname, ← heq, htag, reported, splitName_of_tag _ hafter, String.toList_ofList]
  have hlength := congrArg List.length hshorter
  rw [List.length_append, List.length_cons] at hlength
  omega

theorem not_mem_name_make (origin : Origin) (code : Code) (name message : String) :
    '<' ∉ (make origin code name message).name.toList := by
  rw [make, String.toList_ofList, List.mem_map]
  rintro ⟨character, -, hcharacter⟩
  split at hcharacter
  · exact absurd hcharacter (by decide)
  · exact absurd hcharacter ‹_›

/-- A fault that was built has the numbers it was built from. -/
theorem heard_make (origin : Origin) (code : Code) (name message : String) :
    (make origin code name message).heard = make origin code name message := by
  simp only [heard, make, number_ofNumber_origin (number_origin_lt _),
    number_ofNumber_code (number_code_lt _)]

/-- A fault survives its encoding, by all that faults are compared by, exactly if there is no
opening bracket in its name. A fault that was built has none, so it survives whole, and it is the
one that was asked for but for the underscores in their place. -/
theorem decode_encode_agrees_iff :
    (∀ fault : Fault,
      (∃ found, decode fault.encode = .ok found ∧ found.agrees fault = true) ↔
        '<' ∉ fault.name.toList) ∧
    ∀ (origin : Origin) (code : Code) (name message : String),
      decode (make origin code name message).encode = .ok (make origin code name message) ∧
        (make origin code name message).agrees
          ⟨origin, code, String.ofList (name.toList.map fun character ↦
            if character = '<' then '_' else character), message⟩ = true := by
  refine ⟨fun fault ↦ ⟨?_, fun h ↦ ?_⟩, fun origin code name message ↦ ⟨?_, ?_⟩⟩
  · rintro ⟨found, hfound, hagrees⟩ hmem
    obtain ⟨other, hother, hname⟩ := decode_encode_of_mem hmem
    obtain rfl := Except.ok.inj (hfound.symm.trans hother)
    simp only [agrees, Bool.and_eq_true, beq_iff_eq] at hagrees
    exact hname hagrees.1.2
  · exact ⟨fault.heard, decode_encode fault h, agrees_heard fault⟩
  · rw [decode_encode _ (not_mem_name_make origin code name message), heard_make]
  · exact agrees_heard ⟨origin, code, _, message⟩

/-- The message may end like a tag, and the name may close one. -/
example :
    decode (Fault.encode ⟨.other 143, .other 65537, "a> b", " see <docs>"⟩) =
      .ok ⟨.assuan, .general, "a> b", " see <docs>"⟩ := by
  decide +kernel

end Fault

end LineProtocol
