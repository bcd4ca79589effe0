import LineProtocol.Proofs.Fault.RoundTrip

/-!
# What the parameters of an error line say

The parameters are read in two parts, on either side of the first space that is not one of the
blanks in front: `leading` has to be the numeral of a number of thirty-two bits, and `trailing` is
the message with the name behind it. `decode_eq_ok_iff` says just that.

Any number will do. Of its bits only those of an origin and a code are kept (`wireCode_reported`).
Any text will do, too. A name is taken from it if it ends in a tag, that is in an opening bracket
with a closing one at the very end, and `Divides` tells what is then left for the message
(`divides_splitName`). Since the name has no opening bracket in it, a fault that was read survives
its encoding: `decode_exact`.
-/

set_option autoImplicit false

namespace LineProtocol.Fault

/-- The parameters up to their first space, without the blanks in front. -/
def leading (parameters : String) : List Char :=
  (parameters.toList.dropWhile Blank.isBlank).takeWhile (· ≠ ' ')

/-- The parameters behind that space, nothing if there is none. -/
def trailing (parameters : String) : List Char :=
  ((parameters.toList.dropWhile Blank.isBlank).dropWhile (· ≠ ' ')).tail

/-- Whether a text ends in brackets. -/
def Tagged (text : List Char) : Prop :=
  ∃ before name, text = before ++ '<' :: name ++ ['>']

/-- How a text is divided into a message and a name. Without a tag all of it is the message. The
name stands in the last brackets, and one space in front of them belongs to neither part. -/
inductive Divides (message : List Char) : List Char → List Char → Prop
  | untagged (h : ¬Tagged message) : Divides message [] message
  | spaced {name : List Char} (hname : '<' ∉ name) :
    Divides message name (message ++ ' ' :: '<' :: name ++ ['>'])
  | adjoining {name : List Char} (hname : '<' ∉ name) (hend : message.getLast? ≠ some ' ') :
    Divides message name (message ++ '<' :: name ++ ['>'])

variable {text : List Char}

/-! ### The name at the end of a text -/

theorem stripLast_eq_some_iff {mark : Char} {characters before : List Char} :
    stripLast mark characters = some before ↔ characters = before ++ [mark] := by
  constructor
  · intro h
    rw [stripLast, Option.ite_none_right_eq_some, List.getLast?_eq_some_iff] at h
    obtain ⟨⟨start, rfl⟩, hbefore⟩ := h
    rw [← Option.some.inj hbefore, List.dropLast_concat]
  · rintro rfl
    exact stripLast_append mark before

theorem stripLast_of_getLast? {mark : Char} {characters : List Char}
    (h : characters.getLast? ≠ some mark) : stripLast mark characters = none :=
  if_neg h

/-- The brackets at the end of a text may be taken to be the last ones. -/
theorem Tagged.exists_last (h : Tagged text) :
    ∃ before name, text = before ++ '<' :: name ++ ['>'] ∧ '<' ∉ name := by
  obtain ⟨before, name, rfl⟩ := h
  obtain ⟨first, last, hlast, hname⟩ :=
    exists_last_of_mem (List.mem_append_right before (List.mem_cons_self (a := '<') (l := name)))
  exact ⟨first, last, by rw [hlast], hname⟩

theorem splitName_of_not_tagged (h : ¬Tagged text) : splitName text = (text, []) := by
  rw [splitName]
  split
  case h_1 => rfl
  case h_2 body hbody =>
    have hplain : '<' ∉ body := by
      intro hmem
      obtain ⟨before, name, rfl⟩ := List.append_of_mem hmem
      exact h ⟨before, name, stripLast_eq_some_iff.1 hbody⟩
    rw [splitLast_of_not_mem hplain]

/-- Every text is divided into what it is split into. -/
theorem divides_splitName (text : List Char) :
    Divides (splitName text).1 (splitName text).2 text := by
  by_cases htagged : Tagged text
  · obtain ⟨before, name, rfl, hname⟩ := htagged.exists_last
    rw [splitName_of_tag before hname]
    by_cases hspace : before.getLast? = some ' '
    · obtain ⟨message, rfl⟩ := List.getLast?_eq_some_iff.1 hspace
      rw [stripLast_append, Option.getD_some, List.append_assoc message]
      exact .spaced hname
    · rw [stripLast_of_getLast? hspace, Option.getD_none]
      exact .adjoining hname hspace
  · rw [splitName_of_not_tagged htagged]
    exact .untagged htagged

theorem Divides.not_mem_name {message name : List Char} (h : Divides message name text) :
    '<' ∉ name := by
  cases h with
  | untagged => exact List.not_mem_nil
  | spaced hname => exact hname
  | adjoining hname => exact hname

/-! ### The bits of the number -/

/-- The seven bits of an origin and the sixteen bits of a code. -/
theorem land_registered (value : Nat) :
    value &&& 0x7f00ffff = value / 0x1000000 % 0x80 * 0x1000000 + value % 0x10000 := by
  have horigin : (value &&& 0x7f00ffff) / 2 ^ 24 = value / 2 ^ 24 % 2 ^ 7 := by
    rw [Nat.and_div_two_pow]
    exact Nat.and_two_pow_sub_one_eq_mod _ 7
  have hcode : (value &&& 0x7f00ffff) % 2 ^ 24 = value % 2 ^ 24 % 2 ^ 16 := by
    rw [Nat.and_mod_two_pow]
    exact Nat.and_two_pow_sub_one_eq_mod _ 16
  omega

/-! ### What is read -/

theorem wireCode_reported (value : Nat) (text : List Char) :
    (reported value text).wireCode = value &&& 0x7f00ffff := by
  have horigin : (reported value text).origin.number = value / 0x1000000 % 0x80 :=
    number_ofNumber_origin (Nat.mod_lt _ (by decide))
  have hcode : (reported value text).code.number = value % 0x10000 :=
    number_ofNumber_code (Nat.mod_lt _ (by decide))
  rw [wireCode, horigin, hcode, land_registered]

/-- A fault that was read has the numbers it was read with. -/
theorem heard_reported (value : Nat) (text : List Char) :
    (reported value text).heard = reported value text := by
  simp only [heard, reported, number_ofNumber_origin (Nat.mod_lt _ (by decide : 0 < 0x80)),
    number_ofNumber_code (Nat.mod_lt _ (by decide : 0 < 0x10000))]

theorem divides_reported (value : Nat) (text : List Char) :
    Divides (reported value text).message.toList (reported value text).name.toList text := by
  simp only [reported, String.toList_ofList]
  exact divides_splitName text

theorem splitSpace_trimStart (parameters : String) :
    splitSpace (Blank.trimStart parameters.toList) = (leading parameters, trailing parameters) := by
  rw [splitSpace, List.span_eq_takeWhile_dropWhile, leading, trailing, Blank.trimStart]
  split
  case h_1 number hsplit =>
    obtain ⟨hnumber, hrest⟩ := Prod.mk.inj hsplit
    rw [hnumber, hrest, List.tail_nil]
  case h_2 number space rest hsplit =>
    obtain ⟨hnumber, hrest⟩ := Prod.mk.inj hsplit
    rw [hnumber, hrest, List.tail_cons]

/-- The parameters are read if a number of thirty-two bits leads them. -/
theorem decode_eq_ok_iff {parameters : String} {fault : Fault} :
    decode parameters = .ok fault ↔
      ∃ value, Decimal.Numeral value (leading parameters) ∧ value < 0x100000000 ∧
        fault = reported value (trailing parameters) := by
  have hsplit := splitSpace_trimStart parameters
  constructor
  · intro h
    cases hnumber : Decimal.below? 0x100000000 (leading parameters) with
    | none => simp only [decode, hsplit, hnumber, reduceCtorEq] at h
    | some value =>
      obtain ⟨hnumeral, hbound⟩ := Decimal.below?_eq_some_iff.1 hnumber
      rw [decode_of_split hsplit hnumber] at h
      exact ⟨value, hnumeral, hbound, (Except.ok.inj h).symm⟩
  · rintro ⟨value, hnumeral, hbound, rfl⟩
    exact decode_of_split hsplit (Decimal.below?_eq_some_iff.2 ⟨hnumeral, hbound⟩)

/-- The parameters are read exactly if they are led by a numeral below the bound. The fault that is
read has the registered bits of its number, and the text behind it is divided into the message and
the name. Encoded and read again, it is the same by all that faults are compared by, and so is its
encoding. -/
theorem decode_exact (parameters : String) :
    ((∃ fault, decode parameters = .ok fault) ↔
      ∃ value < 0x100000000, Decimal.Numeral value (leading parameters)) ∧
    ∀ fault, decode parameters = .ok fault →
      (∃ value < 0x100000000, Decimal.Numeral value (leading parameters) ∧
        fault.wireCode = value &&& 0x7f00ffff) ∧
      Divides fault.message.toList fault.name.toList (trailing parameters) ∧
      '<' ∉ fault.name.toList ∧
      ∃ found, decode fault.encode = .ok found ∧ found.agrees fault = true ∧
        found.encode = fault.encode := by
  constructor
  · constructor
    · rintro ⟨fault, hread⟩
      obtain ⟨value, hnumeral, hbound, -⟩ := decode_eq_ok_iff.1 hread
      exact ⟨value, hbound, hnumeral⟩
    · rintro ⟨value, hbound, hnumeral⟩
      exact ⟨_, decode_eq_ok_iff.2 ⟨value, hnumeral, hbound, rfl⟩⟩
  · intro fault hread
    obtain ⟨value, hnumeral, hbound, rfl⟩ := decode_eq_ok_iff.1 hread
    have hdivides := divides_reported value (trailing parameters)
    have hname := hdivides.not_mem_name
    refine ⟨⟨value, hbound, hnumeral, wireCode_reported value _⟩, hdivides, hname, ?_⟩
    exact ⟨_, decode_encode _ hname, agrees_heard _, encode_heard _⟩

/-- Three kinds of blanks and a plus sign in front, a number with all the bits that are not
registered, and a tag with a closing bracket inside, right behind one that is left open. -/
theorem decode_exact_of_nested_tags :
    let parameters := "\t\u00a0 +4294901761 see <docs><<a> b>"
    let fault : Fault := ⟨.other 127, .general, "a> b", "see <docs><"⟩
    decode parameters = .ok fault ∧
      (∃ value < 0x100000000, Decimal.Numeral value (leading parameters) ∧
        fault.wireCode = value &&& 0x7f00ffff) ∧
      Divides fault.message.toList fault.name.toList (trailing parameters) ∧
      '<' ∉ fault.name.toList ∧
      ∃ found, decode fault.encode = .ok found ∧ found.agrees fault = true ∧
        found.encode = fault.encode := by
  intro parameters fault
  have hread : decode parameters = .ok fault := by decide +kernel
  exact ⟨hread, (decode_exact parameters).2 fault hread⟩

end LineProtocol.Fault
