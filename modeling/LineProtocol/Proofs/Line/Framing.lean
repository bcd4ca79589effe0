import LineProtocol.Proofs.Line.EscapeRoundTrip
import LineProtocol.Proofs.Text.Utf8RoundTrip
import Mathlib.Data.List.TakeWhile

/-!
# What stands on a line

A line that can be written is its stem and a line feed. The stem holds no line feed and does not
end in a carriage return, so nothing that a reader does to find the end of a line touches it
(`lf_not_mem_stem`, `cr_not_mem_stem`), and it parses to the verb in upper case and the very
parameters (`parse_stem`). A reader skips it exactly if it is a comment or a status line with
something to say: `isInformational_stem`.
-/

set_option autoImplicit false

namespace LineProtocol

namespace Octet

/-- Only an octet that is no letter becomes one, and then it is the octet itself. -/
theorem upper_eq_iff {octet target : UInt8} (h : target < 0x41) :
    upper octet = target ↔ octet = target := by
  unfold upper
  split
  case isTrue hletter =>
    simp only [UInt8.le_iff_toNat_le, UInt8.lt_iff_toNat_lt, ← UInt8.toNat_inj,
      UInt8.toNat_sub] at *
    simp only [UInt8.reduceToNat] at *
    omega
  case isFalse => exact Iff.rfl

theorem upper_upper (octet : UInt8) : upper (upper octet) = upper octet := by
  by_cases hletter : 0x61 ≤ octet ∧ octet ≤ 0x7A
  · have hupper : ¬(0x61 ≤ octet - 0x20 ∧ octet - 0x20 ≤ 0x7A) := by
      simp only [UInt8.le_iff_toNat_le, UInt8.toNat_sub] at *
      simp only [UInt8.reduceToNat] at *
      omega
    simp only [upper, if_pos hletter, if_neg hupper]
  · simp only [upper, if_neg hletter]

theorem isBlank_upper {octet : UInt8} (h : isBlank octet = false) :
    isBlank (upper octet) = false := by
  by_contra hblank
  rw [Bool.not_eq_false] at hblank
  have htarget : upper octet < 0x41 := by
    unfold isBlank at hblank
    simp only [Bool.or_eq_true, beq_iff_eq] at hblank
    rcases hblank with (((h | h) | h) | h) | h <;> (rw [h]; decide)
  rw [← (upper_eq_iff htarget).1 rfl] at hblank
  exact Bool.false_ne_true (h.symm.trans hblank)

theorem isControl_upper {octet : UInt8} (h : isControl octet = false) :
    isControl (upper octet) = false := by
  unfold upper
  split
  case isTrue hletter =>
    simp only [isControl, Bool.or_eq_false_iff, decide_eq_false_iff_not, beq_eq_false_iff_ne,
      UInt8.le_iff_toNat_le, UInt8.lt_iff_toNat_lt, ne_eq, ← UInt8.toNat_inj,
      UInt8.toNat_sub] at *
    simp only [UInt8.reduceToNat] at *
    omega
  case isFalse => exact h

end Octet

namespace Line

/-! ### Verbs -/

/-- The octets of a line before its line feed. -/
def stem (verb parameters : Bytes) : Bytes :=
  verb.map Octet.upper ++
    (if parameters.isEmpty then [] else Octet.space :: Escape.encode parameters)

theorem render_eq (verb parameters : Bytes) :
    render verb parameters = stem verb parameters ++ [Octet.lf] := rfl

theorem isVerb_iff {octets : Bytes} :
    isVerb octets = true ↔
      octets ≠ [] ∧ ∀ octet ∈ octets, Octet.isBlank octet = false ∧
        Octet.isControl octet = false := by
  simp [isVerb]

/-- What a verb holds stays apart from everything below the letters in upper case. -/
theorem upper_ne_of_verb {octets : Bytes} {target : UInt8} (hverb : isVerb octets = true)
    (hblank : Octet.isBlank target = true ∨ Octet.isControl target = true)
    (hsmall : target < 0x41) : target ∉ octets.map Octet.upper := by
  intro hmem
  obtain ⟨octet, hoctet, hupper⟩ := List.mem_map.1 hmem
  obtain rfl := (Octet.upper_eq_iff hsmall).1 hupper
  have hplain := (isVerb_iff.1 hverb).2 octet hoctet
  rcases hblank with h | h
  · exact Bool.false_ne_true (hplain.1.symm.trans h)
  · exact Bool.false_ne_true (hplain.2.symm.trans h)

theorem length_stem (verb parameters : Bytes) :
    (stem verb parameters).length + 1 = lengthOf verb parameters := by
  unfold stem lengthOf
  split
  · simp
  · simp only [List.length_append, List.length_map, List.length_cons, Escape.length_encode]
    omega

theorem le_lengthOf (verb parameters : Bytes) :
    verb.length + parameters.length + 1 ≤ lengthOf verb parameters := by
  have hescaped := Escape.le_encodedLength parameters
  unfold lengthOf
  split
  case isTrue hempty => rw [List.isEmpty_iff.1 hempty, List.length_nil, Nat.add_zero]
  case isFalse => omega

theorem lengthOf_le (verb parameters : Bytes) :
    lengthOf verb parameters ≤ verb.length + 2 + Escape.encodedLength parameters := by
  unfold lengthOf
  split <;> omega

/-- A line is written exactly if its verb is one and it is not too long, and then it is its
stem and a line feed. -/
theorem encode_eq_ok_iff {verb : String} {parameters octets : Bytes} :
    encode verb parameters = .ok octets ↔
      isVerb (Utf8.encode verb) = true ∧
        lengthOf (Utf8.encode verb) parameters ≤ maxLength ∧
        octets = stem (Utf8.encode verb) parameters ++ [Octet.lf] := by
  unfold encode
  by_cases hverb : isVerb (Utf8.encode verb) = true
  · by_cases hlength : maxLength < lengthOf (Utf8.encode verb) parameters
    · simp [hverb, hlength]
    · simp only [hverb, hlength, Bool.not_true, Bool.false_eq_true, if_false, Except.ok.injEq,
        render_eq, true_and]
      constructor
      · rintro rfl
        exact ⟨by omega, rfl⟩
      · rintro ⟨-, rfl⟩
        rfl
  · simp [hverb]

/-- The line of a verb can only fail to be written for its length. -/
theorem lineTooLong_of_encode {verb : String} {parameters : Bytes} {cause : Failure}
    (hverb : isVerb (Utf8.encode verb) = true) (h : encode verb parameters = .error cause) :
    maxLength < lengthOf (Utf8.encode verb) parameters ∧
      cause = .lineTooLong (lengthOf (Utf8.encode verb) parameters) maxLength := by
  simp only [encode, hverb, Bool.not_true, Bool.false_eq_true, if_false] at h
  split at h
  case isTrue hlong => exact ⟨hlong, (Except.error.inj h).symm⟩
  case isFalse => exact nomatch h

theorem length_render (verb parameters : Bytes) :
    (render verb parameters).length = lengthOf verb parameters := by
  rw [render_eq, List.length_append, List.length_singleton, length_stem]

/-- The line of a verb is written if it is not too long, and otherwise its length is the error. -/
theorem encode_of_isVerb {verb : String} (hverb : isVerb (Utf8.encode verb) = true)
    (parameters : Bytes) :
    encode verb parameters =
      if (render (Utf8.encode verb) parameters).length ≤ maxLength then
        .ok (render (Utf8.encode verb) parameters)
      else .error (.lineTooLong (render (Utf8.encode verb) parameters).length maxLength) := by
  rw [length_render]
  by_cases hlength : lengthOf (Utf8.encode verb) parameters ≤ maxLength
  · rw [if_pos hlength]
    exact encode_eq_ok_iff.2 ⟨hverb, hlength, rfl⟩
  · rw [if_neg hlength, encode]
    simp only [hverb, Bool.not_true, Bool.false_eq_true, if_false, if_pos (Nat.not_le.1 hlength)]

/-! ### The end of a line -/

variable {verb parameters : Bytes}

/-- A line holds no line feed before its end. -/
theorem lf_not_mem_stem (hverb : isVerb verb = true) :
    Octet.lf ∉ stem verb parameters := by
  intro hmem
  rcases List.mem_append.1 hmem with hmem | hmem
  · exact upper_ne_of_verb hverb (.inl (by decide)) (by decide) hmem
  · split at hmem
    · exact List.not_mem_nil hmem
    · rcases List.mem_cons.1 hmem with h | h
      · exact absurd h (by decide)
      · exact (Escape.mem_encode h).2.1 rfl

theorem cr_not_mem_stem (hverb : isVerb verb = true) :
    Octet.cr ∉ stem verb parameters := by
  intro hmem
  rcases List.mem_append.1 hmem with hmem | hmem
  · exact upper_ne_of_verb hverb (.inl (by decide)) (by decide) hmem
  · split at hmem
    · exact List.not_mem_nil hmem
    · rcases List.mem_cons.1 hmem with h | h
      · exact absurd h (by decide)
      · exact (Escape.mem_encode h).1 rfl

/-! ### Reading a line back -/

theorem space_not_mem_verb (hverb : isVerb verb = true) :
    Octet.space ∉ verb.map Octet.upper :=
  upper_ne_of_verb hverb (.inl (by decide)) (by decide)

/-- The case of a verb is folded twice to the same effect as once. -/
theorem upperCase_upperCase (text : String) :
    upperCase (upperCase text) = upperCase text := by
  have hoctets : Utf8.encode (upperCase (upperCase text)) = Utf8.encode (upperCase text) := by
    rw [Utf8.encode_upperCase, Utf8.encode_upperCase, List.map_map]
    exact List.map_congr_left fun octet _ ↦ Octet.upper_upper octet
  have hdecoded := congrArg Utf8.decodeLossy hoctets
  rwa [Utf8.decodeLossy_encode, Utf8.decodeLossy_encode] at hdecoded

/-- What stands behind the first space of a line are its parameters. -/
theorem parse_of_space {verb : Bytes} (escaped : Bytes) (hverb : Octet.space ∉ verb) :
    parse (verb ++ Octet.space :: escaped) =
      (unescape escaped).map (Line.mk (upperCase (Utf8.decodeLossy verb))) := by
  have hplain : ∀ octet ∈ verb, (decide (octet ≠ Octet.space)) = true :=
    fun octet hmem ↦ decide_eq_true fun h ↦ hverb (h ▸ hmem)
  rw [parse, List.takeWhile_append_of_pos hplain, List.dropWhile_append_of_pos hplain]
  simp only [ne_eq, not_true_eq_false, decide_false, Bool.false_eq_true, not_false_eq_true,
    List.takeWhile_cons_of_neg, List.dropWhile_cons_of_neg, List.append_nil]
  cases unescape escaped <;> rfl

/-- A line without a space has none. -/
theorem parse_of_no_space {verb : Bytes} (hverb : Octet.space ∉ verb) :
    parse verb = .ok ⟨upperCase (Utf8.decodeLossy verb), []⟩ := by
  have hplain : ∀ octet ∈ verb, (decide (octet ≠ Octet.space)) = true :=
    fun octet hmem ↦ decide_eq_true fun h ↦ hverb (h ▸ hmem)
  rw [parse, List.takeWhile_eq_self_iff.2 hplain, List.dropWhile_eq_nil_iff.2 hplain]

/-- The verb of a line that can be read is what stands before the first space, in upper case. -/
theorem verb_of_parse {name : String} {rest : Bytes} {line : Line}
    (hname : Octet.space ∉ Utf8.encode name)
    (hrest : rest = [] ∨ rest.head? = some Octet.space)
    (h : parse (Utf8.encode name ++ rest) = .ok line) : line.verb = upperCase name := by
  rcases hrest with rfl | hspace
  · rw [List.append_nil, parse_of_no_space hname, Utf8.decodeLossy_encode] at h
    cases h
    rfl
  · obtain ⟨escaped, rfl⟩ := List.head?_eq_some_iff.1 hspace
    rw [parse_of_space escaped hname, Utf8.decodeLossy_encode] at h
    cases hparameters : unescape escaped with
    | error cause =>
      rw [hparameters] at h
      exact nomatch h
    | ok parameters =>
      rw [hparameters] at h
      cases h
      rfl

/-- A stem is read as its verb in upper case and its very parameters. -/
theorem parse_stem {name : String} (hverb : isVerb (Utf8.encode name) = true) :
    parse (stem (Utf8.encode name) parameters) = .ok ⟨upperCase name, parameters⟩ := by
  have hname : upperCase (Utf8.decodeLossy ((Utf8.encode name).map Octet.upper)) =
      upperCase name := by
    rw [← Utf8.encode_upperCase, Utf8.decodeLossy_encode, upperCase_upperCase]
  have hspace := space_not_mem_verb hverb
  rw [stem]
  cases parameters with
  | nil => rw [List.isEmpty_nil, if_pos rfl, List.append_nil, parse_of_no_space hspace, hname]
  | cons octet rest =>
    rw [List.isEmpty_cons, if_neg Bool.false_ne_true, parse_of_space _ hspace, hname,
      unescape_encode]
    rfl

/-! ### Lines that only inform -/

/-- Comments inform, and so do status lines that say something. -/
def informs (name : String) (parameters : Bytes) : Bool :=
  name.toList.head? == some '#' || ((name == "S" || name == "s") && !parameters.isEmpty)

theorem head?_encodeChar_eq_hash_iff (character : Char) :
    (String.utf8EncodeChar character).head? = some 0x23 ↔ character = '#' := by
  constructor
  · intro hhead
    have hvalid := Utf8.toNat_lt_of_char character
    have hvalue : character.val.toNat = 0x23 := by
      unfold String.utf8EncodeChar at hhead
      generalize character.val.toNat = value at hhead hvalid
      simp only at hhead
      -- only an octet that stands alone is below the leading octets
      have hoctet : ∀ octet < 256, UInt8.ofNat octet = 0x23 → octet = 0x23 := by
        intro octet hlt heq
        have := congrArg UInt8.toNat heq
        rwa [Utf8.toNat_ofNat_octet hlt] at this
      split at hhead
      · exact hoctet _ (by omega) (Option.some.inj hhead)
      split at hhead
      · have := hoctet _ (by omega) (Option.some.inj hhead)
        omega
      split at hhead
      · have := hoctet _ (by omega) (Option.some.inj hhead)
        omega
      · have := hoctet _ (by omega) (Option.some.inj hhead)
        omega
    rw [← Char.ofNat_toNat character, Char.toNat, hvalue]
  · rintro rfl
    decide

theorem head?_encode_eq_hash_iff (name : String) :
    (Utf8.encode name).head? = some 0x23 ↔ name.toList.head? = some '#' := by
  unfold Utf8.encode
  cases name.toList with
  | nil => simp
  | cons character later =>
    have hne : String.utf8EncodeChar character ≠ [] := by
      intro h
      have hlength := String.length_utf8EncodeChar character
      rw [h] at hlength
      exact absurd hlength (Nat.ne_of_lt (Char.utf8Size_pos character))
    rw [List.flatMap_cons, List.head?_append_of_ne_nil _ hne, head?_encodeChar_eq_hash_iff,
      List.head?_cons, Option.some.injEq]

theorem toUpper_eq_S_iff (character : Char) :
    character.toUpper = 'S' ↔ character = 'S' ∨ character = 's' := by
  constructor
  · intro hupper
    by_cases hascii : character.val.toNat < 0x80
    · have hall : ∀ value < 0x80, (Char.ofNat value).toUpper = 'S' →
          Char.ofNat value = 'S' ∨ Char.ofNat value = 's' := by decide
      have hself : Char.ofNat character.val.toNat = character := Char.ofNat_toNat character
      have := hall _ hascii
      rw [hself] at this
      exact this hupper
    · rw [Utf8.toUpper_of_not_ascii (by omega)] at hupper
      exact .inl hupper
  · rintro (rfl | rfl) <;> rfl

theorem upperCase_eq_S_iff (name : String) : upperCase name = "S" ↔ name = "S" ∨ name = "s" := by
  have hlist : upperCase name = "S" ↔ name.toList.map Char.toUpper = ['S'] := by
    rw [upperCase, ← String.toList_inj, String.toList_ofList]
    rfl
  rw [hlist, List.map_eq_singleton_iff]
  constructor
  · rintro ⟨character, hname, hupper⟩
    rcases (toUpper_eq_S_iff character).1 hupper with rfl | rfl
    · exact .inl (String.toList_inj.1 hname)
    · exact .inr (String.toList_inj.1 hname)
  · rintro (rfl | rfl)
    · exact ⟨'S', rfl, rfl⟩
    · exact ⟨'s', rfl, rfl⟩

theorem map_upper_eq_S_iff (name : String) :
    (Utf8.encode name).map Octet.upper = [0x53] ↔ name = "S" ∨ name = "s" := by
  rw [← Utf8.encode_upperCase, ← upperCase_eq_S_iff]
  constructor
  · intro h
    have hdecoded := congrArg Utf8.decodeLossy h
    rw [Utf8.decodeLossy_encode] at hdecoded
    rw [hdecoded]
    decide
  · intro h
    rw [h]
    decide

theorem head?_stem (hverb : isVerb verb = true) :
    (stem verb parameters).head? = some 0x23 ↔ verb.head? = some 0x23 := by
  have hne : verb.map Octet.upper ≠ [] := by
    rw [Ne, List.map_eq_nil_iff]
    exact (isVerb_iff.1 hverb).1
  rw [stem, List.head?_append_of_ne_nil _ hne, List.head?_map]
  cases verb.head? with
  | none => simp
  | some octet =>
    rw [Option.map_some, Option.some.injEq, Option.some.injEq]
    exact Octet.upper_eq_iff (by decide)

theorem take_two_stem (hverb : isVerb verb = true) :
    (stem verb parameters).take 2 = [0x53, Octet.space] ↔
      verb.map Octet.upper = [0x53] ∧ parameters ≠ [] := by
  have hspace := space_not_mem_verb hverb
  have hne : verb.map Octet.upper ≠ [] := by
    rw [Ne, List.map_eq_nil_iff]
    exact (isVerb_iff.1 hverb).1
  unfold stem
  generalize verb.map Octet.upper = folded at hspace hne
  match folded with
  | [] => exact absurd rfl hne
  | [first] => cases parameters <;> simp
  | first :: second :: rest =>
    have hsecond : second ≠ Octet.space := fun h ↦ hspace (by simp [h])
    simp [hsecond]

theorem not_all_blank_stem (hverb : isVerb verb = true) :
    (stem verb parameters).all Octet.isBlank = false := by
  obtain ⟨octet, rest, rfl⟩ := List.exists_cons_of_ne_nil (isVerb_iff.1 hverb).1
  rw [stem, List.map_cons, List.cons_append, List.all_cons]
  have hblank : Octet.isBlank (Octet.upper octet) = false :=
    Octet.isBlank_upper ((isVerb_iff.1 hverb).2 octet List.mem_cons_self).1
  rw [hblank, Bool.false_and]

/-- A reader skips a line exactly if it informs. -/
theorem isInformational_stem {name : String} (hverb : isVerb (Utf8.encode name) = true) :
    isInformational (stem (Utf8.encode name) parameters) = informs name parameters := by
  rw [Bool.eq_iff_iff]
  unfold isInformational informs
  simp only [not_all_blank_stem hverb, Bool.false_or, Bool.or_eq_true, beq_iff_eq,
    Bool.and_eq_true, Bool.not_eq_true', List.isEmpty_eq_false_iff]
  rw [head?_stem hverb, head?_encode_eq_hash_iff, take_two_stem hverb, map_upper_eq_S_iff]

end Line

end LineProtocol
