import LineProtocol.Proofs.Line.EscapeRoundTrip

/-!
# Escaped forms

A reader of escaped text goes from left to right: it takes one octet that is no percent sign, or a
percent sign with two hexadecimal digits behind it. `Reaches` says which offsets it comes to. A
percent sign that it comes to and that no two digits follow is stray. Reading fails exactly at a
stray percent sign (`decode_eq_error_iff`), and there is at most one, since nothing is reached
behind it.

A text is canonical if none of the octets that need an escape stands for itself in it and every
percent sign heads one of the four escapes that are written. Those are the texts that a writer
makes (`canonical_iff`), and among the readable texts they are the ones that are written again as
they were read.
-/

set_option autoImplicit false

namespace LineProtocol.Escape

/-! ### Where a reader comes to -/

/-- The hexadecimal digits in either case. -/
def hexDigits : Bytes :=
  [0x30, 0x31, 0x32, 0x33, 0x34, 0x35, 0x36, 0x37, 0x38, 0x39, 0x41, 0x42, 0x43, 0x44, 0x45, 0x46,
    0x61, 0x62, 0x63, 0x64, 0x65, 0x66]

/-- Two hexadecimal digits stand behind the offset. -/
def StartsEscape (text : Bytes) (offset : Nat) : Prop :=
  ∃ high ∈ hexDigits, ∃ low ∈ hexDigits,
    text[offset + 1]? = some high ∧ text[offset + 2]? = some low

/-- The offsets that a reader comes to, who goes from left to right and takes each escape as a
whole. -/
inductive Reaches (text : Bytes) : Nat → Prop
  | start : Reaches text 0
  | plain {offset : Nat} {octet : UInt8} (h : Reaches text offset)
      (hoctet : text[offset]? = some octet) (hplain : octet ≠ percent) :
    Reaches text (offset + 1)
  | escape {offset : Nat} (h : Reaches text offset) (hpercent : text[offset]? = some percent)
      (hdigits : StartsEscape text offset) : Reaches text (offset + 3)

/-- A percent sign that starts no escape, though none before it has consumed it. -/
structure Stray (text : Bytes) (offset : Nat) : Prop where
  reached : Reaches text offset
  percent : text[offset]? = some percent
  lone : ¬StartsEscape text offset

theorem hexValue?_isSome_iff (digit : UInt8) :
    (hexValue? digit).isSome = true ↔ digit ∈ hexDigits := by
  have hall : ∀ value < 256, (hexValue? (UInt8.ofNat value)).isSome = true ↔
      UInt8.ofNat value ∈ hexDigits := by decide +kernel
  have hdigit := hall digit.toNat digit.toNat_lt
  rwa [UInt8.ofNat_toNat] at hdigit

theorem drop_eq_cons_iff {text rest : Bytes} {offset : Nat} {octet : UInt8} :
    text.drop offset = octet :: rest ↔
      text[offset]? = some octet ∧ text.drop (offset + 1) = rest := by
  rw [← List.head?_drop, ← List.tail_drop]
  cases text.drop offset <;> simp

theorem startsEscape_iff {text : Bytes} {offset : Nat} :
    StartsEscape text offset ↔ ∃ high low upper lower,
      text.drop (offset + 1) = high :: low :: text.drop (offset + 3) ∧
        hexValue? high = some upper ∧ hexValue? low = some lower := by
  simp only [StartsEscape, ← hexValue?_isSome_iff, Option.isSome_iff_exists, drop_eq_cons_iff,
    and_true]
  constructor
  · rintro ⟨high, ⟨upper, hupper⟩, low, ⟨lower, hlower⟩, hhigh, hlow⟩
    exact ⟨high, low, upper, lower, ⟨hhigh, hlow⟩, hupper, hlower⟩
  · rintro ⟨high, low, upper, lower, ⟨hhigh, hlow⟩, hupper, hlower⟩
    exact ⟨high, ⟨upper, hupper⟩, low, ⟨lower, hlower⟩, hhigh, hlow⟩

/-! ### Reading and what it reaches -/

theorem decodeFrom_of_digits (offset : Nat) (rest : Bytes) {high low upper lower : UInt8}
    (hhigh : hexValue? high = some upper) (hlow : hexValue? low = some lower) :
    decodeFrom offset (percent :: high :: low :: rest) =
      match decodeFrom (offset + 3) rest with
      | .ok octets => .ok ((upper * 16 + lower) :: octets)
      | .error position => .error position := by
  cases hlater : decodeFrom (offset + 3) rest <;>
    simp only [decodeFrom, if_true, hhigh, hlow, hlater]

theorem decodeFrom_of_no_digits (offset : Nat) {rest : Bytes}
    (h : ∀ high low upper lower later, rest = high :: low :: later → hexValue? high = some upper →
      hexValue? low ≠ some lower) : decodeFrom offset (percent :: rest) = .error offset := by
  rw [decodeFrom.eq_def]
  simp only [if_true]
  split
  case h_1 high low later =>
    split
    case h_1 upper lower hhigh hlow => exact absurd hlow (h high low upper lower later rfl hhigh)
    case h_2 => rfl
  case h_2 => rfl

/-- Up to an offset that it reaches a reader has met no error. -/
theorem Reaches.decode_eq {text : Bytes} {offset : Nat} (h : Reaches text offset) :
    ∃ before, decode text =
      match decodeFrom offset (text.drop offset) with
      | .ok octets => .ok (before ++ octets)
      | .error position => .error position := by
  induction h with
  | start =>
    refine ⟨[], ?_⟩
    rw [List.drop_zero, decode]
    cases decodeFrom 0 text <;> rfl
  | @plain offset octet h hoctet hplain ih =>
    obtain ⟨before, ih⟩ := ih
    refine ⟨before ++ [octet], ?_⟩
    rw [ih, drop_eq_cons_iff.2 ⟨hoctet, rfl⟩, decodeFrom_cons_of_ne _ _ hplain]
    cases decodeFrom (offset + 1) (text.drop (offset + 1)) <;> simp
  | @escape offset h hpercent hdigits ih =>
    obtain ⟨before, ih⟩ := ih
    obtain ⟨high, low, upper, lower, hdrop, hhigh, hlow⟩ := startsEscape_iff.1 hdigits
    refine ⟨before ++ [upper * 16 + lower], ?_⟩
    rw [ih, drop_eq_cons_iff.2 ⟨hpercent, hdrop⟩, decodeFrom_of_digits _ _ hhigh hlow]
    cases decodeFrom (offset + 3) (text.drop (offset + 3)) <;> simp

/-- An error is met where the percent sign that is reached starts no escape. -/
theorem stray_of_decodeFrom {text rest : Bytes} {offset position : Nat}
    (hreached : Reaches text offset) (hrest : text.drop offset = rest)
    (h : decodeFrom offset rest = .error position) : Stray text position := by
  fun_induction decodeFrom offset rest generalizing position with
  | case1 => exact nomatch h
  | case2 => exact nomatch h
  | case3 offset high low rest upper lower hlow hhigh found hrec ih =>
    obtain rfl := Except.error.inj h
    obtain ⟨hpercent, hdigits⟩ := drop_eq_cons_iff.1 hrest
    have hlater : text.drop (offset + 3) = rest :=
      (drop_eq_cons_iff.1 (drop_eq_cons_iff.1 hdigits).2).2
    subst hlater
    exact ih (hreached.escape hpercent
      (startsEscape_iff.2 ⟨high, low, upper, lower, hdigits, hhigh, hlow⟩)) rfl hrec
  | case4 offset high low rest hnone =>
    obtain rfl := Except.error.inj h
    obtain ⟨hpercent, hdigits⟩ := drop_eq_cons_iff.1 hrest
    refine ⟨hreached, hpercent, fun hstarts ↦ ?_⟩
    obtain ⟨first, second, upper, lower, hdrop, hhigh, hlow⟩ := startsEscape_iff.1 hstarts
    obtain ⟨rfl, hsecond⟩ := List.cons.inj (hdigits.symm.trans hdrop)
    obtain ⟨rfl, -⟩ := List.cons.inj hsecond
    exact hnone upper lower hhigh hlow
  | case5 offset rest hnone =>
    obtain rfl := Except.error.inj h
    obtain ⟨hpercent, hdigits⟩ := drop_eq_cons_iff.1 hrest
    refine ⟨hreached, hpercent, fun hstarts ↦ ?_⟩
    obtain ⟨high, low, -, -, hdrop, -⟩ := startsEscape_iff.1 hstarts
    exact hnone high low _ (hdigits.symm.trans hdrop)
  | case6 => exact nomatch h
  | case7 offset octet rest hplain found hrec ih =>
    obtain rfl := Except.error.inj h
    obtain ⟨hoctet, rfl⟩ := drop_eq_cons_iff.1 hrest
    exact ih (hreached.plain hoctet hplain) rfl hrec

theorem decodeFrom_of_stray {text : Bytes} {offset : Nat} (h : Stray text offset) :
    decodeFrom offset (text.drop offset) = .error offset := by
  rw [drop_eq_cons_iff.2 ⟨h.percent, rfl⟩]
  refine decodeFrom_of_no_digits offset fun high low upper lower later hdrop hhigh hlow ↦ h.lone ?_
  have hlater : text.drop (offset + 3) = later :=
    (drop_eq_cons_iff.1 (drop_eq_cons_iff.1 hdrop).2).2
  exact startsEscape_iff.2 ⟨high, low, upper, lower, hlater ▸ hdrop, hhigh, hlow⟩

/-- Reading fails exactly at a stray percent sign. -/
theorem decode_eq_error_iff {text : Bytes} {offset : Nat} :
    decode text = .error offset ↔ Stray text offset := by
  refine ⟨stray_of_decodeFrom .start rfl, fun h ↦ ?_⟩
  obtain ⟨before, hdecode⟩ := h.reached.decode_eq
  rw [hdecode, decodeFrom_of_stray h]

/-- There is only one. -/
theorem Stray.unique {text : Bytes} {offset other : Nat} (h : Stray text offset)
    (hother : Stray text other) : offset = other :=
  Except.error.inj ((decode_eq_error_iff.2 h).symm.trans (decode_eq_error_iff.2 hother))

/-- Text is readable exactly if every percent sign that is reached starts an escape. -/
theorem exists_decode_iff {text : Bytes} :
    (∃ octets, decode text = .ok octets) ↔
      ∀ offset, Reaches text offset → text[offset]? = some percent → StartsEscape text offset := by
  constructor
  · rintro ⟨octets, hdecode⟩ offset hreached hpercent
    by_contra hdigits
    exact nomatch hdecode.symm.trans (decode_eq_error_iff.2 ⟨hreached, hpercent, hdigits⟩)
  · intro h
    cases hdecode : decode text with
    | ok octets => exact ⟨octets, rfl⟩
    | error offset =>
      have hstray := decode_eq_error_iff.1 hdecode
      exact absurd (h offset hstray.reached hstray.percent) hstray.lone

/-- An octet at the end that belongs to no escape changes nothing in front of it. -/
theorem decodeFrom_concat {last : UInt8} (hplain : last ≠ percent) (hdigit : hexValue? last = none)
    (offset : Nat) (text : Bytes) :
    decodeFrom offset (text ++ [last]) =
      match decodeFrom offset text with
      | .ok octets => .ok (octets ++ [last])
      | .error position => .error position := by
  fun_induction decodeFrom offset text with
  | case1 offset =>
    rw [List.nil_append, decodeFrom_cons_of_ne _ _ hplain]
    rfl
  | case2 offset high low rest upper lower hlow hhigh octets hrec ih =>
    rw [List.cons_append, List.cons_append, List.cons_append, decodeFrom_of_digits _ _ hhigh hlow,
      ih, hrec]
    rfl
  | case3 offset high low rest upper lower hlow hhigh position hrec ih =>
    rw [List.cons_append, List.cons_append, List.cons_append, decodeFrom_of_digits _ _ hhigh hlow,
      ih, hrec]
  | case4 offset high low rest hnone =>
    rw [List.cons_append, List.cons_append, List.cons_append]
    refine decodeFrom_of_no_digits offset fun first second upper lower later heq hhigh hlow ↦ ?_
    simp only [List.cons.injEq] at heq
    obtain ⟨rfl, rfl, -⟩ := heq
    exact hnone upper lower hhigh hlow
  | case5 offset rest hnone =>
    rw [List.cons_append]
    refine decodeFrom_of_no_digits offset fun first second upper lower later heq hhigh hlow ↦ ?_
    match rest with
    | [] => simp at heq
    | [only] =>
      simp only [List.cons_append, List.nil_append, List.cons.injEq] at heq
      obtain ⟨-, rfl, -⟩ := heq
      exact nomatch hdigit.symm.trans hlow
    | high :: low :: rest => exact hnone high low rest rfl
  | case6 offset octet rest hne octets hrec ih =>
    rw [List.cons_append, decodeFrom_cons_of_ne _ _ hne, ih, hrec]
    rfl
  | case7 offset octet rest hne position hrec ih =>
    rw [List.cons_append, decodeFrom_cons_of_ne _ _ hne, ih, hrec]

/-! ### Texts that a writer makes -/

/-- What stands behind the percent sign in the four escapes that are written. -/
def writtenDigits : List Bytes :=
  [[0x30, 0x44], [0x30, 0x41], [0x32, 0x35], [0x35, 0x43]]

/-- A text in which no octet stands for itself that needs an escape, and every percent sign heads
one of the four escapes that are written. -/
structure Canonical (text : Bytes) : Prop where
  plain : ∀ octet ∈ text, octet ≠ Octet.cr ∧ octet ≠ Octet.lf ∧ octet ≠ 0x5C
  escapes : ∀ offset, text[offset]? = some percent →
    (text.drop (offset + 1)).take 2 ∈ writtenDigits

theorem length_of_mem_writtenDigits {digits : Bytes} (h : digits ∈ writtenDigits) :
    digits.length = 2 := by
  have hall : ∀ digits ∈ writtenDigits, digits.length = 2 := by decide
  exact hall digits h

theorem Canonical.append {first second : Bytes} (hfirst : Canonical first)
    (hsecond : Canonical second) : Canonical (first ++ second) := by
  refine ⟨List.forall_mem_append.2 ⟨hfirst.plain, hsecond.plain⟩, fun offset hpercent ↦ ?_⟩
  by_cases hoffset : offset < first.length
  · rw [List.getElem?_append_left hoffset] at hpercent
    have hdigits := hfirst.escapes offset hpercent
    -- an escape is never cut off by the end of the first text
    have hroom : 2 ≤ (first.drop (offset + 1)).length := by
      have hlength := length_of_mem_writtenDigits hdigits
      rw [List.length_take] at hlength
      omega
    rw [List.drop_append_of_le_length hoffset, List.take_append_of_le_length hroom]
    exact hdigits
  · have hle : first.length ≤ offset := Nat.not_lt.1 hoffset
    rw [List.getElem?_append_right hle] at hpercent
    rw [List.drop_append, List.drop_of_length_le (by omega), List.nil_append,
      show offset + 1 - first.length = offset - first.length + 1 by omega]
    exact hsecond.escapes _ hpercent

theorem Canonical.drop {text : Bytes} (h : Canonical text) (count : Nat) :
    Canonical (text.drop count) := by
  refine ⟨fun octet hmem ↦ h.plain octet (List.mem_of_mem_drop hmem), fun offset hpercent ↦ ?_⟩
  rw [List.getElem?_drop] at hpercent
  rw [List.drop_drop, ← Nat.add_assoc]
  exact h.escapes (count + offset) hpercent

theorem canonical_encodeOctet (octet : UInt8) : Canonical (encodeOctet octet) := by
  refine ⟨fun written hmem ↦ mem_encodeOctet hmem, fun offset hpercent ↦ ?_⟩
  by_cases hescape : needsEscape octet = true
  · have hforms : ([Octet.cr, Octet.lf, percent, 0x5C] : Bytes).all fun octet ↦
        (List.range 3).all fun offset ↦ (encodeOctet octet)[offset]? = some percent →
          ((encodeOctet octet).drop (offset + 1)).take 2 ∈ writtenDigits := by
      decide
    have hspecial : octet ∈ [Octet.cr, Octet.lf, percent, 0x5C] := by
      simpa using needsEscape_iff.1 hescape
    have hoffset : offset < 3 := by
      have hlt := (List.getElem?_eq_some_iff.1 hpercent).1
      rw [length_encodeOctet] at hlt
      exact Nat.lt_of_lt_of_le hlt (width_le octet)
    have hform := List.all_eq_true.1 (List.all_eq_true.1 hforms octet hspecial) offset
      (List.mem_range.2 hoffset)
    exact of_decide_eq_true hform hpercent
  · rw [encodeOctet_of_plain (by simpa using hescape)] at hpercent
    obtain ⟨hlt, hoctet⟩ := List.getElem?_eq_some_iff.1 hpercent
    rw [List.getElem_singleton] at hoctet
    exact absurd (needsEscape_iff.2 (by simp [hoctet])) hescape

theorem canonical_encode (octets : Bytes) : Canonical (encode octets) := by
  induction octets with
  | nil => exact ⟨List.forall_mem_nil _, fun offset hpercent ↦ nomatch hpercent⟩
  | cons octet rest ih =>
    rw [encode, List.flatMap_cons]
    exact (canonical_encodeOctet octet).append ih

/-- What the four escapes stand for. -/
theorem exists_encodeOctet_of_mem {digits : Bytes} (h : digits ∈ writtenDigits) :
    ∃ octet, encodeOctet octet = percent :: digits := by
  have hall : ∀ digits ∈ writtenDigits,
      ([Octet.cr, Octet.lf, percent, 0x5C] : Bytes).any fun octet ↦
        encodeOctet octet = percent :: digits := by decide
  obtain ⟨octet, -, hoctet⟩ := List.any_eq_true.1 (hall digits h)
  exact ⟨octet, of_decide_eq_true hoctet⟩

theorem Canonical.exists_encode {text : Bytes} (h : Canonical text) :
    ∃ octets, encode octets = text := by
  match text with
  | [] => exact ⟨[], rfl⟩
  | first :: rest =>
    by_cases hpercent : first = percent
    · subst hpercent
      obtain ⟨octet, hoctet⟩ := exists_encodeOctet_of_mem (h.escapes 0 rfl)
      obtain ⟨octets, hlater⟩ := (h.drop 3).exists_encode
      refine ⟨octet :: octets, ?_⟩
      rw [encode, List.flatMap_cons, hoctet, ← encode, hlater]
      exact congrArg (percent :: ·) (List.take_append_drop 2 rest)
    · have hplain : needsEscape first = false := by
        have hoctet := h.plain first List.mem_cons_self
        rw [Bool.eq_false_iff, Ne, needsEscape_iff]
        simp [hoctet, hpercent]
      obtain ⟨octets, hlater⟩ := (h.drop 1).exists_encode
      refine ⟨first :: octets, ?_⟩
      rw [encode, List.flatMap_cons, encodeOctet_of_plain hplain, ← encode, hlater]
      rfl
termination_by text.length

/-- The canonical texts are those that a writer makes. -/
theorem canonical_iff {text : Bytes} : Canonical text ↔ ∃ octets, encode octets = text :=
  ⟨Canonical.exists_encode, fun ⟨octets, h⟩ ↦ h ▸ canonical_encode octets⟩

/-- Text that was read is written again as it was exactly if it is canonical. -/
theorem encode_eq_iff_canonical {text octets : Bytes} (h : decode text = .ok octets) :
    encode octets = text ↔ Canonical text := by
  refine ⟨fun hencode ↦ canonical_iff.2 ⟨octets, hencode⟩, fun hcanonical ↦ ?_⟩
  obtain ⟨others, rfl⟩ := hcanonical.exists_encode
  rw [decode_encode] at h
  rw [Except.ok.inj h]

/-- Escaping takes the length that was worked out for it, leaves no octet that needs an escape and
no percent sign but those of the four escapes, and is undone by reading. Any text is readable if
every percent sign that no escape before it has consumed starts an escape itself, and otherwise
the failure names the first that does not. What was read is written again as it was exactly if the
text is one that a writer makes. -/
theorem escapedForms_exact (octets text : Bytes) :
    Line.unescape (encode octets) = .ok octets ∧
      (encode octets).length = encodedLength octets ∧ Canonical (encode octets) ∧
      ((∃ decoded, Line.unescape text = .ok decoded) ↔
        ∀ offset, Reaches text offset → text[offset]? = some percent → StartsEscape text offset) ∧
      (∀ failure, Line.unescape text = .error failure ↔
        ∃ offset, Stray text offset ∧ (∀ earlier < offset, ¬Stray text earlier) ∧
          failure = .decode ("invalid escape sequence at offset " ++ toString offset)) ∧
      (Canonical text ↔ ∃ others, encode others = text) ∧
      ∀ decoded, Line.unescape text = .ok decoded → (encode decoded = text ↔ Canonical text) := by
  have hreads : ∀ decoded, Line.unescape text = .ok decoded ↔ decode text = .ok decoded := by
    intro decoded
    rw [Line.unescape]
    cases decode text <;> simp
  refine ⟨Line.unescape_encode octets, length_encode octets, canonical_encode octets, ?_, ?_,
    canonical_iff, fun decoded hdecoded ↦ encode_eq_iff_canonical ((hreads decoded).1 hdecoded)⟩
  · rw [← exists_decode_iff]
    exact exists_congr hreads
  · intro failure
    rw [Line.unescape]
    cases hdecode : decode text with
    | ok decoded =>
      refine iff_of_false (by simp) ?_
      rintro ⟨offset, hstray, -⟩
      rw [decode_eq_error_iff.2 hstray] at hdecode
      cases hdecode
    | error offset =>
      have hstray := decode_eq_error_iff.1 hdecode
      refine ⟨fun h ↦ ⟨offset, hstray, fun earlier hlt hearlier ↦ ?_,
        (Except.error.inj h).symm⟩, ?_⟩
      · exact absurd (hearlier.unique hstray) (Nat.ne_of_lt hlt)
      · rintro ⟨found, hfound, -, rfl⟩
        rw [hstray.unique hfound]

/-- An escape that is read in lower case is not written so. -/
theorem escapedForms_exact_of_lower_case :
    Line.unescape [0x25, 0x30, 0x64] = .ok [0x0D] ∧
      (encode [0x0D] = [0x25, 0x30, 0x64] ↔ Canonical [0x25, 0x30, 0x64]) ∧
      ¬Canonical [0x25, 0x30, 0x64] := by
  have hread : Line.unescape [0x25, 0x30, 0x64] = .ok [0x0D] := rfl
  have hwritten := (escapedForms_exact [0x0D] [0x25, 0x30, 0x64]).2.2.2.2.2.2 [0x0D] hread
  exact ⟨hread, hwritten, fun hcanonical ↦ absurd (hwritten.2 hcanonical) (by decide)⟩

/-- One digit makes no escape, though an escape comes right behind it. -/
example : Stray [0x25, 0x32, 0x25, 0x33, 0x35] 0 :=
  decode_eq_error_iff.1 rfl

end LineProtocol.Escape
