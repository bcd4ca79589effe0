import LineProtocol.Text.Utf8
import Mathlib.Tactic

/-!
# Text survives UTF-8

The decoder reads octet by octet, so what it makes of the octets of one character is followed
through its states: a leading octet opens the character, each later one brings six bits, and the
last completes it. `characters_encodeChar` says that the octets of a character, whatever follows
them, are read back as that character. From there `decode?_encode` and `decodeLossy_encode` say
that a text is read back from its octets, whether or not ill-formed parts would be replaced.

An ASCII octet behind any octets, well-formed or not, is a character of its own
(`characters_concat`).

The case map of octets is the ASCII case map of text: `encode_upperCase`. The octets of a
character outside ASCII are no ASCII letters.
-/

set_option autoImplicit false

namespace LineProtocol.Utf8

theorem toNat_ofNat_octet {value : Nat} (h : value < 256) : (UInt8.ofNat value).toNat = value := by
  simpa using Nat.mod_eq_of_lt h

/-! ### Leading octets -/

theorem lead_ascii {value : Nat} (h : value < 0x80) : lead (UInt8.ofNat value) = .ascii := by
  have hoctet : (UInt8.ofNat value).toNat = value := toNat_ofNat_octet (by omega)
  have hsmall : UInt8.ofNat value < 0x80 := UInt8.lt_iff_toNat_lt.2 (by simpa [hoctet] using h)
  rw [lead, if_pos hsmall]

theorem lead_two {value : Nat} (hlow : 2 ≤ value) (hhigh : value < 0x20) :
    lead (UInt8.ofNat (value + 0xC0)) = .opens ⟨0, value, 0x80, 0xBF⟩ := by
  have hoctet : (UInt8.ofNat (value + 0xC0)).toNat = value + 0xC0 := toNat_ofNat_octet (by omega)
  simp only [lead, UInt8.lt_iff_toNat_lt, hoctet]
  rw [if_neg (by simp), if_neg (by simp; omega), if_pos (by simp; omega)]
  simp

theorem lead_three {value : Nat} (hhigh : value < 0x10) :
    lead (UInt8.ofNat (value + 0xE0)) =
      .opens ⟨1, value, if value = 0 then 0xA0 else 0x80, if value = 0xD then 0x9F else 0xBF⟩ := by
  have hoctet : (UInt8.ofNat (value + 0xE0)).toNat = value + 0xE0 := toNat_ofNat_octet (by omega)
  simp only [lead, UInt8.lt_iff_toNat_lt, ← UInt8.toNat_inj, hoctet]
  rw [if_neg (by simp), if_neg (by simp), if_neg (by simp), if_pos (by simp; omega)]
  simp

theorem lead_four {value : Nat} (hhigh : value < 5) :
    lead (UInt8.ofNat (value + 0xF0)) =
      .opens ⟨2, value, if value = 0 then 0x90 else 0x80, if value = 4 then 0x8F else 0xBF⟩ := by
  have hoctet : (UInt8.ofNat (value + 0xF0)).toNat = value + 0xF0 := toNat_ofNat_octet (by omega)
  simp only [lead, UInt8.lt_iff_toNat_lt, ← UInt8.toNat_inj, hoctet]
  rw [if_neg (by simp), if_neg (by simp), if_neg (by simp), if_neg (by simp),
    if_pos (by simp; omega)]
  simp

/-! ### One character -/

theorem characters_of_opens {octet : UInt8} {character : Unfinished} (rest : Bytes)
    (h : lead octet = .opens character) :
    characters none (octet :: rest) = characters (some character) rest := by
  rw [characters, h]

/-- The last octet of a character completes it. -/
theorem characters_of_last {value next : Nat} {low high : UInt8} (rest : Bytes)
    (hlow : low.toNat ≤ next % 64 + 128) (hhigh : next % 64 + 128 ≤ high.toNat) :
    characters (some ⟨0, value, low, high⟩) (UInt8.ofNat (next % 64 + 128) :: rest) =
      some (Char.ofNat (value * 64 + next % 64)) :: characters none rest := by
  have hoctet : (UInt8.ofNat (next % 64 + 128)).toNat = next % 64 + 128 :=
    toNat_ofNat_octet (by omega)
  have hbounds : low ≤ UInt8.ofNat (next % 64 + 128) ∧ UInt8.ofNat (next % 64 + 128) ≤ high := by
    rw [UInt8.le_iff_toNat_le, UInt8.le_iff_toNat_le, hoctet]
    exact ⟨hlow, hhigh⟩
  rw [characters, if_pos hbounds]
  simp only [hoctet]
  rw [show next % 64 + 128 - 128 = next % 64 by omega]

/-- Any octet between the first and the last brings six more bits. -/
theorem characters_of_more {owed value next : Nat} {low high : UInt8} (rest : Bytes)
    (hlow : low.toNat ≤ next % 64 + 128) (hhigh : next % 64 + 128 ≤ high.toNat) :
    characters (some ⟨owed + 1, value, low, high⟩) (UInt8.ofNat (next % 64 + 128) :: rest) =
      characters (some ⟨owed, value * 64 + next % 64, 0x80, 0xBF⟩) rest := by
  have hoctet : (UInt8.ofNat (next % 64 + 128)).toNat = next % 64 + 128 :=
    toNat_ofNat_octet (by omega)
  have hbounds : low ≤ UInt8.ofNat (next % 64 + 128) ∧ UInt8.ofNat (next % 64 + 128) ≤ high := by
    rw [UInt8.le_iff_toNat_le, UInt8.le_iff_toNat_le, hoctet]
    exact ⟨hlow, hhigh⟩
  rw [characters, if_pos hbounds]
  simp only [hoctet]
  rw [show next % 64 + 128 - 128 = next % 64 by omega]

theorem toNat_lt_of_char (character : Char) : character.val.toNat < 0x110000 := by
  rcases character.valid with h | h
  · exact Nat.lt_trans h (by decide)
  · exact h.2

/-- The octets of a character are read back as that character, whatever follows. -/
theorem characters_encodeChar (character : Char) (rest : Bytes) :
    characters none (String.utf8EncodeChar character ++ rest) =
      some character :: characters none rest := by
  have hself : Char.ofNat character.val.toNat = character := Char.ofNat_toNat character
  have hvalid : character.val.toNat < 0xD800 ∨ 0xDFFF < character.val.toNat ∧
      character.val.toNat < 0x110000 := character.valid
  unfold String.utf8EncodeChar
  generalize hvalue : character.val.toNat = value at hself hvalid
  simp only
  split
  case isTrue hone =>
    rw [List.singleton_append, characters, lead_ascii (by omega)]
    simp only [toNat_ofNat_octet (show value < 256 by omega), hself]
  case isFalse hone =>
    split
    case isTrue htwo =>
      rw [List.cons_append, List.singleton_append, show value / 64 % 32 = value / 64 by omega,
        characters_of_opens _ (lead_two (by omega) (by omega)),
        characters_of_last _ (by simp) (by simp; omega),
        show value / 64 * 64 + value % 64 = value by omega, hself]
    case isFalse htwo =>
      split
      case isTrue hthree =>
        -- the bounds of the second octet leave out overlong forms and surrogates
        have hlow : (if value / 4096 = 0 then 0xA0 else 0x80 : UInt8).toNat ≤
            value / 64 % 64 + 128 := by
          split
          · show 160 ≤ _
            omega
          · show 128 ≤ _
            omega
        have hhigh : value / 64 % 64 + 128 ≤
            (if value / 4096 = 0xD then 0x9F else 0xBF : UInt8).toNat := by
          split
          · show _ ≤ 159
            omega
          · show _ ≤ 191
            omega
        simp only [List.cons_append, List.nil_append]
        rw [show value / 4096 % 16 = value / 4096 by omega,
          characters_of_opens _ (lead_three (by omega)), characters_of_more _ hlow hhigh,
          characters_of_last _ (by simp) (by simp; omega),
          show (value / 4096 * 64 + value / 64 % 64) * 64 + value % 64 = value by omega, hself]
      case isFalse hthree =>
        -- the bounds of the second octet leave out overlong forms and what lies above U+10FFFF
        have hlow : (if value / 262144 = 0 then 0x90 else 0x80 : UInt8).toNat ≤
            value / 4096 % 64 + 128 := by
          split
          · show 144 ≤ _
            omega
          · show 128 ≤ _
            omega
        have hhigh : value / 4096 % 64 + 128 ≤
            (if value / 262144 = 4 then 0x8F else 0xBF : UInt8).toNat := by
          split
          · show _ ≤ 143
            omega
          · show _ ≤ 191
            omega
        simp only [List.cons_append, List.nil_append]
        rw [show value / 262144 % 8 = value / 262144 by omega,
          characters_of_opens _ (lead_four (by omega)), characters_of_more _ hlow hhigh,
          characters_of_more _ (by simp) (by simp; omega),
          characters_of_last _ (by simp) (by simp; omega),
          show ((value / 262144 * 64 + value / 4096 % 64) * 64 + value / 64 % 64) * 64 +
            value % 64 = value by omega, hself]

/-! ### Text -/

theorem encode_append (first second : String) :
    encode (first ++ second) = encode first ++ encode second := by
  rw [encode, String.toList_append, List.flatMap_append]
  rfl

theorem le_length_encode (text : String) : text.toList.length ≤ (encode text).length := by
  unfold encode
  induction text.toList with
  | nil => exact Nat.le_refl _
  | cons character later ih =>
    have hsize := character.utf8Size_pos
    rw [List.flatMap_cons, List.length_append, String.length_utf8EncodeChar, List.length_cons]
    omega

/-- No character takes more than four octets. -/
theorem length_encode_le (text : String) : (encode text).length ≤ 4 * text.toList.length := by
  unfold encode
  induction text.toList with
  | nil => exact Nat.le_refl _
  | cons character later ih =>
    have hsize := character.utf8Size_le_four
    rw [List.flatMap_cons, List.length_append, String.length_utf8EncodeChar, List.length_cons]
    omega

theorem characters_encode (text : String) :
    characters none (encode text) = text.toList.map some := by
  unfold encode
  induction text.toList with
  | nil => rfl
  | cons character later ih =>
    rw [List.flatMap_cons, characters_encodeChar, ih, List.map_cons]

theorem allCharacters_map_some (text : List Char) :
    allCharacters (text.map some) = some text := by
  induction text with
  | nil => rfl
  | cons character later ih => rw [List.map_cons, allCharacters, ih, Option.map_some]

/-- A text is read back from its octets. -/
@[simp] theorem decode?_encode (text : String) : decode? (encode text) = some text := by
  rw [decode?, characters_encode, allCharacters_map_some, Option.map_some, String.ofList_toList]

/-- A text is read back from its octets also where ill-formed parts would be replaced. -/
@[simp] theorem decodeLossy_encode (text : String) : decodeLossy (encode text) = text := by
  rw [decodeLossy, characters_encode, List.map_map]
  simp

/-! ### An ASCII octet at the end -/

/-- What may come next in a character that was opened lies above the ASCII octets. -/
theorem le_low_of_lead {octet : UInt8} {character : Unfinished}
    (h : lead octet = .opens character) : 0x80 ≤ character.low := by
  unfold lead at h
  split at h
  · exact nomatch h
  split at h
  · exact nomatch h
  split at h
  · cases h
    exact UInt8.le_refl _
  split at h
  · cases h
    dsimp only
    split <;> decide
  split at h
  · cases h
    dsimp only
    split <;> decide
  · exact nomatch h

/-- An ASCII octet at the end is a character of its own, whatever stands before it. -/
theorem characters_concat {octet : UInt8} (hascii : octet < 0x80) (opened : Option Unfinished)
    (hopened : ∀ character ∈ opened, 0x80 ≤ character.low) (octets : Bytes) :
    characters opened (octets ++ [octet]) =
      characters opened octets ++ [some (Char.ofNat octet.toNat)] := by
  have hlead : lead octet = .ascii := by rw [lead, if_pos hascii]
  have hnone : ∀ character ∈ (none : Option Unfinished), 0x80 ≤ character.low := nofun
  have hsome : ∀ {first : UInt8} {next : Unfinished}, lead first = .opens next →
      ∀ character ∈ some next, 0x80 ≤ character.low := by
    rintro first next hfirst character ⟨⟩
    exact le_low_of_lead hfirst
  fun_induction characters opened octets with
  | case1 => simp only [List.nil_append, characters, hlead]
  | case2 character =>
    have hbelow : ¬(character.low ≤ octet ∧ octet ≤ character.high) := fun h ↦
      absurd (UInt8.lt_of_lt_of_le hascii (hopened character rfl)) (UInt8.not_lt.2 h.1)
    simp only [List.nil_append, List.cons_append, characters, hbelow, if_false, hlead]
  | case3 first rest hfirst ih =>
    simp only [List.cons_append, characters, hfirst, ih hnone]
  | case4 first rest next hfirst ih =>
    simp only [List.cons_append, characters, hfirst, ih (hsome hfirst)]
  | case5 first rest hfirst ih =>
    simp only [List.cons_append, characters, hfirst, ih hnone]
  | case6 character first rest hrange value howed ih =>
    simp only [List.cons_append, characters, hrange, and_self, if_true, howed, ih hnone, value]
  | case7 character first rest hrange value owed howed ih =>
    have hkept : ∀ later ∈ some (Unfinished.mk owed value 0x80 0xBF), 0x80 ≤ later.low := by
      rintro later ⟨⟩
      exact UInt8.le_refl _
    simp only [List.cons_append, characters, hrange, and_self, if_true, howed, ← ih hkept, value]
  | case8 character first rest hrange ihnone ihsome =>
    simp only [List.cons_append, characters, hrange, if_false]
    cases hfirst : lead first with
    | ascii => simp only [ihnone hnone, List.cons_append]
    | opens next => simp only [ihsome next (hsome hfirst)]
    | refused => simp only [ihnone hnone, List.cons_append]

theorem decodeLossy_concat {octet : UInt8} (hascii : octet < 0x80) (octets : Bytes) :
    decodeLossy (octets ++ [octet]) =
      decodeLossy octets ++ String.ofList [Char.ofNat octet.toNat] := by
  have hnone : ∀ character ∈ (none : Option Unfinished), 0x80 ≤ character.low := nofun
  rw [decodeLossy, characters_concat hascii none hnone, List.map_append, String.ofList_append]
  rfl

/-! ### Upper case -/

theorem toUpper_of_not_ascii {character : Char} (h : 0x80 ≤ character.val.toNat) :
    character.toUpper = character := by
  unfold Char.toUpper
  rw [dif_neg]
  intro hletter
  have hlast : character.val.toNat ≤ 122 := UInt32.le_iff_toNat_le.1 hletter.2
  omega

theorem upper_of_not_ascii {value : Nat} (hlow : 0x80 ≤ value) (hhigh : value < 256) :
    Octet.upper (UInt8.ofNat value) = UInt8.ofNat value := by
  have hoctet : (UInt8.ofNat value).toNat = value := toNat_ofNat_octet hhigh
  rw [Octet.upper, if_neg]
  rintro ⟨-, hletter⟩
  have hlast : (UInt8.ofNat value).toNat ≤ 122 := UInt8.le_iff_toNat_le.1 hletter
  omega

theorem map_upper_encodeChar_of_ascii :
    ∀ value < 0x80, (String.utf8EncodeChar (Char.ofNat value)).map Octet.upper =
      String.utf8EncodeChar (Char.ofNat value).toUpper := by
  decide

theorem map_upper_encodeChar (character : Char) :
    (String.utf8EncodeChar character).map Octet.upper =
      String.utf8EncodeChar character.toUpper := by
  by_cases hascii : character.val.toNat < 0x80
  · have hself : Char.ofNat character.val.toNat = character := Char.ofNat_toNat character
    rw [← hself]
    exact map_upper_encodeChar_of_ascii _ hascii
  · rw [toUpper_of_not_ascii (by omega)]
    have hvalid := toNat_lt_of_char character
    unfold String.utf8EncodeChar
    generalize hvalue : character.val.toNat = value at hascii hvalid
    simp only
    rw [if_neg (by omega)]
    split
    · simp only [List.map_cons, List.map_nil]
      rw [upper_of_not_ascii (by omega) (by omega), upper_of_not_ascii (by omega) (by omega)]
    split
    · simp only [List.map_cons, List.map_nil]
      rw [upper_of_not_ascii (by omega) (by omega), upper_of_not_ascii (by omega) (by omega),
        upper_of_not_ascii (by omega) (by omega)]
    · simp only [List.map_cons, List.map_nil]
      rw [upper_of_not_ascii (by omega) (by omega), upper_of_not_ascii (by omega) (by omega),
        upper_of_not_ascii (by omega) (by omega), upper_of_not_ascii (by omega) (by omega)]

/-- The octets of a text in upper case are those of the text, each in upper case. -/
theorem encode_upperCase (text : String) :
    encode (upperCase text) = (encode text).map Octet.upper := by
  unfold encode upperCase
  rw [String.toList_ofList]
  induction text.toList with
  | nil => rfl
  | cons character later ih =>
    rw [List.map_cons, List.flatMap_cons, List.flatMap_cons, List.map_append,
      map_upper_encodeChar, ih]

end LineProtocol.Utf8
