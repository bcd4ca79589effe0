import LineProtocol.Text.Blank
import LineProtocol.Text.Decimal
import Mathlib.Tactic

/-!
# Decimal numerals

`Numeral value` holds of the texts that spell a number in decimal: digits, at least one, with any
number of zeros in front and perhaps a plus sign before them. `below?_eq_some_iff` says that these
are the texts that are read, as long as their value is below the bound. The digits that a number is
written with are such a text (`below?_toDigits`).
-/

set_option autoImplicit false

namespace LineProtocol.Decimal

/-- Decimal digits, at least one, and their value. -/
structure Denotes (digits : List Char) (value : Nat) : Prop where
  nonempty : digits ≠ []
  decimal : ∀ digit ∈ digits, digit.isDigit = true
  value : Nat.ofDigitChars 10 digits 0 = value

/-- Decimal digits, or a plus sign and decimal digits. -/
inductive Numeral (value : Nat) : List Char → Prop
  | plain {digits : List Char} (h : Denotes digits value) : Numeral value digits
  | signed {digits : List Char} (h : Denotes digits value) : Numeral value ('+' :: digits)

/-! ### Digits -/

theorem isDigit_iff_le {digit : Char} : digit.isDigit = true ↔ '0' ≤ digit ∧ digit ≤ '9' :=
  Char.isDigit_iff_toNat

theorem digitValue?_of_isDigit {digit : Char} (h : digit.isDigit = true) :
    digitValue? digit = some (digit.toNat - '0'.toNat) :=
  if_pos (isDigit_iff_le.1 h)

/-- What is no decimal digit has at least the value ten, if any. -/
theorem le_digitValue?_of_not_isDigit {digit : Char} {value : Nat} (h : ¬digit.isDigit = true)
    (hvalue : digitValue? digit = some value) : 10 ≤ value := by
  rw [isDigit_iff_le] at h
  rw [digitValue?, if_neg h] at hvalue
  split_ifs at hvalue
  all_goals
    obtain rfl := Option.some.inj hvalue
    exact Nat.le_add_left _ _

theorem digitsValue?_cons_of_isDigit {digit : Char} (start : Nat) (later : List Char)
    (h : digit.isDigit = true) :
    digitsValue? 10 start (digit :: later) =
      digitsValue? 10 (10 * start + (digit.toNat - '0'.toNat)) later := by
  have hsmall : digit.toNat - '0'.toNat < 10 := by
    have hdigit := Char.isDigit_iff_toNat.1 h
    have hnine : '9'.toNat = '0'.toNat + 9 := rfl
    omega
  rw [digitsValue?, digitValue?_of_isDigit h]
  simp only [hsmall, if_true, Nat.mul_comm]

theorem digitsValue?_cons_of_not_isDigit {digit : Char} (start : Nat) (later : List Char)
    (h : ¬digit.isDigit = true) : digitsValue? 10 start (digit :: later) = none := by
  rw [digitsValue?]
  split
  case h_1 value hvalue => exact if_neg (Nat.not_lt.2 (le_digitValue?_of_not_isDigit h hvalue))
  case h_2 => rfl

/-- Digits are read to the end if each of them is a decimal one. -/
theorem digitsValue?_eq_some_iff {start value : Nat} {digits : List Char} :
    digitsValue? 10 start digits = some value ↔
      (∀ digit ∈ digits, digit.isDigit = true) ∧ Nat.ofDigitChars 10 digits start = value := by
  induction digits generalizing start with
  | nil => simp [digitsValue?]
  | cons first later ih =>
    by_cases hdigit : first.isDigit = true
    · rw [digitsValue?_cons_of_isDigit start later hdigit, ih, Nat.ofDigitChars_cons,
        List.forall_mem_cons, and_iff_right hdigit]
    · rw [digitsValue?_cons_of_not_isDigit start later hdigit, List.forall_mem_cons]
      simp [hdigit]

/-! ### Numerals -/

theorem positional?_eq_some_iff {value : Nat} {digits : List Char} :
    positional? 10 digits = some value ↔ Denotes digits value := by
  cases digits with
  | nil =>
    constructor
    · intro h
      exact nomatch h
    · intro h
      exact absurd rfl h.nonempty
  | cons first later =>
    rw [positional?, digitsValue?_eq_some_iff]
    · constructor
      · rintro ⟨hdigits, hvalue⟩
        exact ⟨List.cons_ne_nil _ _, hdigits, hvalue⟩
      · rintro ⟨-, hdigits, hvalue⟩
        exact ⟨hdigits, hvalue⟩
    · exact List.cons_ne_nil _ _

theorem not_denotes_plus {value : Nat} {digits : List Char} : ¬Denotes ('+' :: digits) value := by
  intro h
  exact absurd (h.decimal '+' List.mem_cons_self) (by decide)

/-- The texts that are read as a number are the numerals of the numbers below the bound. -/
theorem below?_eq_some_iff {bound value : Nat} {characters : List Char} :
    below? bound characters = some value ↔ Numeral value characters ∧ value < bound := by
  unfold below?
  rw [Option.filter_eq_some_iff, decide_eq_true_iff]
  apply and_congr_left
  intro _
  split
  case h_1 digits =>
    rw [positional?_eq_some_iff]
    constructor
    · exact .signed
    · rintro (h | h)
      · exact absurd h not_denotes_plus
      · exact h
  case h_2 hplain =>
    rw [positional?_eq_some_iff]
    constructor
    · exact .plain
    · rintro (h | h)
      · exact h
      · exact absurd rfl (hplain _)

/-! ### The digits that a number is written with -/

theorem isDigit_of_mem_toDigits {number : Nat} {digit : Char}
    (h : digit ∈ Nat.toDigits 10 number) : digit.isDigit = true :=
  Nat.isDigit_of_mem_toDigits (by decide) (by decide) h

theorem denotes_toDigits (number : Nat) : Denotes (Nat.toDigits 10 number) number where
  nonempty := Nat.toDigits_ne_nil
  decimal := fun _ ↦ isDigit_of_mem_toDigits
  value := Nat.ofDigitChars_ten_toDigits

/-- A number below a bound is read back from its decimal digits. -/
theorem below?_toDigits {bound number : Nat} (h : number < bound) :
    below? bound (Nat.toDigits 10 number) = some number :=
  below?_eq_some_iff.2 ⟨.plain (denotes_toDigits number), h⟩

/-- Decimal digits start with no blank. -/
theorem trimStart_toDigits (number : Nat) (rest : List Char) :
    Blank.trimStart (Nat.toDigits 10 number ++ rest) = Nat.toDigits 10 number ++ rest := by
  obtain ⟨first, later, hdigits⟩ :=
    List.exists_cons_of_ne_nil (Nat.toDigits_ne_nil (n := number) (b := 10))
  have hmem : first ∈ Nat.toDigits 10 number := by simp [hdigits]
  have hdigit := Char.isDigit_iff_toNat.1 (isDigit_of_mem_toDigits hmem)
  have hblank : Blank.isBlank first = false := by
    have hlow : 48 ≤ first.toNat := hdigit.1
    have hhigh : first.toNat ≤ 57 := hdigit.2
    unfold Blank.isBlank
    simp only [Bool.or_eq_false_iff, Bool.and_eq_false_iff, decide_eq_false_iff_not,
      beq_eq_false_iff_ne]
    omega
  rw [hdigits, List.cons_append, Blank.trimStart,
    List.dropWhile_cons_of_neg (by rw [hblank]; exact Bool.false_ne_true)]

end LineProtocol.Decimal
