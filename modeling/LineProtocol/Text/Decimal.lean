/-!
# Decimal numbers

Numbers are written in decimal without leading zeros, and read with any number of them after an
optional plus sign.
-/

set_option autoImplicit false

namespace LineProtocol.Decimal

/-- The value of a digit in bases up to sixteen. -/
def digitValue? (digit : Char) : Option Nat :=
  if '0' ≤ digit ∧ digit ≤ '9' then some (digit.toNat - '0'.toNat)
  else if 'a' ≤ digit ∧ digit ≤ 'f' then some (digit.toNat - 'a'.toNat + 10)
  else if 'A' ≤ digit ∧ digit ≤ 'F' then some (digit.toNat - 'A'.toNat + 10)
  else none

/-- Reads further digits of a number in a base, after a value already read. -/
def digitsValue? (base : Nat) : Nat → List Char → Option Nat
  | value, [] => some value
  | value, digit :: rest =>
    match digitValue? digit with
    | some next => if next < base then digitsValue? base (value * base + next) rest else none
    | none => none

/-- Reads a number of at least one digit in a base. -/
def positional? (base : Nat) : List Char → Option Nat
  | [] => none
  | digits => digitsValue? base 0 digits

/-- Reads a decimal number below a bound, after an optional plus sign. -/
def below? (bound : Nat) (characters : List Char) : Option Nat :=
  let digits := match characters with
    | '+' :: rest => rest
    | characters => characters
  (positional? 10 digits).filter (· < bound)

end LineProtocol.Decimal
