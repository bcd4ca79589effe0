import LineProtocol.Octets

/-!
# Percent escapes

Any octet may travel inside a parameter once the four octets that would disturb the framing are
written as a percent sign and two hexadecimal digits: carriage return, line feed, the percent
sign itself and the backslash. Nothing else is touched. Digits are written in upper case and read
in either.
-/

set_option autoImplicit false

namespace LineProtocol.Escape

/-- The percent sign. -/
def percent : UInt8 := 0x25

/-- The octets that may not stand for themselves. -/
def needsEscape (octet : UInt8) : Bool :=
  octet == Octet.cr || octet == Octet.lf || octet == percent || octet == 0x5C

/-- The upper-case hexadecimal digit of a value below sixteen. -/
def hexDigit (value : UInt8) : UInt8 :=
  if value < 10 then 0x30 + value else 0x37 + value

/-- The value of a hexadecimal digit in either case. -/
def hexValue? (digit : UInt8) : Option UInt8 :=
  if 0x30 ≤ digit ∧ digit ≤ 0x39 then some (digit - 0x30)
  else if 0x61 ≤ digit ∧ digit ≤ 0x66 then some (digit - 0x57)
  else if 0x41 ≤ digit ∧ digit ≤ 0x46 then some (digit - 0x37)
  else none

/-- How one octet is written. -/
def encodeOctet (octet : UInt8) : Bytes :=
  if needsEscape octet then [percent, hexDigit (octet >>> 4), hexDigit (octet &&& 0x0F)]
  else [octet]

/-- How many octets one octet takes. -/
def width (octet : UInt8) : Nat :=
  if needsEscape octet then 3 else 1

/-- The escaped form of an octet sequence. -/
def encode (octets : Bytes) : Bytes :=
  octets.flatMap encodeOctet

/-- The length of the escaped form. -/
def encodedLength : Bytes → Nat
  | [] => 0
  | octet :: rest => width octet + encodedLength rest

/-- Undoes escaping from an offset on. A percent sign that two hexadecimal digits do not follow
is an error, which is the offset of that sign. -/
def decodeFrom (offset : Nat) : Bytes → Except Nat Bytes
  | [] => .ok []
  | octet :: rest =>
    if octet = percent then
      match rest with
      | high :: low :: rest =>
        match hexValue? high, hexValue? low with
        | some upper, some lower =>
          match decodeFrom (offset + 3) rest with
          | .ok octets => .ok ((upper * 16 + lower) :: octets)
          | .error position => .error position
        | _, _ => .error offset
      | _ => .error offset
    else
      match decodeFrom (offset + 1) rest with
      | .ok octets => .ok (octet :: octets)
      | .error position => .error position

/-- Undoes escaping, or gives the offset of the first percent sign that starts no escape. -/
def decode (octets : Bytes) : Except Nat Bytes :=
  decodeFrom 0 octets

theorem length_encodeOctet (octet : UInt8) : (encodeOctet octet).length = width octet := by
  unfold encodeOctet width
  split <;> rfl

theorem length_encode (octets : Bytes) : (encode octets).length = encodedLength octets := by
  induction octets with
  | nil => rfl
  | cons octet rest ih =>
    rw [encodedLength, ← ih, ← length_encodeOctet]
    exact List.length_append

end LineProtocol.Escape
