import LineProtocol.Octets

/-!
# UTF-8

Text leaves as UTF-8 and octets come back as text. The decoder reads one octet at a time: between
characters the next octet leads a new one, inside a character it must lie between two bounds that
the octets before it fix. Octets that no character can hold are marked by `none`, one mark for
each longest stretch that begins a character without finishing it, and the octet that broke the
stretch is read again as a leading one.

`decode?` refuses a marked sequence and `decodeLossy` writes U+FFFD for each mark.
-/

set_option autoImplicit false

namespace LineProtocol.Utf8

/-- The octets of a text. -/
def encode (text : String) : Bytes :=
  text.toList.flatMap String.utf8EncodeChar

/-- A character whose first octets have been read. -/
structure Unfinished where
  /-- How many octets are still owed, less one. -/
  owedAfterNext : Nat
  /-- The value of the octets so far. -/
  value : Nat
  /-- The least octet that may come next. -/
  low : UInt8
  /-- The greatest octet that may come next. -/
  high : UInt8

/-- What an octet between two characters means. -/
inductive Lead where
  | ascii
  | opens (character : Unfinished)
  | refused

/-- The leading octets: 00–7F stand alone, C2–F4 open a longer character, the rest open none.
The bounds after E0, ED, F0 and F4 leave out the overlong forms, the surrogates and what lies
above U+10FFFF. -/
def lead (octet : UInt8) : Lead :=
  if octet < 0x80 then .ascii
  else if octet < 0xC2 then .refused
  else if octet < 0xE0 then .opens ⟨0, octet.toNat - 0xC0, 0x80, 0xBF⟩
  else if octet < 0xF0 then
    .opens ⟨1, octet.toNat - 0xE0, if octet = 0xE0 then 0xA0 else 0x80,
      if octet = 0xED then 0x9F else 0xBF⟩
  else if octet < 0xF5 then
    .opens ⟨2, octet.toNat - 0xF0, if octet = 0xF0 then 0x90 else 0x80,
      if octet = 0xF4 then 0x8F else 0xBF⟩
  else .refused

/-- The characters of an octet sequence, `none` for each stretch that is no character. -/
def characters : Option Unfinished → Bytes → List (Option Char)
  | none, [] => []
  | some _, [] => [none]
  | none, octet :: rest =>
    match lead octet with
    | .ascii => some (Char.ofNat octet.toNat) :: characters none rest
    | .opens character => characters (some character) rest
    | .refused => none :: characters none rest
  | some character, octet :: rest =>
    if character.low ≤ octet ∧ octet ≤ character.high then
      let value := character.value * 64 + (octet.toNat - 0x80)
      match character.owedAfterNext with
      | 0 => some (Char.ofNat value) :: characters none rest
      | owed + 1 => characters (some ⟨owed, value, 0x80, 0xBF⟩) rest
    else
      none :: match lead octet with
        | .ascii => some (Char.ofNat octet.toNat) :: characters none rest
        | .opens next => characters (some next) rest
        | .refused => none :: characters none rest

/-- The characters, if every octet belongs to one. -/
def allCharacters : List (Option Char) → Option (List Char)
  | [] => some []
  | none :: _ => none
  | some character :: rest => (allCharacters rest).map (character :: ·)

/-- The text of a well-formed sequence. -/
def decode? (octets : Bytes) : Option String :=
  (allCharacters (characters none octets)).map String.ofList

/-- The replacement character. -/
def replacement : Char := Char.ofNat 0xFFFD

/-- The text of any sequence, with U+FFFD where it is ill-formed. -/
def decodeLossy (octets : Bytes) : String :=
  String.ofList ((characters none octets).map (·.getD replacement))

end LineProtocol.Utf8
