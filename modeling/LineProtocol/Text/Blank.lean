/-!
# Blanks

White space in text is the Unicode property `White_Space`. It has 25 characters, the six of ASCII
among them.
-/

set_option autoImplicit false

namespace LineProtocol.Blank

/-- Whether a character has the property `White_Space`. -/
def isBlank (character : Char) : Bool :=
  let code := character.toNat
  (0x09 ≤ code && code ≤ 0x0D) || code == 0x20 || code == 0x85 || code == 0xA0 ||
    code == 0x1680 || (0x2000 ≤ code && code ≤ 0x200A) || code == 0x2028 || code == 0x2029 ||
    code == 0x202F || code == 0x205F || code == 0x3000

/-- The characters from the first that is not blank. -/
def trimStart (characters : List Char) : List Char :=
  characters.dropWhile isBlank

/-- The characters between the first and the last that are not blank. -/
def trim (characters : List Char) : List Char :=
  ((trimStart characters).reverse.dropWhile isBlank).reverse

end LineProtocol.Blank
