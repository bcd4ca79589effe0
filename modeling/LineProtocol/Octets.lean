/-!
# Octets

Everything on the wire is a list of octets. This module fixes that type and the ASCII classes the
line format speaks of: white space, control octets, and the case map of the letters. They are
ASCII rules on purpose, for text as well: a letter outside ASCII has no case on the wire.
-/

set_option autoImplicit false

namespace LineProtocol

/-- What a stream carries. -/
abbrev Bytes := List UInt8

namespace Octet

/-- The line feed, which ends a line. -/
def lf : UInt8 := 0x0A

/-- The carriage return, which may stand before the line feed. -/
def cr : UInt8 := 0x0D

/-- The space, which ends a verb. -/
def space : UInt8 := 0x20

/-- ASCII white space: space, tab, line feed, form feed, carriage return. -/
def isBlank (octet : UInt8) : Bool :=
  octet == space || octet == 0x09 || octet == lf || octet == 0x0C || octet == cr

/-- ASCII control octets. -/
def isControl (octet : UInt8) : Bool :=
  octet < 0x20 || octet == 0x7F

/-- The upper-case form of an ASCII letter; every other octet is its own. -/
def upper (octet : UInt8) : UInt8 :=
  if 0x61 ≤ octet ∧ octet ≤ 0x7A then octet - 0x20 else octet

end Octet

/-- The text with its ASCII letters in upper case. -/
def upperCase (text : String) : String :=
  String.ofList (text.toList.map Char.toUpper)

end LineProtocol
