import LineProtocol.Failure
import LineProtocol.Octets
import LineProtocol.Text.Decimal

/-!
# Hosts

A host is written as a number or as a name. A number of four octets has one to four parts between
periods, in decimal, octal or hexadecimal; one of eight groups has hexadecimal groups between
colons, of which a double colon leaves out those that are zero. The only name that is known without
asking anybody is `localhost`, and there is nobody to ask.

No interface of this computer is up. Any number of four octets can be listened at all the same,
since nothing says whose it is; a number of eight groups is known not to be ours unless it stands
for no computer in particular or for four octets.
-/

set_option autoImplicit false

namespace LineProtocol

/-- Where a computer is found: four octets as one number, or eight groups of sixteen bits with the
number of the interface that they are meant for, or zero. -/
inductive Host where
  | v4 (number : Nat)
  | v6 (groups : List Nat) (zone : Nat)
  deriving DecidableEq, Repr

namespace Host

/-! ### Errors -/

/-- The host is no number and cannot be a name. -/
def unknown : IoError :=
  ⟨.uncategorized, "failed to lookup address information: Name or service not known"⟩

/-- The host may be a name, but nobody can be asked. -/
def unresolved : IoError :=
  ⟨.uncategorized, "failed to lookup address information: Temporary failure in name resolution"⟩

/-- A name is handed on in a form that a NUL ends. -/
def nulInName : IoError :=
  ⟨.invalidInput, "file name contained an unexpected NUL byte"⟩

/-- The host is another one. -/
def notHere : IoError := ⟨.addrNotAvailable, "Cannot assign requested address (os error 99)"⟩

/-- Nobody can listen at such a number. -/
def noListener : IoError := ⟨.invalidInput, "Invalid argument (os error 22)"⟩

/-- The interface does not exist. -/
def noInterface : IoError := ⟨.uncategorized, "No such device (os error 19)"⟩

/-- No route leads to the network. -/
def noRoute : IoError := ⟨.networkUnreachable, "Network is unreachable (os error 101)"⟩

/-! ### Four octets -/

/-- A part of a number: hexadecimal after `0x`, octal after `0`, otherwise decimal. -/
def part? : List Char → Option Nat
  | '0' :: 'x' :: digits => Decimal.positional? 16 digits
  | '0' :: 'X' :: digits => Decimal.positional? 16 digits
  | '0' :: digits => Decimal.digitsValue? 8 0 digits
  | digits => Decimal.positional? 10 digits

/-- Joins parts to a number of so many octets, after those already read: each part but the last is
an octet, and the last fills what is left. -/
def joinParts? : Nat → Nat → List Nat → Option Nat
  | _, _, [] => none
  | left, value, [last] => if last < 256 ^ left then some (value * 256 ^ left + last) else none
  | left, value, octet :: rest =>
    if 1 < left ∧ octet < 256 then joinParts? (left - 1) (value * 256 + octet) rest else none

/-- The four octets written in one to four parts, as one number. -/
def octets? (characters : List Char) : Option Nat := do
  joinParts? 4 0 (← (characters.splitOn '.').mapM part?)

/-- The four octets written in four decimal parts without leading zeros, as one number. -/
def dotted? (characters : List Char) : Option Nat :=
  let parts := characters.splitOn '.'
  if parts.length = 4 ∧ parts.all (fun part ↦ part.length = 1 || part.head? ≠ some '0') then do
    joinParts? 4 0 (← parts.mapM (Decimal.positional? 10))
  else none

/-! ### Eight groups -/

/-- A group of one to four hexadecimal digits. -/
def group? (digits : List Char) : Option Nat :=
  if digits.length ≤ 4 then Decimal.positional? 16 digits else none

/-- The groups of the parts between colons; the last part may be four octets, which are two
groups. -/
def groups? : List (List Char) → Option (List Nat)
  | [] => some []
  | [last] =>
    match dotted? last with
    | some number => some [number / 0x10000, number % 0x10000]
    | none => (group? last).map ([·])
  | part :: rest => do return (← group? part) :: (← groups? rest)

/-- The text before the first double colon, and the text after it if there is one. -/
def splitGap : List Char → List Char × Option (List Char)
  | [] => ([], none)
  | ':' :: ':' :: rest => ([], some rest)
  | character :: rest => ((splitGap rest).map (character :: ·) id)

/-- The parts between colons of one side of a double colon, which may be empty. -/
def parts (side : List Char) : List (List Char) :=
  if side.isEmpty then [] else side.splitOn ':'

/-- The eight groups of a number; a double colon stands for at least one group. -/
def eightGroups? (characters : List Char) : Option (List Nat) :=
  match splitGap characters with
  | (whole, none) => (groups? (parts whole)).filter (·.length = 8)
  | (before, some after) => do
    let leading ← (parts before).mapM group?
    let trailing ← groups? (parts after)
    let shown := leading.length + trailing.length
    if shown < 8 then some (leading ++ List.replicate (8 - shown) 0 ++ trailing) else none

/-- Whether a number is meant for one interface only. -/
def isLinkLocal (groups : List Nat) : Bool :=
  groups.head?.any fun first ↦ 0xFE80 ≤ first && first < 0xFEC0

/-- Whether a number stands for several computers. -/
def isMulticast (groups : List Nat) : Bool :=
  groups.head?.any (0xFF00 ≤ ·)

/-- Whether a number stands for several computers at one interface, or for parts of this one. -/
def isLinkMulticast (groups : List Nat) : Bool :=
  groups.head?.any fun first ↦ 0xFF00 ≤ first && (first % 0x10 == 1 || first % 0x10 == 2)

/-- Whether a number stands for no computer in particular. -/
def isUnspecified (groups : List Nat) : Bool :=
  groups.all (· == 0)

/-- Whether a number stands for four octets. -/
def isMapped (groups : List Nat) : Bool :=
  groups.take 6 == [0, 0, 0, 0, 0, 0xFFFF]

/-- The number of an interface. -/
def zoneNumber? (characters : List Char) : Option Nat :=
  (Decimal.positional? 10 characters).filter (· < 0x100000000)

/-- The interface of a number in eight groups: its number or, if the number is meant for one
interface only, its name. There is just one interface, the loopback. -/
def zone? (groups : List Nat) (characters : List Char) : Option Nat :=
  if characters = ['l', 'o'] ∧ (isLinkLocal groups || isLinkMulticast groups) then some 1
  else zoneNumber? characters

/-- Reads eight groups, and an interface after a percent sign. -/
def v6? (readZone : List Nat → List Char → Option Nat) (characters : List Char) : Option Host :=
  match characters.span (· ≠ '%') with
  | (number, []) => do return .v6 (← eightGroups? number) 0
  | (number, _ :: zone) => do
    let groups ← eightGroups? number
    return .v6 groups (← readZone groups zone)

/-- Reads eight groups in square brackets, where an interface has a number and no name. -/
def bracketed? : List Char → Option Host
  | '[' :: rest =>
    match rest.getLast? with
    | some ']' => v6? (fun _ zone ↦ zoneNumber? zone) rest.dropLast
    | _ => none
  | _ => none

/-! ### Names -/

/-- Whether text can be a label of a name: at most 63 ASCII letters, digits, hyphens and
underscores. -/
def isLabel (label : List Char) : Bool :=
  0 < label.length && label.length < 64 &&
    label.all fun character ↦ character.isAlphanum || character == '-' || character == '_'

/-- Whether text can be the name of a host: labels between periods, and perhaps a period after the
last, or no label and a period. Without that period it has at most 253 characters. -/
def isName (characters : List Char) : Bool :=
  let stem := if characters.getLast? = some '.' then characters.dropLast else characters
  characters == ['.'] ||
    (characters.head? != some '-' && stem.length < 254 && (stem.splitOn '.').all isLabel)

/-- The host of a text without brackets. -/
def lookup (characters : List Char) : Except IoError Host :=
  if characters.contains '\x00' then .error nulInName
  else
    match octets? characters with
    | some number => .ok (.v4 number)
    | none =>
      match v6? zone? characters with
      | some host => .ok host
      | none =>
        if characters.map Char.toUpper = "LOCALHOST".toList then .ok (.v4 0x7F000001)
        else if isName characters then .error unresolved
        else .error unknown

/-! ### Listening -/

/-- Whether one can listen at a host. -/
def listen : Host → Except IoError Unit
  | .v4 _ => .ok ()
  | .v6 groups zone =>
    if isMulticast groups then .error noListener
    else if isUnspecified groups || isMapped groups then .ok ()
    else if isLinkLocal groups && zone == 0 then .error noListener
    else if isLinkLocal groups && zone != 1 then .error noInterface
    else .error notHere

/-- Why nobody can connect to a host at which one listens. -/
def unreached : Host → IoError
  | .v4 _ => noRoute
  | .v6 groups _ => if isUnspecified groups then notHere else noRoute

end Host

end LineProtocol
