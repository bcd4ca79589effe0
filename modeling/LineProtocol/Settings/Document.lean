import LineProtocol.Settings.Basic
import LineProtocol.Text.Decimal

/-!
# Settings documents

Settings are written in TOML, one `key = value` to a line, with blank lines and comments between.
There are six keys, each given once at most, and a value is a string or a natural number. All else
that TOML knows (tables, dotted keys, arrays, floats, booleans, dates) can set nothing here, so a
document that has it is refused, as is one with an unknown key.

Strings come in four forms. Between double quotes a backslash starts an escape; between
apostrophes it does not. Tripled quotes or apostrophes enclose several lines: a line end right
after the opening is dropped, one or two quotes may stand before the closing, and a backslash at
the end of a line between quotes drops the white space after it.
-/

set_option autoImplicit false

namespace LineProtocol.Settings

namespace Document

/-- A value of a document. -/
inductive Value where
  | text (characters : List Char)
  | number (value : Nat)

/-- Space and tab. -/
def isSpace (character : Char) : Bool :=
  character == ' ' || character == '\t'

/-- The characters of strings and comments: no controls but the tab. -/
def isPlain (character : Char) : Bool :=
  character == '\t' || (' ' ≤ character && character != '\x7f')

/-- The characters of a key without quotes. -/
def isBare (character : Char) : Bool :=
  character.isAlphanum || character == '_' || character == '-'

/-- The characters from the first that is neither space nor tab. -/
def skipSpaces (characters : List Char) : List Char :=
  characters.dropWhile isSpace

/-- What follows a line end. -/
def afterNewline? : List Char → Option (List Char)
  | '\n' :: rest => some rest
  | '\r' :: '\n' :: rest => some rest
  | _ => none

/-- What follows the end of the line, which the end of the document is as well. -/
def afterLine? : List Char → Option (List Char)
  | [] => some []
  | characters => afterNewline? characters

/-- What follows the end of a line on which nothing but spaces and a comment is left. -/
def afterRemark? (characters : List Char) : Option (List Char) :=
  match skipSpaces characters with
  | '#' :: comment => afterLine? (comment.dropWhile isPlain)
  | characters => afterLine? characters

/-- The character of a code point in base sixteen. -/
def codePoint? (digits : List Char) : Option Char :=
  match Decimal.positional? 16 digits with
  | some code => if code.isValidChar then some (Char.ofNat code) else none
  | none => none

/-- The character of a one-letter escape. -/
def shortEscape? : Char → Option Char
  | 'b' => some '\x08'
  | 't' => some '\t'
  | 'n' => some '\n'
  | 'f' => some '\x0c'
  | 'r' => some '\r'
  | '"' => some '"'
  | '\\' => some '\\'
  | _ => none

/-- Puts a character in front of a string that was read, if both are there. -/
def prepend? (character : Option Char) (rest : Option (List Char × List Char)) :
    Option (List Char × List Char) :=
  match character, rest with
  | some character, some (string, rest) => some (character :: string, rest)
  | _, _ => none

/-- Reads a string up to its closing double quote. -/
def basic? : List Char → Option (List Char × List Char)
  | [] => none
  | '"' :: rest => some ([], rest)
  | '\\' :: 'u' :: a :: b :: c :: d :: rest => prepend? (codePoint? [a, b, c, d]) (basic? rest)
  | '\\' :: 'U' :: a :: b :: c :: d :: e :: f :: g :: h :: rest =>
    prepend? (codePoint? [a, b, c, d, e, f, g, h]) (basic? rest)
  | '\\' :: mark :: rest => prepend? (shortEscape? mark) (basic? rest)
  | character :: rest => if isPlain character then prepend? (some character) (basic? rest) else none

/-- Reads a string up to its closing apostrophe. -/
def literal? : List Char → Option (List Char × List Char)
  | [] => none
  | '\'' :: rest => some ([], rest)
  | character :: rest =>
    if isPlain character then prepend? (some character) (literal? rest) else none

/-- One or two marks before the closing ones belong to the string. -/
def closing (mark : Char) : List Char → List Char × List Char
  | first :: second :: rest =>
    if first = mark then
      if second = mark then ([mark, mark], rest) else ([mark], second :: rest)
    else ([], first :: second :: rest)
  | [first] => if first = mark then ([mark], []) else ([], [first])
  | [] => ([], [])

/-- Reads a string of several lines up to its closing double quotes. White space is passed over
after a backslash at the end of a line. -/
def multiBasic? : Bool → List Char → Option (List Char × List Char)
  | _, [] => none
  | _, '"' :: '"' :: '"' :: rest => some (closing '"' rest)
  | true, ' ' :: rest => multiBasic? true rest
  | true, '\t' :: rest => multiBasic? true rest
  | true, '\n' :: rest => multiBasic? true rest
  | true, '\r' :: '\n' :: rest => multiBasic? true rest
  | _, '\n' :: rest => prepend? (some '\n') (multiBasic? false rest)
  | _, '\r' :: '\n' :: rest => prepend? (some '\n') (multiBasic? false rest)
  | _, '\\' :: 'u' :: a :: b :: c :: d :: rest =>
    prepend? (codePoint? [a, b, c, d]) (multiBasic? false rest)
  | _, '\\' :: 'U' :: a :: b :: c :: d :: e :: f :: g :: h :: rest =>
    prepend? (codePoint? [a, b, c, d, e, f, g, h]) (multiBasic? false rest)
  | _, '\\' :: mark :: rest =>
    if (afterNewline? (skipSpaces (mark :: rest))).isSome then multiBasic? true (mark :: rest)
    else prepend? (shortEscape? mark) (multiBasic? false rest)
  | _, character :: rest =>
    if isPlain character then prepend? (some character) (multiBasic? false rest) else none

/-- Reads a string of several lines up to its closing apostrophes. -/
def multiLiteral? : List Char → Option (List Char × List Char)
  | [] => none
  | '\'' :: '\'' :: '\'' :: rest => some (closing '\'' rest)
  | '\n' :: rest => prepend? (some '\n') (multiLiteral? rest)
  | '\r' :: '\n' :: rest => prepend? (some '\n') (multiLiteral? rest)
  | character :: rest =>
    if isPlain character then prepend? (some character) (multiLiteral? rest) else none

/-- The characters without a line end in front. -/
def dropNewline (characters : List Char) : List Char :=
  (afterNewline? characters).getD characters

/-- Reads digits in a base, single underscores between them. -/
def grouped? (base : Nat) (digits : List Char) : Option Nat :=
  let groups := digits.splitOn '_'
  if groups.any List.isEmpty then none else Decimal.positional? base groups.flatten

/-- Reads a number without a sign: in base sixteen, eight or two after `0x`, `0o` or `0b`, and
otherwise in base ten without leading zeros. -/
def unsigned? : List Char → Option Nat
  | ['0'] => some 0
  | '0' :: 'x' :: digits => grouped? 16 digits
  | '0' :: 'o' :: digits => grouped? 8 digits
  | '0' :: 'b' :: digits => grouped? 2 digits
  | '0' :: _ => none
  | digits => grouped? 10 digits

/-- Reads a decimal number after a sign. -/
def signed? : List Char → Option Nat
  | '0' :: rest => if rest.isEmpty then some 0 else none
  | digits => grouped? 10 digits

/-- Reads a natural number that a signed word of 64 bits can hold. -/
def natural? (characters : List Char) : Option Nat :=
  let value := match characters with
    | '+' :: digits => signed? digits
    | '-' :: digits => (signed? digits).filter (· = 0)
    | digits => unsigned? digits
  value.filter (· < 0x8000000000000000)

/-- The characters of a number. -/
def isNumeral (character : Char) : Bool :=
  isBare character || character == '+'

/-- Reads a value. -/
def value? : List Char → Option (Value × List Char)
  | '"' :: '"' :: '"' :: rest =>
    (multiBasic? false (dropNewline rest)).map fun (string, rest) ↦ (.text string, rest)
  | '"' :: rest => (basic? rest).map fun (string, rest) ↦ (.text string, rest)
  | '\'' :: '\'' :: '\'' :: rest =>
    (multiLiteral? (dropNewline rest)).map fun (string, rest) ↦ (.text string, rest)
  | '\'' :: rest => (literal? rest).map fun (string, rest) ↦ (.text string, rest)
  | characters =>
    (natural? (characters.takeWhile isNumeral)).map fun value ↦
      (.number value, characters.dropWhile isNumeral)

/-- Reads a key. -/
def key? : List Char → Option (List Char × List Char)
  | '"' :: rest => basic? rest
  | '\'' :: rest => literal? rest
  | characters =>
    let key := characters.takeWhile isBare
    if key.isEmpty then none else some (key, characters.dropWhile isBare)

/-- Reads a key and its value up to the end of the line. -/
def entry? (characters : List Char) : Option (String × Value × List Char) :=
  match key? characters with
  | none => none
  | some (key, rest) =>
    match skipSpaces rest with
    | '=' :: rest =>
      match value? (skipSpaces rest) with
      | none => none
      | some (value, rest) => (afterRemark? rest).map (String.ofList key, value, ·)
    | _ => none

/-- Sets what a key names. -/
def assign? (settings : Settings) : String → Value → Option Settings
  | "listen_addr", .text address =>
    some { settings with listenAddress := String.ofList address }
  | "socket_path", .text path => some { settings with socketPath := some (String.ofList path) }
  | "max_connections", .number count => some { settings with maxConnections := count }
  | "read_timeout_ms", .number limit => some { settings with readTimeout := limit }
  | "write_timeout_ms", .number limit => some { settings with writeTimeout := limit }
  | "greeting", .text greeting => some { settings with greeting := some (String.ofList greeting) }
  | _, _ => none

/-- Reads the lines of a document, given the keys seen so far and the settings they made. Each
step must leave a shorter rest. -/
def lines? (seen : List String) (settings : Settings) (characters : List Char) :
    Option Settings :=
  match skipSpaces characters with
  | [] => some settings
  | first :: others =>
    match afterRemark? (first :: others) with
    | some rest =>
      if rest.length < characters.length then lines? seen settings rest else none
    | none =>
      match entry? (first :: others) with
      | none => none
      | some (key, value, rest) =>
        if seen.contains key then none
        else
          match assign? settings key value with
          | none => none
          | some settings =>
            if rest.length < characters.length then lines? (key :: seen) settings rest else none
termination_by characters.length

/-- Reads a document, which may begin with a byte order mark. -/
def parse? (text : String) : Option Settings :=
  match text.toList with
  | '\ufeff' :: rest => lines? [] .default rest
  | characters => lines? [] .default characters

end Document

/-- The settings that a document makes. -/
def parse (document : String) : Except Failure Settings :=
  match Document.parse? document with
  | some settings => .ok settings
  | none => .error (.configuration "the document does not describe settings")

/-- The settings that a file makes. -/
def load (path : String) (file : File) : Except Failure Settings :=
  match text path file with
  | .ok document => parse document
  | .error cause => .error cause

end LineProtocol.Settings
