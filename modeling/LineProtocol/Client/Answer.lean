import LineProtocol.Writing
import LineProtocol.Stream.Inlet

/-!
# Answers

During a command the server may ask for pieces of data by keyword. The caller prepares an answer
for each keyword: octets, which can answer any number of times, or a source, which the first
inquiry drains. A later answer for a keyword replaces an earlier one.
-/

set_option autoImplicit false

namespace LineProtocol

/-- The answer to an inquiry. -/
inductive Answer where
  | octets (payload : Bytes)
  | source (inlet : Inlet)
  deriving DecidableEq, Repr

namespace Answer

/-- The most octets asked of a source at once. -/
def sourceLength : Nat := 4096

/-- An answer as a log shows it. -/
def describe : Answer → String
  | .octets payload => "Bytes(" ++ toString payload.length ++ ")"
  | .source _ => "Reader(..)"

/-- How sending an answer went. -/
inductive Sending where
  | complete
  /-- The connection failed. -/
  | writeFailed (cause : Failure)
  /-- The source failed. -/
  | sourceFailed (cause : IoError)
  deriving DecidableEq, Repr

/-- Sends what a source gives up to its end of file. A source that keeps its reader waiting is taken
to be at its end of file there, where a reader that blocks would not come back. -/
def drain (outlet : Outlet) (source : Inlet) : Sending × Inlet × Outlet :=
  match _ : source.read sourceLength with
  | (.octets [], rest) => (.complete, rest, outlet)
  | (.pending, rest) => (.complete, rest, outlet)
  | (.failed cause, rest) =>
    if cause.kind = .interrupted then drain outlet rest else (.sourceFailed cause, rest, outlet)
  | (.octets (first :: others), rest) =>
    match outlet.sendData (first :: others) with
    | (.ok (), outlet) => drain outlet rest
    | (.error cause, outlet) => (.writeFailed cause, rest, outlet)
termination_by source.weight
decreasing_by
  · exact Inlet.weight_of_read_failed ‹_›
  · have hweight := Inlet.weight_of_read_octets ‹source.read sourceLength = _›
    rw [List.length_cons] at hweight
    exact Nat.lt_of_lt_of_le (by omega) hweight

/-- Sends an answer and gives what is left of it for the next time. -/
def send (outlet : Outlet) : Answer → Sending × Answer × Outlet
  | .octets payload =>
    match outlet.sendData payload with
    | (.ok (), outlet) => (.complete, .octets payload, outlet)
    | (.error cause, outlet) => (.writeFailed cause, .octets payload, outlet)
  | .source inlet =>
    let (sending, rest, outlet) := drain outlet inlet
    (sending, .source rest, outlet)

end Answer

/-- The answers prepared for a command, by keyword. -/
abbrev Answers := List (String × Answer)

namespace Answers

/-- The answers of a list in which a later one replaces an earlier one of its keyword. -/
def ofList (answers : List (String × Answer)) : Answers := answers.reverse

/-- The answer for a keyword. -/
def find? (answers : Answers) (keyword : String) : Option Answer :=
  answers.lookup keyword

/-- Replaces the answer for a keyword that has one. -/
def replace (answers : Answers) (keyword : String) (answer : Answer) : Answers :=
  (keyword, answer) :: answers.filter (·.1 ≠ keyword)

end Answers

end LineProtocol
