import LineProtocol.Wire

/-!
# Handler programs

A command handler sees nothing of the stream. It is a finite program of steps: send a payload,
send a comment or a status line, ask the client for data. Each step is followed by what the
handler does with the step's outcome, so a handler may pass a failure on, ignore it, or go another
way.

`Program.run` carries a program out on a wire. An inquiry reads lines until something other than a
`D` line comes: `END` completes the data, `CAN` refuses it, any other verb is out of place. If the
client has not answered yet the run is suspended with the data collected so far, and
`Program.resume` goes on when more has arrived.
-/

set_option autoImplicit false

namespace LineProtocol

/-- What a handler does on the wire before it gives its result. -/
inductive Program (α : Type) where
  | done (result : α)
  | data (payload : Bytes) (next : Except Failure Unit → Program α)
  | comment (text : String) (next : Except Failure Unit → Program α)
  | status (keyword text : String) (next : Except Failure Unit → Program α)
  | inquire (keyword : String) (next : Except Rejection Bytes → Program α)

namespace Program

variable {α β : Type}

/-- The program that goes on with the result of another. -/
def bind (program : Program α) (next : α → Program β) : Program β :=
  match program with
  | .done result => next result
  | .data payload after => .data payload fun outcome ↦ (after outcome).bind next
  | .comment text after => .comment text fun outcome ↦ (after outcome).bind next
  | .status keyword text after => .status keyword text fun outcome ↦ (after outcome).bind next
  | .inquire keyword after => .inquire keyword fun outcome ↦ (after outcome).bind next

/-- How a run ended. -/
inductive Run (α : Type) where
  | finished (result : α)
  /-- An inquiry waits for the client, with the data collected so far. -/
  | suspended (collected : Bytes) (next : Except Rejection Bytes → Program α)

/-- What an inquiry has come to. -/
inductive Inquiry where
  | answered (outcome : Except Rejection Bytes)
  | waiting (collected : Bytes)

/-- The client refused to answer. -/
def canceled : Fault := .assuan .assuanCanceled "canceled"

/-- The client sent something else than an answer. -/
def unexpected (verb : String) : Fault :=
  .assuan .assuanUnexpectedCommand ("unexpected command " ++ verb ++ " during inquire")

/-- Reads the answer to an inquiry. -/
def gather (collected : Bytes) (reader : LineReader) : Inquiry × LineReader :=
  match _ : reader.readLine with
  | (.waiting, rest) => (.waiting collected, rest)
  | (.error cause, rest) => (.answered (.error (.ofFailure cause)), rest)
  | (.value line, rest) =>
    if line.verb = "D" then gather (collected ++ line.parameters) rest
    else if line.verb = "END" then (.answered (.ok collected), rest)
    else if line.verb = "CAN" then (.answered (.error (.report canceled)), rest)
    else (.answered (.error (.report (unexpected line.verb))), rest)
termination_by reader.weight
decreasing_by exact LineReader.weight_readLine_lt ‹_›

/-- Carries out a program until it ends or has to wait. -/
def run : Program α → Wire → Run α × Wire
  | .done result, wire => (.finished result, wire)
  | .data payload next, wire =>
    let (outcome, outlet) := wire.outlet.sendData payload
    (next outcome).run { wire with outlet := outlet }
  | .comment text next, wire =>
    let (outcome, outlet) := wire.outlet.sendComment text
    (next outcome).run { wire with outlet := outlet }
  | .status keyword text next, wire =>
    let (outcome, outlet) := wire.outlet.sendStatus keyword text
    (next outcome).run { wire with outlet := outlet }
  | .inquire keyword next, wire =>
    match wire.outlet.sendLine "INQUIRE" (Utf8.encode keyword) with
    | (.error cause, outlet) =>
      (next (.error (.ofFailure cause))).run { wire with outlet := outlet }
    | (.ok (), outlet) =>
      match gather [] wire.reader with
      | (.answered outcome, reader) => (next outcome).run ⟨reader, outlet⟩
      | (.waiting collected, reader) => (.suspended collected next, ⟨reader, outlet⟩)

/-- Goes on with a run that was suspended in an inquiry. -/
def resume (collected : Bytes) (next : Except Rejection Bytes → Program α) (wire : Wire) :
    Run α × Wire :=
  match gather collected wire.reader with
  | (.answered outcome, reader) => (next outcome).run { wire with reader := reader }
  | (.waiting collected, reader) => (.suspended collected next, { wire with reader := reader })

theorem weight_gather_le (collected : Bytes) (reader : LineReader) :
    (gather collected reader).2.weight ≤ reader.weight := by
  have step : ∀ {before rest : LineReader} {found : Reading Line},
      before.readLine = (found, rest) → rest.weight ≤ before.weight := by
    intro before rest found h
    have := LineReader.weight_readLine_le before
    rwa [h] at this
  fun_induction gather collected reader with
  | case1 collected reader rest h => exact step h
  | case2 collected reader cause rest h => exact step h
  | case3 collected reader line rest h hdata ih => exact Nat.le_trans ih (step h)
  | case4 collected reader line rest h => exact step h
  | case5 collected reader line rest h => exact step h
  | case6 collected reader line rest h => exact step h

/-- A run never adds to what is left to read. -/
theorem weight_run_le (program : Program α) (wire : Wire) :
    (program.run wire).2.reader.weight ≤ wire.reader.weight := by
  induction program generalizing wire with
  | done => exact Nat.le_refl _
  | data payload next ih => exact ih _ _
  | comment text next ih => exact ih _ _
  | status keyword text next ih => exact ih _ _
  | inquire keyword next ih =>
    simp only [run]
    split
    · exact ih _ _
    · have hgather := weight_gather_le [] wire.reader
      split
      case h_1 outcome reader heq =>
        rw [heq] at hgather
        exact Nat.le_trans (ih _ _) hgather
      case h_2 collected reader heq =>
        rw [heq] at hgather
        exact hgather

end Program

end LineProtocol
