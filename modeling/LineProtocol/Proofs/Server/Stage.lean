import LineProtocol.Proofs.Line.Channel
import LineProtocol.Server.Program

/-!
# Handler programs stage by stage

While nothing arrives, a program sends lines until it ends or asks for data. `Program.stage` is
that part of it: the lines, and what is left of the program then. `run_ofLines` says that a run
comes to just that, and `resume_of_end` and `resume_of_cancel` that a suspended run goes on with
the next stage once the answer has come, however many parts it came in (`resume_of_data`).

Until it closes, the reply to a command is data, comments and status lines; an inquiry is the last
line of its stage (`stage_lines`). A program that `Resigns` gives up asking once it is refused.
-/

set_option autoImplicit false

namespace LineProtocol

namespace Program

variable {α : Type}

/-- How a program stands when it has ended or asked for data. -/
inductive Stage (α : Type) where
  | finished (result : α)
  | asking (next : Except Rejection Bytes → Program α)

/-- A line that a program sends, if it can be composed, and what the program does then. -/
def Stage.after (composed : Except Failure Line)
    (next : Except Failure Unit → List Line × Stage α) : List Line × Stage α :=
  match composed with
  | .ok line => (line :: (next (.ok ())).1, (next (.ok ())).2)
  | .error cause => next (.error cause)

/-- What a program does once its inquiry was sent, or could not be composed. -/
def Stage.inquiring (composed : Except Failure Line)
    (next : Except Rejection Bytes → Program α)
    (failed : Except Rejection Bytes → List Line × Stage α) : List Line × Stage α :=
  match composed with
  | .ok line => ([line], .asking next)
  | .error cause => failed (.error (.ofFailure cause))

/-- The lines that a program sends up to its end or its next inquiry, and how it stands then. -/
def stage : Program α → List Line × Stage α
  | .done result => ([], .finished result)
  | .data payload next =>
    (Line.ofPayload payload ++ (next (.ok ())).stage.1, (next (.ok ())).stage.2)
  | .comment text next =>
    Stage.after (Line.compose "#" (Utf8.encode text)) fun outcome ↦ (next outcome).stage
  | .status keyword text next =>
    Stage.after (Line.compose "S" (Utf8.encode
      (if text = "" then keyword else keyword ++ " " ++ text))) fun outcome ↦ (next outcome).stage
  | .inquire keyword next =>
    Stage.inquiring (Line.compose "INQUIRE" (Utf8.encode keyword)) next
      fun outcome ↦ (next outcome).stage

/-- How the run of a program ends at its next stage. -/
def Stage.run : Stage α → Run α
  | .finished result => .finished result
  | .asking next => .suspended [] next

/-! ### Answers -/

variable {data : List Line} {line : Line} (collected : Bytes)

theorem gather_nil :
    gather collected (.facing false []) = (.waiting collected, .facing false []) := by
  rw [gather, LineReader.readLine_facing_nil]

theorem gather_cons (later : List Line) (h : line.IsData) :
    gather collected (.facing false (line :: later)) =
      gather (collected ++ line.parameters) (.facing false later) := by
  have hkept := Line.onlyInforms_of_verb h.2 (by decide) (by decide)
  rw [gather, LineReader.readLine_facing_of_tells false later h.1 hkept]
  simp only [h.2, if_true]

/-- Data is collected in order. -/
theorem gather_data (later : List Line) (h : ∀ line ∈ data, line.IsData) :
    gather collected (.facing false (data ++ later)) =
      gather (collected ++ data.flatMap Line.parameters) (.facing false later) := by
  induction data generalizing collected with
  | nil => rw [List.nil_append, List.flatMap_nil, List.append_nil]
  | cons line data ih =>
    have hline := h line List.mem_cons_self
    rw [List.cons_append, gather_cons collected _ hline,
      ih _ fun later hmem ↦ h later (List.mem_cons_of_mem _ hmem), List.flatMap_cons,
      List.append_assoc]

theorem gather_end (hline : line.Sendable) (hverb : line.verb = "END") :
    gather collected (.facing false [line]) = (.answered (.ok collected), .facing false []) := by
  have hkept := Line.onlyInforms_of_verb hverb (by decide) (by decide)
  rw [gather, LineReader.readLine_facing_of_tells false [] hline hkept]
  simp only [hverb]
  rfl

theorem gather_cancel (hline : line.Sendable) (hverb : line.verb = "CAN") :
    gather collected (.facing false [line]) =
      (.answered (.error (.report canceled)), .facing false []) := by
  have hkept := Line.onlyInforms_of_verb hverb (by decide) (by decide)
  rw [gather, LineReader.readLine_facing_of_tells false [] hline hkept]
  simp only [hverb]
  rfl

/-! ### Runs -/

variable (before : List Line)

/-- A run comes to the end of the program's stage. -/
theorem run_ofLines (program : Program α) :
    program.run (.ofLines [] before) =
      (program.stage.2.run, .ofLines [] (before ++ program.stage.1)) := by
  induction program generalizing before with
  | done result =>
    rw [run, stage, List.append_nil]
    rfl
  | data payload next ih =>
    have hsent := Outlet.sendData_holding before payload
    rw [run, stage]
    simp only [Wire.ofLines] at ih ⊢
    rw [hsent]
    simp only
    rw [ih, List.append_assoc]
  | comment text next ih =>
    have hsent := Outlet.sendLine_holding before "#" (Utf8.encode text)
    rw [run, stage, Outlet.sendComment]
    simp only [Wire.ofLines] at ih ⊢
    rw [hsent]
    cases Line.compose "#" (Utf8.encode text) with
    | error cause => simp only [Outlet.added, Stage.after, ih]
    | ok line =>
      simp only [Outlet.added, Stage.after, ih, List.append_assoc, List.singleton_append]
  | status keyword text next ih =>
    have hsent := Outlet.sendLine_holding before "S"
      (Utf8.encode (if text = "" then keyword else keyword ++ " " ++ text))
    rw [run, stage, Outlet.sendStatus]
    simp only [Wire.ofLines] at ih ⊢
    rw [hsent]
    cases Line.compose "S"
      (Utf8.encode (if text = "" then keyword else keyword ++ " " ++ text)) with
    | error cause => simp only [Outlet.added, Stage.after, ih]
    | ok line =>
      simp only [Outlet.added, Stage.after, ih, List.append_assoc, List.singleton_append]
  | inquire keyword next ih =>
    have hsent := Outlet.sendLine_holding before "INQUIRE" (Utf8.encode keyword)
    rw [run, stage]
    simp only [Wire.ofLines] at ih ⊢
    rw [hsent]
    cases Line.compose "INQUIRE" (Utf8.encode keyword) with
    | error cause => simp only [Outlet.added, Stage.inquiring, ih]
    | ok line => simp only [Outlet.added, Stage.inquiring, Stage.run, gather_nil]

variable {next : Except Rejection Bytes → Program α}

/-- A suspended run keeps the part of an answer that has come. -/
theorem resume_of_data (h : ∀ line ∈ data, line.IsData) :
    resume collected next (.ofLines data before) =
      (.suspended (collected ++ data.flatMap Line.parameters) next, .ofLines [] before) := by
  have hgather := gather_data collected [] h
  rw [List.append_nil] at hgather
  rw [resume, Wire.ofLines, hgather, gather_nil]
  rfl

/-- A suspended run goes on with a whole answer. -/
theorem resume_of_end (h : ∀ line ∈ data, line.IsData) (hline : line.Sendable)
    (hverb : line.verb = "END") :
    resume collected next (.ofLines (data ++ [line]) before) =
      (next (.ok (collected ++ data.flatMap Line.parameters))).run (.ofLines [] before) := by
  rw [resume, Wire.ofLines, gather_data collected _ h, gather_end _ hline hverb]
  rfl

/-- A suspended run goes on without an answer that was refused. -/
theorem resume_of_cancel (h : ∀ line ∈ data, line.IsData) (hline : line.Sendable)
    (hverb : line.verb = "CAN") :
    resume collected next (.ofLines (data ++ [line]) before) =
      (next (.error (.report canceled))).run (.ofLines [] before) := by
  rw [resume, Wire.ofLines, gather_data collected _ h, gather_cancel _ hline hverb]
  rfl

/-! ### What a stage sends -/

/-- The lines that lead up to a stage. -/
def Stage.LedBy : Stage α → List Line → Prop
  | .finished _, lines => ∀ line ∈ lines, line.IsInner
  | .asking _, lines =>
    ∃ inner inquiry, lines = inner ++ [inquiry] ∧ (∀ line ∈ inner, line.IsInner) ∧
      inquiry.IsInquiry

theorem Stage.LedBy.append {stage : Stage α} {lines more : List Line} (h : stage.LedBy more)
    (hlines : ∀ line ∈ lines, line.IsInner) : stage.LedBy (lines ++ more) := by
  cases stage with
  | finished result => exact List.forall_mem_append.2 ⟨hlines, h⟩
  | asking next =>
    obtain ⟨inner, inquiry, rfl, hinner, hinquiry⟩ := h
    refine ⟨lines ++ inner, inquiry, (List.append_assoc _ _ _).symm, ?_, hinquiry⟩
    exact List.forall_mem_append.2 ⟨hlines, hinner⟩

theorem Stage.ledBy_after {verb : String} {parameters : Bytes}
    {next : Except Failure Unit → List Line × Stage α}
    (hverb : upperCase verb = "D" ∨ upperCase verb = "#" ∨ upperCase verb = "S")
    (hnext : ∀ outcome, (next outcome).2.LedBy (next outcome).1) :
    (Stage.after (Line.compose verb parameters) next).2.LedBy
      (Stage.after (Line.compose verb parameters) next).1 := by
  cases h : Line.compose verb parameters with
  | error cause => exact hnext (.error cause)
  | ok line =>
    have hinner : ∀ sent ∈ [line], sent.IsInner :=
      List.forall_mem_singleton.2 (Line.isInner_of_compose hverb h)
    exact (hnext (.ok ())).append hinner

/-- A program sends data, comments and status lines, and its inquiry last. -/
theorem stage_lines (program : Program α) : program.stage.2.LedBy program.stage.1 := by
  induction program with
  | done result => exact List.forall_mem_nil _
  | data payload next ih =>
    exact (ih (.ok ())).append fun line hmem ↦ (Line.isData_of_mem_ofPayload hmem).isInner
  | comment text next ih =>
    have hverb : upperCase "#" = "#" := by decide
    exact Stage.ledBy_after (.inr (.inl hverb)) ih
  | status keyword text next ih =>
    have hverb : upperCase "S" = "S" := by decide
    exact Stage.ledBy_after (.inr (.inr hverb)) ih
  | inquire keyword next ih =>
    rw [stage]
    cases h : Line.compose "INQUIRE" (Utf8.encode keyword) with
    | error cause => exact ih _
    | ok line => exact ⟨[], line, rfl, List.forall_mem_nil _, Line.isInquiry_of_compose h⟩

/-! ### Refused inquiries -/

/-- A program that asks for nothing more once it has been refused an answer. -/
inductive Resigns : Program α → Prop
  | finishes {program : Program α} (result : α) (hstage : program.stage.2 = .finished result) :
    Resigns program
  | asks {program : Program α} (next : Except Rejection Bytes → Program α) (refused : α)
      (hstage : program.stage.2 = .asking next)
      (hrefused : (next (.error (.report canceled))).stage.2 = .finished refused)
      (hanswered : ∀ data, Resigns (next (.ok data))) : Resigns program

/-- The same of a program that waits for an answer. -/
structure Yields (next : Except Rejection Bytes → Program α) : Prop where
  refused : ∃ result, (next (.error (.report canceled))).stage.2 = .finished result
  answered : ∀ data, (next (.ok data)).Resigns

theorem Resigns.yields {program : Program α} (h : program.Resigns)
    (hstage : program.stage.2 = .asking next) : Yields next := by
  cases h with
  | finishes result hfinished => exact nomatch hstage.symm.trans hfinished
  | asks asked refused hasking hrefused hanswered =>
    obtain rfl := Stage.asking.inj (hstage.symm.trans hasking)
    exact ⟨⟨refused, hrefused⟩, hanswered⟩

end Program

end LineProtocol
