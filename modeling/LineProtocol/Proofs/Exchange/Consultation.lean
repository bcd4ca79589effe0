import LineProtocol.Proofs.Client.Hearing
import LineProtocol.Proofs.Server.Stage

/-!
# Handler programs with their inquiries answered

What a handler program comes to depends on the client only through the answers to its inquiries.
`Program.consult` carries it out on prepared answers, without any streams: the client goes by the
keyword up to its first space, and every inquiry is given the content that the answers have for it
by then. The result is a `Transcript`.

`consult_eq` follows a program from one stage to the next: what was sent before an inquiry is data
of the transcript, and the rest is that of the program which goes on with the answer.
-/

set_option autoImplicit false

namespace LineProtocol

/-- What a handler program comes to. -/
structure Transcript (α : Type) where
  result : α
  /-- The payloads that the program sent, one after the other. -/
  data : Bytes
  /-- How many inquiries the client was sent. -/
  inquiries : Nat

namespace Transcript

variable {α : Type}

/-- The transcript with data sent first. -/
def afterData (transcript : Transcript α) (data : Bytes) : Transcript α :=
  { transcript with data := data ++ transcript.data }

/-- The transcript with one more inquiry. -/
def afterInquiry (transcript : Transcript α) : Transcript α :=
  { transcript with inquiries := transcript.inquiries + 1 }

theorem afterData_append (transcript : Transcript α) (first second : Bytes) :
    transcript.afterData (first ++ second) = (transcript.afterData second).afterData first := by
  simp only [afterData, List.append_assoc]

end Transcript

/-- The keyword that a client looks for when it is sent an inquiry. -/
def Answers.key (keyword : String) : String :=
  String.ofList (keyword.toList.takeWhile (· ≠ ' '))

namespace Program

variable {α : Type}

/-- How writing a line of a verb and parameters goes. -/
def written (verb : String) (parameters : Bytes) : Except Failure Unit :=
  (Line.compose verb parameters).map fun _ ↦ ()

/-- What a program comes to when its inquiries are answered from prepared answers, given the
keywords asked for before; nothing if there is no answer for one of them. -/
def consult (answers : Answers) : Program α → List String → Option (Transcript α)
  | .done result, _ => some ⟨result, [], 0⟩
  | .data payload next, asked =>
    (consult answers (next (.ok ())) asked).map (·.afterData payload)
  | .comment text next, asked =>
    consult answers (next (written "#" (Utf8.encode text))) asked
  | .status keyword text next, asked =>
    consult answers (next (written "S" (Utf8.encode
      (if text = "" then keyword else keyword ++ " " ++ text)))) asked
  | .inquire keyword next, asked =>
    match written "INQUIRE" (Utf8.encode keyword) with
    | .error cause => consult answers (next (.error (.ofFailure cause))) asked
    | .ok () =>
      match answers.content asked (Answers.key keyword) with
      | none => none
      | some content =>
        (consult answers (next (.ok content)) (Answers.key keyword :: asked)).map
          (·.afterInquiry)

variable (answers : Answers) (asked : List String)

/-- What a program comes to that has sent some lines and stands at a stage. -/
def Stage.Consults (lines : List Line) (stage : Stage α)
    (transcript : Option (Transcript α)) : Prop :=
  match stage with
  | .finished result =>
    (∀ line ∈ lines, line.IsInner) ∧ transcript = some ⟨result, lines.flatMap Line.data, 0⟩
  | .asking next =>
    ∃ inner inquiry, lines = inner ++ [inquiry] ∧ (∀ line ∈ inner, line.IsInner) ∧
      inquiry.IsInquiry ∧
      transcript = (answers.content asked (Client.keyword inquiry)).bind fun content ↦
        (consult answers (next (.ok content)) (Client.keyword inquiry :: asked)).map
          fun later ↦ later.afterInquiry.afterData (inner.flatMap Line.data)

variable {answers asked}

theorem Stage.Consults.afterLines {lines sent : List Line} {stage : Stage α}
    {transcript : Option (Transcript α)} (h : stage.Consults answers asked lines transcript)
    (hsent : ∀ line ∈ sent, line.IsInner) :
    stage.Consults answers asked (sent ++ lines)
      (transcript.map (·.afterData (sent.flatMap Line.data))) := by
  cases stage with
  | finished result =>
    obtain ⟨hlines, rfl⟩ := h
    refine ⟨List.forall_mem_append.2 ⟨hsent, hlines⟩, ?_⟩
    rw [List.flatMap_append]
    rfl
  | asking next =>
    obtain ⟨inner, inquiry, rfl, hinner, hinquiry, rfl⟩ := h
    refine ⟨sent ++ inner, inquiry, (List.append_assoc _ _ _).symm,
      List.forall_mem_append.2 ⟨hsent, hinner⟩, hinquiry, ?_⟩
    rw [Option.map_bind, List.flatMap_append]
    refine congrArg _ (funext fun content ↦ ?_)
    rw [Function.comp_apply, Option.map_map]
    refine congrArg (Option.map · _) (funext fun later ↦ ?_)
    rw [Function.comp_apply, Transcript.afterData_append]

theorem Stage.consults_after {verb : String} {parameters : Bytes}
    {next : Except Failure Unit → Program α}
    (hverb : upperCase verb = "#" ∨ upperCase verb = "S")
    (h : ∀ outcome, (next outcome).stage.2.Consults answers asked (next outcome).stage.1
      (consult answers (next outcome) asked)) :
    (Stage.after (Line.compose verb parameters) fun outcome ↦ (next outcome).stage).2.Consults
      answers asked
      (Stage.after (Line.compose verb parameters) fun outcome ↦ (next outcome).stage).1
      (consult answers (next (written verb parameters)) asked) := by
  unfold written
  cases hcomposed : Line.compose verb parameters with
  | error cause => exact h (.error cause)
  | ok line =>
    have hinner : ∀ sent ∈ [line], sent.IsInner :=
      List.forall_mem_singleton.2 (Line.isInner_of_compose (.inr hverb) hcomposed)
    obtain ⟨-, rfl⟩ := Line.sendable_of_compose hcomposed
    have hdata : [Line.mk (upperCase verb) parameters].flatMap Line.data = [] := by
      have hother : upperCase verb ≠ "D" := by
        rcases hverb with h | h <;> rw [h] <;> decide
      simp [Line.data, hother]
    have hafter := (h (.ok ())).afterLines hinner
    rw [hdata] at hafter
    have hsame : (consult answers (next (.ok ())) asked).map
        (fun transcript ↦ transcript.afterData []) = consult answers (next (.ok ())) asked :=
      Option.map_id_fun' ▸ rfl
    rw [hsame] at hafter
    exact hafter

/-- A program comes to what its first stage leads to. -/
theorem consult_eq (answers : Answers) (asked : List String) (program : Program α) :
    program.stage.2.Consults answers asked program.stage.1 (consult answers program asked) := by
  induction program with
  | done result => exact ⟨List.forall_mem_nil _, rfl⟩
  | data payload next ih =>
    have hdata : ∀ line ∈ Line.ofPayload payload, line.IsData :=
      fun line ↦ Line.isData_of_mem_ofPayload
    have hafter := (ih (.ok ())).afterLines fun line hmem ↦ (hdata line hmem).isInner
    rw [Line.flatMap_data_of_isData hdata, Line.flatMap_parameters_ofPayload] at hafter
    exact hafter
  | comment text next ih => exact Stage.consults_after (.inl (by decide)) ih
  | status keyword text next ih => exact Stage.consults_after (.inr (by decide)) ih
  | inquire keyword next ih =>
    rw [stage, consult, written]
    cases hcomposed : Line.compose "INQUIRE" (Utf8.encode keyword) with
    | error cause => exact ih _
    | ok line =>
      have hinquiry : line.IsInquiry := Line.isInquiry_of_compose hcomposed
      obtain ⟨-, rfl⟩ := Line.sendable_of_compose hcomposed
      have hkey : Client.keyword ⟨upperCase "INQUIRE", Utf8.encode keyword⟩ =
          Answers.key keyword := by
        rw [Client.keyword, Line.textLossy, Utf8.decodeLossy_encode]
        rfl
      refine ⟨[], _, rfl, List.forall_mem_nil _, hinquiry, ?_⟩
      rw [hkey]
      simp only [Except.map]
      cases answers.content asked (Answers.key keyword) <;> rfl

end Program

end LineProtocol
