import LineProtocol.Proofs.Server.Action
import LineProtocol.Proofs.Line.Channel
import LineProtocol.Proofs.Server.Ending

/-!
# Handlers without their notices

A handler can write comments and status lines as it goes, which tell the client nothing that it
waits for. `Blueprint.without` is the blueprint whose handlers leave some of these notices out and
go on as if they had been written.

`Line.Thinned` relates what is written with the notices to what is written without them: some lines
are missing, and each of these only informs its reader. There is one exception, the status line of
no keyword and no text (`Line.bare`), which has no space after its `S`, so it is none of the lines
that a reader skips. Whatever a conversation reads, it does the same with and without the notices,
and what it writes is thinned (`Conversation.Thins.advance`).
-/

set_option autoImplicit false

namespace LineProtocol

variable {σ α : Type}

/-! ### Leaving notices out -/

/-- A comment or a status line. -/
inductive Notice where
  | comment (text : String)
  | status (keyword text : String)
  deriving DecidableEq, Repr

namespace Notice

/-- Writes the notice. -/
def send (outlet : Outlet) : Notice → Except Failure Unit × Outlet
  | .comment text => outlet.sendComment text
  | .status keyword text => outlet.sendStatus keyword text

/-- Whether the notice can be written on a stream that takes everything. -/
def succeeds (notice : Notice) : Bool :=
  (notice.send .fresh).1.isOk

end Notice

/-- The program that leaves notices out and goes on as if it had written them. -/
def Program.without (drops : Notice → Bool) : Program α → Program α
  | .done result => .done result
  | .data payload next => .data payload fun outcome ↦ (next outcome).without drops
  | .comment text next =>
    if drops (.comment text) then (next (.ok ())).without drops
    else .comment text fun outcome ↦ (next outcome).without drops
  | .status keyword text next =>
    if drops (.status keyword text) then (next (.ok ())).without drops
    else .status keyword text fun outcome ↦ (next outcome).without drops
  | .inquire keyword next => .inquire keyword fun outcome ↦ (next outcome).without drops

def Program.Run.without (drops : Notice → Bool) : Run α → Run α
  | .finished result => .finished result
  | .suspended collected next => .suspended collected fun outcome ↦ (next outcome).without drops

def Command.without (drops : Notice → Bool) (command : Command σ) : Command σ :=
  { command with
    handler := fun state parameters ↦ (command.handler state parameters).without drops }

/-- The registry with every entry changed. -/
def Registry.map {β : Type} (change : α → β) (registry : Registry α) : Registry β where
  entries := registry.entries.map fun entry ↦ (entry.1, change entry.2)
  increasing := by
    rw [Increasing, List.pairwise_map]
    exact registry.increasing

/-- The blueprint whose handlers leave notices out. -/
def Blueprint.without (drops : Notice → Bool) (blueprint : Blueprint σ) : Blueprint σ :=
  { blueprint with commands := blueprint.commands.map (Command.without drops) }

namespace Registry

variable {β : Type} (change : α → β) (registry : Registry α)

theorem find?_map (name : String) :
    (registry.map change).find? name = (registry.find? name).map change := by
  simp only [find?, map]
  induction registry.entries with
  | nil => rfl
  | cons entry later ih =>
    rw [List.map_cons, List.lookup_cons, List.lookup_cons, ih]
    cases name == entry.1 <;> rfl

theorem names_map : (registry.map change).names = registry.names := by
  rw [names, names, map, List.map_map]
  rfl

end Registry

/-! ### Fewer lines -/

namespace Line

/-- The status line of no keyword and no text. -/
def bare : Line := ⟨"S", []⟩

/-- The first row of lines becomes the second if some are left out that only inform, and bare
status lines if these may be left out as well. -/
inductive Thinned (bares : Prop) : List Line → List Line → Prop
  | nil : Thinned bares [] []
  | keep {line : Line} {loud quiet : List Line} (hline : line.Sendable)
      (h : Thinned bares loud quiet) : Thinned bares (line :: loud) (line :: quiet)
  | drop {line : Line} {loud quiet : List Line} (hline : line.Sendable)
      (hinforms : line.onlyInforms = true ∨ bares ∧ line = bare)
      (h : Thinned bares loud quiet) : Thinned bares (line :: loud) quiet

namespace Thinned

variable {bares : Prop} {loud quiet loud' quiet' : List Line}

theorem append (h : Thinned bares loud quiet) (hmore : Thinned bares loud' quiet') :
    Thinned bares (loud ++ loud') (quiet ++ quiet') := by
  induction h with
  | nil => exact hmore
  | keep hline h ih => exact .keep hline ih
  | drop hline hinforms h ih => exact .drop hline hinforms ih

theorem refl {lines : List Line} (h : ∀ line ∈ lines, line.Sendable) :
    Thinned bares lines lines := by
  induction lines with
  | nil => exact .nil
  | cons line later ih =>
    obtain ⟨hline, hlater⟩ := List.forall_mem_cons.1 h
    exact .keep hline (ih hlater)

/-- What comes first of the one row is what comes first of the other, thinned. -/
theorem exists_split (h : Thinned bares loud quiet) (count : Nat) :
    ∃ count', Thinned bares (loud.take count) (quiet.take count') ∧
      Thinned bares (loud.drop count) (quiet.drop count') := by
  induction h generalizing count with
  | nil => exact ⟨0, by simpa using .nil, by simpa using .nil⟩
  | keep hline h ih =>
    cases count with
    | zero => exact ⟨0, .nil, .keep hline h⟩
    | succ count =>
      obtain ⟨count', hfirst, hrest⟩ := ih count
      exact ⟨count' + 1, .keep hline hfirst, hrest⟩
  | drop hline hinforms h ih =>
    cases count with
    | zero => exact ⟨0, .nil, .drop hline hinforms h⟩
    | succ count =>
      obtain ⟨count', hfirst, hrest⟩ := ih count
      exact ⟨count', .drop hline hinforms hfirst, hrest⟩

/-- The other way round. -/
theorem exists_split' (h : Thinned bares loud quiet) (count' : Nat) :
    ∃ count, Thinned bares (loud.take count) (quiet.take count') ∧
      Thinned bares (loud.drop count) (quiet.drop count') := by
  induction h generalizing count' with
  | nil => exact ⟨0, by simpa using .nil, by simpa using .nil⟩
  | keep hline h ih =>
    cases count' with
    | zero => exact ⟨0, .nil, .keep hline h⟩
    | succ count' =>
      obtain ⟨count, hfirst, hrest⟩ := ih count'
      exact ⟨count + 1, .keep hline hfirst, hrest⟩
  | drop hline hinforms h ih =>
    obtain ⟨count, hfirst, hrest⟩ := ih count'
    exact ⟨count + 1, .drop hline hinforms hfirst, hrest⟩

end Thinned

end Line

/-! ### Writing -/

namespace Outlet

/-- The second outlet holds what the first one holds, thinned. -/
def Thins (bares : Prop) (loud quiet : Outlet) : Prop :=
  ∃ lines lines', Line.Thinned bares lines lines' ∧ loud = .holding lines ∧ quiet = .holding lines'

/-- Two writes come to the same, on outlets of which the second holds what the first one holds,
thinned. -/
structure WritesAlike (bares : Prop) (loud quiet : Except Failure Unit × Outlet) : Prop where
  result : quiet.1 = loud.1
  thins : loud.2.Thins bares quiet.2

variable {bares : Prop} {loud quiet : Outlet} {lines lines' : List Line}

theorem writesAlike_added (h : Line.Thinned bares lines lines') {composed : Except Failure Line}
    (hcomposed : ∀ line, composed = .ok line → line.Sendable) :
    WritesAlike bares (added lines composed) (added lines' composed) := by
  cases composed with
  | error cause => exact ⟨rfl, lines, lines', h, rfl, rfl⟩
  | ok line => exact ⟨rfl, _, _, h.append (.keep (hcomposed line rfl) .nil), rfl, rfl⟩

theorem Thins.sendLine (h : loud.Thins bares quiet) (verb : String) (parameters : Bytes) :
    WritesAlike bares (loud.sendLine verb parameters) (quiet.sendLine verb parameters) := by
  obtain ⟨lines, lines', hthinned, rfl, rfl⟩ := h
  rw [sendLine_holding, sendLine_holding]
  exact writesAlike_added hthinned fun _ hline ↦ (Line.sendable_of_compose hline).1

theorem Thins.sendFault (h : loud.Thins bares quiet) (fault : Fault) :
    WritesAlike bares (loud.sendFault fault) (quiet.sendFault fault) := by
  obtain ⟨lines, lines', hthinned, rfl, rfl⟩ := h
  rw [sendFault_holding, sendFault_holding]
  exact writesAlike_added hthinned fun _ hline ↦ (Line.isClosing_of_composed hline).1

theorem Thins.sendData (h : loud.Thins bares quiet) (payload : Bytes) :
    WritesAlike bares (loud.sendData payload) (quiet.sendData payload) := by
  obtain ⟨lines, lines', hthinned, rfl, rfl⟩ := h
  rw [sendData_holding, sendData_holding]
  have hpayload : Line.Thinned bares (Line.ofPayload payload) (Line.ofPayload payload) :=
    .refl fun line hmem ↦ (Line.isData_of_mem_ofPayload hmem).1
  exact ⟨rfl, _, _, hthinned.append hpayload, rfl, rfl⟩

theorem Thins.sendComments (h : loud.Thins bares quiet) (texts : List String) :
    WritesAlike bares (loud.sendComments texts) (quiet.sendComments texts) := by
  induction texts generalizing loud quiet with
  | nil => exact ⟨rfl, h⟩
  | cons text later ih =>
    obtain ⟨hresult, hthins⟩ := h.sendLine "#" (Utf8.encode text)
    rw [Outlet.sendComments, Outlet.sendComments, sendComment, sendComment]
    generalize quiet.sendLine "#" (Utf8.encode text) = written' at hresult hthins
    generalize loud.sendLine "#" (Utf8.encode text) = written at hresult hthins
    obtain ⟨result, outlet⟩ := written
    obtain ⟨result', outlet'⟩ := written'
    obtain rfl : result' = result := hresult
    cases result' with
    | ok done => exact ih hthins
    | error cause => exact ⟨rfl, hthins⟩

end Outlet

/-! ### Notices that are written -/

theorem Utf8.encode_ne_nil {text : String} (h : text ≠ "") : encode text ≠ [] := by
  intro hnone
  have hdecode := decodeLossy_encode text
  rw [hnone] at hdecode
  exact h hdecode.symm

namespace Line

theorem onlyInforms_comment (text : Bytes) : (Line.mk "#" text).onlyInforms = true := by
  have hverb : ("#".toList.head? == some '#') = true := by decide
  rw [onlyInforms, informs, hverb, Bool.true_or]

theorem onlyInforms_status {text : Bytes} (h : text ≠ []) :
    (Line.mk "S" text).onlyInforms = true := by
  have hverb : ("S" == "S" || "S" == "s") = true := by decide
  rw [onlyInforms, informs, hverb, List.isEmpty_eq_false_iff.2 h, Bool.not_false, Bool.true_and,
    Bool.or_true]

end Line

namespace Notice

/-- The line of a notice. -/
def line : Notice → Except Failure Line
  | .comment text => Line.compose "#" (Utf8.encode text)
  | .status keyword text =>
    Line.compose "S" (Utf8.encode (if text = "" then keyword else keyword ++ " " ++ text))

theorem send_holding (notice : Notice) (before : List Line) :
    notice.send (.holding before) = Outlet.added before notice.line := by
  cases notice <;> exact Outlet.sendLine_holding before _ _

/-- A reader skips a notice, unless it says nothing at all. -/
theorem informs_or_eq_bare {notice : Notice} {line : Line} (h : notice.line = .ok line) :
    line.Sendable ∧ (line.onlyInforms = true ∨ notice = .status "" "" ∧ line = .bare) := by
  cases notice with
  | comment text =>
    obtain ⟨hsendable, rfl⟩ := Line.sendable_of_compose h
    have hverb : upperCase "#" = "#" := by decide
    rw [hverb] at hsendable ⊢
    exact ⟨hsendable, .inl (Line.onlyInforms_comment _)⟩
  | status keyword text =>
    obtain ⟨hsendable, rfl⟩ := Line.sendable_of_compose h
    have hverb : upperCase "S" = "S" := by decide
    rw [hverb] at hsendable ⊢
    refine ⟨hsendable, ?_⟩
    by_cases hbare : keyword = "" ∧ text = ""
    · obtain ⟨rfl, rfl⟩ := hbare
      exact .inr ⟨rfl, rfl⟩
    · refine .inl (Line.onlyInforms_status (Utf8.encode_ne_nil ?_))
      split
      case isTrue hnone => exact fun hkeyword ↦ hbare ⟨hkeyword, hnone⟩
      case isFalse => simp

/-- A notice that succeeds writes a line that may be left out. -/
theorem thins_send {notice : Notice} {bares : Prop} (hsucceeds : notice.succeeds = true)
    (hbare : notice = .status "" "" → bares) {loud quiet : Outlet} (h : loud.Thins bares quiet) :
    (notice.send loud).1 = .ok () ∧ (notice.send loud).2.Thins bares quiet := by
  obtain ⟨lines, lines', hthinned, rfl, rfl⟩ := h
  rw [succeeds, show Outlet.fresh = .holding [] from rfl, send_holding] at hsucceeds
  rw [send_holding]
  cases hline : notice.line with
  | error cause =>
    rw [hline] at hsucceeds
    exact absurd hsucceeds Bool.false_ne_true
  | ok line =>
    obtain ⟨hsendable, hinforms⟩ := informs_or_eq_bare hline
    have hone : Line.Thinned bares [line] [] :=
      .drop hsendable (hinforms.imp_right (.imp_left hbare)) .nil
    refine ⟨rfl, lines ++ [line], lines', ?_, rfl, rfl⟩
    rw [← List.append_nil lines']
    exact hthinned.append hone

end Notice

/-! ### Handlers -/

/-- The second side reads what the first one reads, and has written what that has, thinned. -/
structure Wire.Thins (bares : Prop) (loud quiet : Wire) : Prop where
  reader : quiet.reader = loud.reader
  outlet : loud.outlet.Thins bares quiet.outlet

/-- The notices can be written, and bare status lines are among them only if they may be. -/
def Notice.Omissible (bares : Prop) (drops : Notice → Bool) : Prop :=
  ∀ notice, drops notice = true → notice.succeeds = true ∧ (notice = .status "" "" → bares)

/-- The second run comes to what the first one comes to, but for notices. -/
structure Program.RunsAlike (bares : Prop) (drops : Notice → Bool)
    (loud quiet : Program.Run α × Wire) : Prop where
  run : quiet.1 = loud.1.without drops
  wire : loud.2.Thins bares quiet.2

namespace Program

variable {bares : Prop} {drops : Notice → Bool} {loud quiet : Wire}

theorem RunsAlike.of_writes {next : Except Failure Unit → Program α}
    {written written' : Except Failure Unit × Outlet} (h : loud.Thins bares quiet)
    (hwrites : Outlet.WritesAlike bares written written')
    (hnext : ∀ outcome {loud quiet : Wire}, loud.Thins bares quiet →
      RunsAlike bares drops ((next outcome).run loud) (((next outcome).without drops).run quiet)) :
    RunsAlike bares drops ((next written.1).run { loud with outlet := written.2 })
      (((next written'.1).without drops).run { quiet with outlet := written'.2 }) := by
  rw [hwrites.result]
  exact hnext _ ⟨h.reader, hwrites.thins⟩

/-- A handler that leaves out a notice does what it does after writing it. -/
theorem RunsAlike.of_dropped {notice : Notice} {next : Except Failure Unit → Program α}
    (hdrops : Notice.Omissible bares drops) (hdrop : drops notice = true)
    (h : loud.Thins bares quiet)
    (hnext : ∀ outcome {loud quiet : Wire}, loud.Thins bares quiet →
      RunsAlike bares drops ((next outcome).run loud) (((next outcome).without drops).run quiet)) :
    RunsAlike bares drops
      ((next (notice.send loud.outlet).1).run { loud with outlet := (notice.send loud.outlet).2 })
      (((next (.ok ())).without drops).run quiet) := by
  obtain ⟨hsucceeds, hbare⟩ := hdrops notice hdrop
  obtain ⟨hsent, hthins⟩ := Notice.thins_send hsucceeds hbare h.outlet
  rw [hsent]
  exact hnext _ ⟨h.reader, hthins⟩

/-- Without its notices a handler comes to the same. -/
theorem run_without (hdrops : Notice.Omissible bares drops) (program : Program α)
    (h : loud.Thins bares quiet) :
    RunsAlike bares drops (program.run loud) ((program.without drops).run quiet) := by
  induction program generalizing loud quiet with
  | done result => exact ⟨rfl, h⟩
  | data payload next ih => exact .of_writes h (h.outlet.sendData payload) ih
  | comment text next ih =>
    rw [without]
    by_cases hdrop : drops (.comment text) = true
    · rw [if_pos hdrop]
      exact .of_dropped hdrops hdrop h ih
    · rw [if_neg hdrop]
      exact .of_writes h (h.outlet.sendLine "#" _) ih
  | status keyword text next ih =>
    rw [without]
    by_cases hdrop : drops (.status keyword text) = true
    · rw [if_pos hdrop]
      exact .of_dropped hdrops hdrop h ih
    · rw [if_neg hdrop]
      exact .of_writes h (h.outlet.sendLine "S" _) ih
  | inquire keyword next ih =>
    obtain ⟨hresult, hthins⟩ := h.outlet.sendLine "INQUIRE" (Utf8.encode keyword)
    rw [without, run, run, h.reader]
    generalize quiet.outlet.sendLine "INQUIRE" (Utf8.encode keyword) = asked' at hresult hthins ⊢
    generalize loud.outlet.sendLine "INQUIRE" (Utf8.encode keyword) = asked at hresult hthins ⊢
    obtain ⟨result, outlet⟩ := asked
    obtain ⟨result', outlet'⟩ := asked'
    obtain rfl : result' = result := hresult
    cases result' with
    | error cause => exact ih _ ⟨rfl, hthins⟩
    | ok done =>
      cases gather [] loud.reader with
      | mk found reader =>
        cases found with
        | answered outcome => exact ih _ ⟨rfl, hthins⟩
        | waiting collected => exact ⟨rfl, rfl, hthins⟩

/-- So does one that goes on after an answer. -/
theorem resume_without (hdrops : Notice.Omissible bares drops) (collected : Bytes)
    (next : Except Rejection Bytes → Program α) (h : loud.Thins bares quiet) :
    RunsAlike bares drops (resume collected next loud)
      (resume collected (fun outcome ↦ (next outcome).without drops) quiet) := by
  rw [resume, resume, h.reader]
  cases gather collected loud.reader with
  | mk found reader =>
    cases found with
    | answered outcome => exact run_without hdrops _ ⟨rfl, h.outlet⟩
    | waiting collected => exact ⟨rfl, rfl, h.outlet⟩

end Program

/-! ### Conversations -/

/-- Where a conversation stands whose handlers leave notices out. -/
def Phase.without (drops : Notice → Bool) : Phase σ → Phase σ
  | .ready => .ready
  | .asking pending =>
    .asking { pending with next := fun outcome ↦ (pending.next outcome).without drops }
  | .ended result => .ended result

def Action.without (drops : Notice → Bool) : Action σ → Action σ
  | .perform command parameters => .perform (command.without drops) parameters
  | action => action

/-- The second conversation has done what the first one has, but for notices. -/
structure Conversation.Thins (bares : Prop) (drops : Notice → Bool)
    (loud quiet : Conversation σ) : Prop where
  wire : loud.wire.Thins bares quiet.wire
  state : quiet.state = loud.state
  phase : quiet.phase = loud.phase.without drops
  calls : quiet.calls = loud.calls

namespace Action

variable (drops : Notice → Bool) (blueprint : Blueprint σ)

theorem ofAssignment_without (parameters : String) :
    ofAssignment (blueprint.without drops) parameters =
      (ofAssignment blueprint parameters).without drops := by
  rw [ofAssignment, ofAssignment]
  cases Assignment.split parameters with
  | none => rfl
  | some assignment =>
    simp only [show (blueprint.without drops).setter = blueprint.setter from rfl]
    cases blueprint.setter <;> rfl

theorem ofTopic_without (parameters : String) :
    ofTopic (blueprint.without drops) parameters =
      (ofTopic blueprint parameters).without drops := by
  have hverbs : Conversation.verbs (blueprint.without drops) = Conversation.verbs blueprint :=
    congrArg (fun names : List String ↦ Conversation.builtins ++
      names.filter fun verb ↦ !Conversation.builtins.contains verb)
      (Registry.names_map (Command.without drops) blueprint.commands)
  rw [ofTopic, ofTopic, hverbs]
  cases Blank.trim parameters.toList with
  | nil => rfl
  | cons first topic =>
    simp only [show (blueprint.without drops).help = blueprint.help from rfl]
    cases blueprint.help.find? (upperCase (String.ofList (first :: topic))) <;> rfl

/-- A command amounts to the same without the notices. -/
theorem ofCommand_without (command : Line) :
    ofCommand (blueprint.without drops) command = (ofCommand blueprint command).without drops := by
  rw [ofCommand, ofCommand]
  cases command.text? with
  | none => rfl
  | some parameters =>
    simp only [ofText]
    have hfind : ∀ verb : String, (blueprint.without drops).commands.find? verb =
        (blueprint.commands.find? verb).map (Command.without drops) :=
      Registry.find?_map _ blueprint.commands
    split_ifs with hnop hbye hreset hoption hhelp
    · rfl
    · rfl
    · rw [hfind]
      cases blueprint.commands.find? "RESET" <;> rfl
    · exact ofAssignment_without drops blueprint parameters
    · exact ofTopic_without drops blueprint parameters
    · rw [hfind]
      cases blueprint.commands.find? command.verb <;> rfl

end Action

namespace Conversation

variable {bares : Prop} {drops : Notice → Bool} {loud quiet : Conversation σ}

theorem Thins.isOver (h : loud.Thins bares drops quiet) : quiet.isOver = loud.isOver := by
  rw [Conversation.isOver, Conversation.isOver, result?, result?, h.phase]
  cases loud.phase <;> rfl

theorem Thins.afterWrite (h : loud.Thins bares drops quiet)
    {written written' : Except Failure Unit × Outlet}
    (hwrites : Outlet.WritesAlike bares written written') :
    (loud.afterWrite written).Thins bares drops (quiet.afterWrite written') := by
  obtain ⟨result, outlet⟩ := written
  obtain ⟨result', outlet'⟩ := written'
  obtain ⟨hresult, hthins⟩ := hwrites
  obtain rfl : result' = result := hresult
  refine ⟨⟨h.wire.reader, hthins⟩, h.state, ?_, h.calls⟩
  cases result' <;> rfl

theorem Thins.close (h : loud.Thins bares drops quiet) (outcome : Outcome) :
    (loud.close outcome).Thins bares drops (quiet.close outcome) := by
  cases outcome with
  | ok done => exact h.afterWrite (h.wire.outlet.sendLine "OK" [])
  | error rejection =>
    cases rejection with
    | report fault => exact h.afterWrite (h.wire.outlet.sendFault fault)
    | fatal cause => exact ⟨h.wire, h.state, rfl, h.calls⟩

theorem Thins.settle (h : loud.Thins bares drops quiet) (verb parameters : String)
    {run run' : Program.Run (σ × Outcome) × Wire}
    (hruns : Program.RunsAlike bares drops run run') :
    (loud.settle verb parameters run).Thins bares drops (quiet.settle verb parameters run') := by
  obtain ⟨run, wire⟩ := run
  obtain ⟨run', wire'⟩ := run'
  obtain ⟨hrun, hwire⟩ := hruns
  obtain rfl : run' = run.without drops := hrun
  cases run with
  | finished result =>
    obtain ⟨final, outcome⟩ := result
    have hrun : Thins bares drops
        { loud with
          wire := wire
          state := final
          calls := loud.calls ++ [.command verb parameters final outcome] }
        { quiet with
          wire := wire'
          state := final
          calls := quiet.calls ++ [.command verb parameters final outcome] } :=
      ⟨hwire, rfl, h.phase, congrArg (· ++ _) h.calls⟩
    exact hrun.close outcome
  | suspended collected next => exact ⟨hwire, h.state, rfl, h.calls⟩

theorem Thins.inform (h : loud.Thins bares drops quiet) (lines : List String) :
    (loud.inform lines).Thins bares drops (quiet.inform lines) := by
  obtain ⟨hresult, hthins⟩ := h.wire.outlet.sendComments lines
  rw [inform_eq_close, inform_eq_close, hresult]
  have hrecited : Thins bares drops
      { loud with
        wire := { loud.wire with outlet := (loud.wire.outlet.sendComments lines).2 } }
      { quiet with
        wire := { quiet.wire with outlet := (quiet.wire.outlet.sendComments lines).2 } } :=
    ⟨⟨h.wire.reader, hthins⟩, h.state, h.phase, h.calls⟩
  exact hrecited.close _

theorem Thins.conduct (hdrops : Notice.Omissible bares drops)
    (h : loud.Thins bares drops quiet) (action : Action σ) :
    (loud.conduct action).Thins bares drops (quiet.conduct (action.without drops)) := by
  cases action with
  | refuse fault => exact h.close (.error (.report fault))
  | acknowledge => exact h.close (.ok ())
  | leave =>
    obtain ⟨-, hthins⟩ := h.wire.outlet.sendLine "OK" []
    exact ⟨⟨h.wire.reader, hthins⟩, h.state, rfl, h.calls⟩
  | restore blank =>
    have hrestored : Thins bares drops { loud with state := blank } { quiet with state := blank } :=
      ⟨h.wire, rfl, h.phase, h.calls⟩
    exact hrestored.close (.ok ())
  | assign key value setter =>
    simp only [Action.without, Conversation.conduct, h.state]
    generalize setter loud.state key value = set
    have hset : Thins bares drops
        { loud with
          state := set.1
          calls := loud.calls ++ [.option key value set.1 set.2] }
        { quiet with
          state := set.1
          calls := quiet.calls ++ [.option key value set.1 set.2] } :=
      ⟨h.wire, rfl, h.phase, congrArg (· ++ _) h.calls⟩
    exact hset.close set.2
  | inform lines => exact h.inform lines
  | perform command parameters =>
    refine h.settle command.verb parameters ?_
    rw [h.state]
    exact Program.run_without hdrops _ h.wire

theorem Thins.dispatch (hdrops : Notice.Omissible bares drops)
    (h : loud.Thins bares drops quiet) (blueprint : Blueprint σ) (command : Line) :
    (loud.dispatch blueprint command).Thins bares drops
      (quiet.dispatch (blueprint.without drops) command) := by
  rw [dispatch_eq_conduct, dispatch_eq_conduct, Action.ofCommand_without]
  exact h.conduct hdrops _

theorem Thins.withReader (h : loud.Thins bares drops quiet) (reader : LineReader) :
    (loud.withReader reader).Thins bares drops (quiet.withReader reader) :=
  ⟨⟨rfl, h.wire.outlet⟩, h.state, h.phase, h.calls⟩

theorem Thins.ready_iff (h : loud.Thins bares drops quiet) :
    quiet.phase = .ready ↔ loud.phase = .ready := by
  rw [h.phase]
  cases loud.phase <;> simp [Phase.without]

theorem Thins.takeCommands (hdrops : Notice.Omissible bares drops)
    (h : loud.Thins bares drops quiet) (blueprint : Blueprint σ) :
    (loud.takeCommands blueprint).Thins bares drops
      (quiet.takeCommands (blueprint.without drops)) := by
  fun_induction Conversation.takeCommands blueprint loud generalizing quiet with
  | case1 loud hready command reader hread ih =>
    have hread' := (congrArg LineReader.readLine h.wire.reader).trans hread
    rw [takeCommands_of_reads _ (h.ready_iff.2 hready) hread']
    exact ih ((h.withReader reader).dispatch hdrops blueprint command)
  | case2 loud hready cause reader hread =>
    have hread' := (congrArg LineReader.readLine h.wire.reader).trans hread
    rw [takeCommands_of_unread _ (h.ready_iff.2 hready) hread']
    exact ⟨⟨rfl, h.wire.outlet⟩, h.state, rfl, h.calls⟩
  | case3 loud hready reader hread =>
    have hread' := (congrArg LineReader.readLine h.wire.reader).trans hread
    rw [takeCommands_of_unfinished _ (h.ready_iff.2 hready) hread']
    exact h.withReader reader
  | case4 loud hready =>
    rw [takeCommands_of_not_ready _ (mt h.ready_iff.1 hready)]
    exact h

theorem Thins.answerPending (hdrops : Notice.Omissible bares drops)
    (h : loud.Thins bares drops quiet) :
    loud.answerPending.Thins bares drops quiet.answerPending := by
  rw [Conversation.answerPending, Conversation.answerPending, h.phase]
  cases loud.phase with
  | ready => exact h
  | ended result => exact h
  | asking pending =>
    exact h.settle pending.verb pending.parameters
      (Program.resume_without hdrops pending.collected pending.next h.wire)

/-- Without their notices the handlers make a conversation do the same. -/
theorem Thins.advance (hdrops : Notice.Omissible bares drops)
    (h : loud.Thins bares drops quiet) (blueprint : Blueprint σ) :
    (loud.advance blueprint).Thins bares drops (quiet.advance (blueprint.without drops)) :=
  (h.answerPending hdrops).takeCommands hdrops blueprint

theorem thins_greet (bares : Prop) (drops : Notice → Bool) (blueprint : Blueprint σ) :
    (greet blueprint (.ofHalves .quiet .fresh)).Thins bares drops
      (greet (blueprint.without drops) (.ofHalves .quiet .fresh)) := by
  have hopening : Thins bares drops
      ⟨.ofHalves .quiet .fresh, blueprint.start, .ready, []⟩
      ⟨.ofHalves .quiet .fresh, blueprint.start, .ready, []⟩ :=
    ⟨⟨rfl, [], [], .nil, rfl, rfl⟩, rfl, rfl, rfl⟩
  exact hopening.afterWrite (hopening.wire.outlet.sendLine "OK" _)

end Conversation

end LineProtocol
