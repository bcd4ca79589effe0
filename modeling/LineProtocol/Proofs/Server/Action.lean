import Mathlib.Tactic.SplitIfs
import LineProtocol.Server.Conversation

/-!
# What a command amounts to

Whether a command is one of the conversation's own or a registered one, taking it comes to the
same: a program is run, and the command is closed as the program ended. `Action.ofCommand` looks
up what a blueprint does on a command, and `Action.program` is the program of that.

`dispatch_of_finished` and `dispatch_of_suspended` say so for a program that ends and for one that
has to wait for the client. Only `BYE` is closed in another way (`dispatch_of_leave`).
-/

set_option autoImplicit false

namespace LineProtocol

/-- What a conversation does on a command. -/
inductive Action (σ : Type) where
  | refuse (fault : Fault)
  | acknowledge
  | leave
  /-- The state is put back to the given one. -/
  | restore (blank : σ)
  | assign (key value : String) (setter : OptionSetter σ)
  | inform (lines : List String)
  | perform (command : Command σ) (parameters : String)

namespace Action

variable {σ : Type}

/-- The program that writes comments up to the first that cannot be written. -/
def recital (state : σ) : List String → Program (σ × Outcome)
  | [] => .done (state, .ok ())
  | text :: later => .comment text fun
    | .ok () => recital state later
    | .error cause => .done (state, .error (.fatal cause))

/-- The program of an action. -/
def program (state : σ) : Action σ → Program (σ × Outcome)
  | .refuse fault => .done (state, .error (.report fault))
  | .acknowledge => .done (state, .ok ())
  | .leave => .done (state, .ok ())
  | .restore blank => .done (blank, .ok ())
  | .assign key value setter => .done (setter state key value)
  | .inform lines => recital state lines
  | .perform command parameters => command.handler state parameters

/-- The handler or option setter that has run once the action has ended. -/
def calls (final : σ) (outcome : Outcome) : Action σ → List (Call σ)
  | .assign key value _ => [.option key value final outcome]
  | .perform command parameters => [.command command.verb parameters final outcome]
  | .refuse _ | .acknowledge | .leave | .restore _ | .inform _ => []

/-- The action on `OPTION`. -/
def ofAssignment (blueprint : Blueprint σ) (parameters : String) : Action σ :=
  match Assignment.split parameters with
  | none => .refuse .invalidOption
  | some (key, value) =>
    match blueprint.setter with
    | none => .refuse .notImplemented
    | some setter => .assign key value setter

/-- The action on `HELP`. -/
def ofTopic (blueprint : Blueprint σ) (parameters : String) : Action σ :=
  match Blank.trim parameters.toList with
  | [] => .inform (Conversation.verbs blueprint)
  | topic =>
    match blueprint.help.find? (upperCase (String.ofList topic)) with
    | some lines => .inform lines
    | none => .refuse .notFound

/-- The action on a command whose parameters are text. -/
def ofText (blueprint : Blueprint σ) (verb parameters : String) : Action σ :=
  if verb = "NOP" then .acknowledge
  else if verb = "BYE" then .leave
  else if verb = "RESET" then
    match blueprint.commands.find? "RESET" with
    | some command => .perform command ""
    | none => .restore blueprint.blank
  else if verb = "OPTION" then ofAssignment blueprint parameters
  else if verb = "HELP" then ofTopic blueprint parameters
  else
    match blueprint.commands.find? verb with
    | some command => .perform command parameters
    | none => .refuse .unknownCommand

/-- The action on a command. -/
def ofCommand (blueprint : Blueprint σ) (command : Line) : Action σ :=
  match command.text? with
  | none => .refuse Conversation.malformedText
  | some parameters => ofText blueprint command.verb parameters

/-! ### Which action -/

theorem ofText_option (blueprint : Blueprint σ) (parameters : String) :
    ofText blueprint "OPTION" parameters = ofAssignment blueprint parameters := rfl

theorem ofText_help (blueprint : Blueprint σ) (parameters : String) :
    ofText blueprint "HELP" parameters = ofTopic blueprint parameters := rfl

/-- A registered verb that is not one of the conversation's own runs its command, and so does a
reset. -/
theorem ofText_of_found {blueprint : Blueprint σ} {verb : String} {command : Command σ}
    (parameters : String) (hverb : verb ∉ Conversation.builtins ∨ verb = "RESET")
    (hfind : blueprint.commands.find? verb = some command) :
    ofText blueprint verb parameters =
      .perform command (if verb = "RESET" then "" else parameters) := by
  rcases hverb with hcustom | rfl
  · simp only [Conversation.builtins, List.mem_cons, List.not_mem_nil, or_false, not_or] at hcustom
    obtain ⟨hnop, hoption, hbye, hreset, hhelp⟩ := hcustom
    simp only [ofText, hnop, hoption, hbye, hreset, hhelp, if_false, hfind]
  · rw [ofText, if_neg (by decide), if_neg (by decide), if_pos rfl, if_pos rfl, hfind]

theorem ofText_of_unknown {blueprint : Blueprint σ} {verb : String} (parameters : String)
    (hverb : verb ∉ Conversation.builtins) (hfind : blueprint.commands.find? verb = none) :
    ofText blueprint verb parameters = .refuse .unknownCommand := by
  simp only [Conversation.builtins, List.mem_cons, List.not_mem_nil, or_false, not_or] at hverb
  obtain ⟨hnop, hoption, hbye, hreset, hhelp⟩ := hverb
  simp only [ofText, hnop, hoption, hbye, hreset, hhelp, if_false, hfind]

/-- Whether the action runs nothing, changes nothing and does not end the conversation. -/
def IsIdle : Action σ → Prop
  | .refuse _ | .acknowledge | .inform _ => True
  | .leave | .restore _ | .assign _ _ _ | .perform _ _ => False

/-- A command on which nothing runs and which changes nothing. -/
def Ignores (blueprint : Blueprint σ) (command : Line) : Prop :=
  command.text? = none ∨ ∃ parameters, command.text? = some parameters ∧
    (command.verb ∈ ["NOP", "BYE", "HELP"] ∨
      (command.verb = "OPTION" ∧
        (Assignment.split parameters = none ∨ blueprint.setter = none)) ∨
      (command.verb ∉ Conversation.builtins ∧ blueprint.commands.find? command.verb = none))

/-- The actions that a command can have, and when it has them. -/
inductive Suits (blueprint : Blueprint σ) (command : Line) : Action σ → Prop
  | idle {action : Action σ} (hidle : action.IsIdle) (hignores : Ignores blueprint command)
      (hstays : ¬(command.verb = "BYE" ∧ command.text?.isSome = true)) :
    Suits blueprint command action
  | leave (parameters : String) (htext : command.text? = some parameters)
      (hverb : command.verb = "BYE") : Suits blueprint command .leave
  | restore (parameters : String) (htext : command.text? = some parameters)
      (hverb : command.verb = "RESET") (hfind : blueprint.commands.find? "RESET" = none) :
    Suits blueprint command (.restore blueprint.blank)
  | assign (parameters key value : String) (setter : OptionSetter σ)
      (htext : command.text? = some parameters) (hverb : command.verb = "OPTION")
      (hsplit : Assignment.split parameters = some (key, value))
      (hsetter : blueprint.setter = some setter) :
    Suits blueprint command (.assign key value setter)
  | perform (parameters given : String) (performed : Command σ)
      (htext : command.text? = some parameters)
      (hverb : command.verb ∉ ["NOP", "BYE", "HELP", "OPTION"])
      (hfind : blueprint.commands.find? command.verb = some performed)
      (hgiven : given = if command.verb = "RESET" then "" else parameters) :
    Suits blueprint command (.perform performed given)

theorem suits_ofAssignment {blueprint : Blueprint σ} {command : Line} {parameters : String}
    (htext : command.text? = some parameters) (hverb : command.verb = "OPTION") :
    Suits blueprint command (ofAssignment blueprint parameters) := by
  have hidle : ∀ fault : Fault, Assignment.split parameters = none ∨ blueprint.setter = none →
      Suits blueprint command (.refuse fault) := fun fault hnone ↦
    .idle trivial (.inr ⟨parameters, htext, .inr (.inl ⟨hverb, hnone⟩)⟩) (by simp [hverb])
  rw [ofAssignment]
  cases hsplit : Assignment.split parameters with
  | none => exact hidle _ (.inl hsplit)
  | some assignment =>
    cases hsetter : blueprint.setter with
    | none => exact hidle _ (.inr hsetter)
    | some setter => exact .assign parameters _ _ setter htext hverb hsplit hsetter

theorem isIdle_ofTopic (blueprint : Blueprint σ) (parameters : String) :
    (ofTopic blueprint parameters).IsIdle := by
  rw [ofTopic]
  split
  · trivial
  · split <;> trivial

theorem suits_ofCommand (blueprint : Blueprint σ) (command : Line) :
    Suits blueprint command (ofCommand blueprint command) := by
  rw [ofCommand]
  cases htext : command.text? with
  | none => exact .idle trivial (.inl htext) (by simp [htext])
  | some parameters =>
    have hidle : ∀ action : Action σ, action.IsIdle → command.verb ∈ ["NOP", "HELP"] →
        Suits blueprint command action := fun action haction hverb ↦
      .idle haction (.inr ⟨parameters, htext, .inl (by grind)⟩) (by grind)
    simp only [ofText]
    split_ifs with hnop hbye hreset hoption hhelp
    · exact hidle _ trivial (by simp [hnop])
    · exact .leave parameters htext hbye
    · cases hfind : blueprint.commands.find? "RESET" with
      | none => exact .restore parameters htext hreset hfind
      | some performed =>
        exact .perform parameters "" performed htext (by simp [hreset]) (by rw [hreset, hfind])
          (by rw [if_pos hreset])
    · exact suits_ofAssignment htext hoption
    · exact hidle _ (isIdle_ofTopic blueprint parameters) (by simp [hhelp])
    · cases hfind : blueprint.commands.find? command.verb with
      | none =>
        refine .idle trivial (.inr ⟨parameters, htext, .inr (.inr ⟨?_, hfind⟩)⟩)
          fun h ↦ hbye h.1
        simp [Conversation.builtins, hnop, hbye, hreset, hoption, hhelp]
      | some performed =>
        exact .perform parameters parameters performed htext
          (by simp [hnop, hbye, hhelp, hoption]) hfind (by rw [if_neg hreset])

/-- `BYE` is the only command that ends a conversation by itself. -/
theorem ofCommand_eq_leave_iff {blueprint : Blueprint σ} {command : Line} :
    ofCommand blueprint command = .leave ↔
      command.verb = "BYE" ∧ command.text?.isSome = true := by
  have hsuits := suits_ofCommand blueprint command
  generalize ofCommand blueprint command = action at hsuits
  cases hsuits with
  | idle hidle hignores hstays =>
    refine ⟨?_, fun h ↦ absurd h hstays⟩
    rintro rfl
    exact hidle.elim
  | leave parameters htext hverb => simp [htext, hverb]
  | restore parameters htext hverb => simp [hverb]
  | assign parameters key value setter htext hverb => simp [hverb]
  | perform parameters given performed htext hverb =>
    have hbye : command.verb ≠ "BYE" := fun h ↦ hverb (by simp [h])
    simp [hbye]

/-! ### Programs -/

theorem run_recital (state : σ) (lines : List String) (wire : Wire) :
    (recital state lines).run wire =
      (.finished (state, match (wire.outlet.sendComments lines).1 with
          | .ok () => .ok ()
          | .error cause => .error (.fatal cause)),
        { wire with outlet := (wire.outlet.sendComments lines).2 }) := by
  induction lines generalizing wire with
  | nil => rfl
  | cons text later ih =>
    rw [recital, Program.run, Outlet.sendComments]
    cases h : wire.outlet.sendComment text with
    | mk outcome outlet =>
      cases outcome with
      | error cause => rfl
      | ok done => exact ih _

/-- An idle action leaves the state and what there is to read. -/
theorem run_of_isIdle {action : Action σ} (h : action.IsIdle) (state : σ) (wire : Wire) :
    ∃ outcome outlet, (action.program state).run wire =
      (.finished (state, outcome), ⟨wire.reader, outlet⟩) := by
  cases action with
  | refuse fault => exact ⟨_, wire.outlet, rfl⟩
  | acknowledge => exact ⟨_, wire.outlet, rfl⟩
  | inform lines => exact ⟨_, _, run_recital state lines wire⟩
  | _ => exact h.elim

theorem calls_of_isIdle {action : Action σ} (h : action.IsIdle) (final : σ) (outcome : Outcome) :
    action.calls final outcome = [] := by
  cases action with
  | refuse fault => rfl
  | acknowledge => rfl
  | inform lines => rfl
  | _ => exact h.elim

/-- Only a command of the blueprint waits for the client. -/
theorem perform_of_suspended {action : Action σ} {state : σ} {wire later : Wire}
    {collected : Bytes} {next : Except Rejection Bytes → Program (σ × Outcome)}
    (h : (action.program state).run wire = (.suspended collected next, later)) :
    ∃ command parameters, action = .perform command parameters := by
  cases action with
  | perform command parameters => exact ⟨command, parameters, rfl⟩
  | inform lines =>
    rw [program, run_recital] at h
    exact nomatch congrArg Prod.fst h
  | _ => exact nomatch congrArg Prod.fst h

end Action

namespace Conversation

variable {σ : Type} {blueprint : Blueprint σ} {conversation : Conversation σ} {command : Line}

/-- Takes the command that an action stands for. -/
def conduct (conversation : Conversation σ) : Action σ → Conversation σ
  | .refuse fault => conversation.reject fault
  | .acknowledge => conversation.acknowledge
  | .leave => conversation.leave
  | .restore blank => { conversation with state := blank }.acknowledge
  | .assign key value setter =>
    { conversation with
      state := (setter conversation.state key value).1
      calls := conversation.calls ++
        [Call.option key value (setter conversation.state key value).1
          (setter conversation.state key value).2] }.close
      (setter conversation.state key value).2
  | .inform lines => conversation.inform lines
  | .perform command parameters => conversation.perform command parameters

theorem dispatch_eq_conduct (blueprint : Blueprint σ) (conversation : Conversation σ)
    (command : Line) :
    conversation.dispatch blueprint command =
      conversation.conduct (Action.ofCommand blueprint command) := by
  rw [dispatch, Action.ofCommand]
  cases command.text? with
  | none => rfl
  | some parameters =>
    simp only [Action.ofText]
    by_cases hnop : command.verb = "NOP"
    · simp only [if_pos hnop, conduct]
    by_cases hbye : command.verb = "BYE"
    · simp only [if_neg hnop, if_pos hbye, conduct]
    by_cases hreset : command.verb = "RESET"
    · simp only [if_neg hnop, if_neg hbye, if_pos hreset, reset]
      cases blueprint.commands.find? "RESET" <;> rfl
    by_cases hoption : command.verb = "OPTION"
    · simp only [if_neg hnop, if_neg hbye, if_neg hreset, if_pos hoption, assign,
        Action.ofAssignment]
      cases Assignment.split parameters with
      | none => rfl
      | some assignment => cases blueprint.setter <;> rfl
    simp only [if_neg hnop, if_neg hbye, if_neg hreset, if_neg hoption]
    by_cases hhelp : command.verb = "HELP"
    · simp only [if_pos hhelp, assist, Action.ofTopic]
      cases Blank.trim parameters.toList with
      | nil => rfl
      | cons first topic =>
        simp only
        cases blueprint.help.find? (upperCase (String.ofList (first :: topic))) <;> rfl
    · simp only [if_neg hhelp]
      cases blueprint.commands.find? command.verb <;> rfl

theorem dispatch_of_leave (h : Action.ofCommand blueprint command = .leave) :
    conversation.dispatch blueprint command = conversation.leave := by
  rw [dispatch_eq_conduct, h, conduct]

theorem inform_eq_close (lines : List String) :
    conversation.inform lines =
      { conversation with
        wire := { conversation.wire with
          outlet := (conversation.wire.outlet.sendComments lines).2 } }.close
        (match (conversation.wire.outlet.sendComments lines).1 with
          | .ok () => .ok ()
          | .error cause => .error (.fatal cause)) := by
  rw [inform]
  cases h : conversation.wire.outlet.sendComments lines with
  | mk outcome outlet => cases outcome <;> rfl

/-- A command is closed as its program ended. -/
theorem dispatch_of_finished (conversation : Conversation σ) {final : σ} {outcome : Outcome}
    {wire : Wire}
    (hleave : Action.ofCommand blueprint command ≠ .leave)
    (hrun : ((Action.ofCommand blueprint command).program conversation.state).run
      conversation.wire = (.finished (final, outcome), wire)) :
    conversation.dispatch blueprint command =
      { conversation with
        wire := wire
        state := final
        calls := conversation.calls ++
          (Action.ofCommand blueprint command).calls final outcome }.close outcome := by
  rw [dispatch_eq_conduct]
  cases haction : Action.ofCommand blueprint command with
  | leave => exact absurd haction hleave
  | perform performed parameters =>
    rw [haction, Action.program] at hrun
    rw [conduct, perform, hrun]
    rfl
  | inform lines =>
    rw [haction, Action.program, Action.run_recital] at hrun
    cases hrun
    rw [conduct, inform_eq_close, Action.calls, List.append_nil]
  | assign key value setter =>
    rw [haction] at hrun
    obtain ⟨hset, rfl⟩ := Prod.mk.inj hrun
    obtain ⟨rfl, rfl⟩ := Prod.mk.inj (Program.Run.finished.inj hset)
    rfl
  | _ =>
    rw [haction] at hrun
    cases hrun
    rw [Action.calls, List.append_nil]
    rfl

/-- A command whose program has to wait leaves the conversation asking. -/
theorem dispatch_of_suspended (conversation : Conversation σ) {collected : Bytes}
    {next : Except Rejection Bytes → Program (σ × Outcome)} {wire : Wire}
    (hrun : ((Action.ofCommand blueprint command).program conversation.state).run
      conversation.wire = (.suspended collected next, wire)) :
    ∃ verb parameters, conversation.dispatch blueprint command =
      { conversation with
        wire := wire, phase := .asking ⟨verb, parameters, collected, next⟩ } := by
  rw [dispatch_eq_conduct]
  obtain ⟨performed, parameters, haction⟩ := Action.perform_of_suspended hrun
  rw [haction, Action.program] at hrun
  refine ⟨performed.verb, parameters, ?_⟩
  rw [haction, conduct, perform, hrun]
  rfl

end Conversation

end LineProtocol
