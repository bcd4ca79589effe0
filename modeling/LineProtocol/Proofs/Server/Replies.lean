import LineProtocol.Proofs.Server.Action
import LineProtocol.Proofs.Server.Stage

/-!
# What a conversation replies

A conversation in front of one command line runs the program of the command and closes the command
as its program ended, unless the program has to wait. `Replies` is what can come of that: the
command is closed with an `OK` or an `ERR` line, or the conversation has ended in its place, or it
asks for data. What it has sent by then is the stage of the program, and `Outcome.closing` is the
line that closes the command. The same holds once an inquiry has been answered
(`advance_of_end`, `advance_of_cancel`).

The reply to `OPTION`, and to a `RESET` that has no handler, is the closing line alone.
-/

set_option autoImplicit false

namespace LineProtocol

/-- The line that closes a command, or why there is none. -/
def Outcome.closing : Outcome → Except Failure Line
  | .ok () => Line.compose "OK" []
  | .error (.report fault) => fault.composed
  | .error (.fatal cause) => .error cause

theorem Outcome.isClosing_of_closing {outcome : Outcome} {line : Line}
    (h : outcome.closing = .ok line) :
    line.IsClosing := by
  cases outcome with
  | ok done => exact Line.isClosing_of_compose_ok h
  | error rejection =>
    cases rejection with
    | report fault => exact Line.isClosing_of_composed h
    | fatal cause => exact nomatch h

namespace Conversation

variable {σ : Type} (before : List Line) (state : σ) (phase : Phase σ) (calls : List (Call σ))

/-- A conversation that has closed a command with a line, or has ended because it could not. -/
def closed : Except Failure Line → Conversation σ
  | .ok line => ⟨.ofLines [] (before ++ [line]), state, .ready, calls⟩
  | .error cause => ⟨.ofLines [] before, state, .ended (.error cause), calls⟩

/-- A conversation whose handler has come to a stage. -/
def staged (verb parameters : String)
    (stage : List Line × Program.Stage (σ × Outcome)) : Conversation σ :=
  match stage.2 with
  | .finished (final, outcome) =>
    closed (before ++ stage.1) final (calls ++ [.command verb parameters final outcome])
      outcome.closing
  | .asking next =>
    ⟨.ofLines [] (before ++ stage.1), state, .asking ⟨verb, parameters, [], next⟩, calls⟩

/-! ### Single steps -/

theorem afterWrite_added (composed : Except Failure Line) :
    (Conversation.mk (.ofLines [] before) state phase calls).afterWrite
      (Outlet.added before composed) = closed before state calls composed := by
  cases composed <;> rfl

theorem acknowledge_ofLines :
    (Conversation.mk (.ofLines [] before) state phase calls).acknowledge =
      closed before state calls (Line.compose "OK" []) := by
  rw [acknowledge, ← afterWrite_added before state phase calls, ← Outlet.sendLine_holding]
  rfl

theorem reject_ofLines (fault : Fault) :
    (Conversation.mk (.ofLines [] before) state phase calls).reject fault =
      closed before state calls fault.composed := by
  rw [reject, ← afterWrite_added before state phase calls, ← Outlet.sendFault_holding]
  rfl

theorem close_ofLines (outcome : Outcome) :
    (Conversation.mk (.ofLines [] before) state phase calls).close outcome =
      closed before state calls outcome.closing := by
  cases outcome with
  | ok done => exact acknowledge_ofLines before state phase calls
  | error rejection =>
    cases rejection with
    | report fault => exact reject_ofLines before state phase calls fault
    | fatal cause => rfl

theorem settle_ofLines (wire : Wire) (verb parameters : String)
    (program : Program (σ × Outcome)) :
    (Conversation.mk wire state phase calls).settle verb parameters
      (program.run (.ofLines [] before)) =
      staged before state calls verb parameters program.stage := by
  rw [Program.run_ofLines, staged]
  cases program.stage.2 with
  | finished result =>
    exact close_ofLines (before ++ program.stage.1) result.1 phase _ result.2
  | asking next => rfl

/-- A command does what the first stage of its handler does. -/
theorem perform_ofLines (command : Command σ) (parameters : String) :
    (Conversation.mk (.ofLines [] before) state phase calls).perform command parameters =
      staged before state calls command.verb parameters
        (command.handler state parameters).stage :=
  settle_ofLines before state phase calls _ command.verb parameters _

/-! ### Going on -/

theorem isOver_of_ended {conversation : Conversation σ} {result : Except Failure Unit}
    (h : conversation.phase = .ended result) : conversation.isOver = true := by
  rw [isOver, result?, h]
  rfl

theorem isOver_of_ready {conversation : Conversation σ} (h : conversation.phase = .ready) :
    conversation.isOver = false := by
  rw [isOver, result?, h]
  rfl

theorem isOver_of_asking {conversation : Conversation σ} {pending : Pending σ}
    (h : conversation.phase = .asking pending) : conversation.isOver = false := by
  rw [isOver, result?, h]
  rfl

variable (blueprint : Blueprint σ)

/-- A conversation with nothing to read takes no further command. -/
theorem takeCommands_of_waits {conversation : Conversation σ}
    (h : conversation.isOver = true ∨ conversation.wire.reader = .facing false []) :
    conversation.takeCommands blueprint = conversation := by
  obtain ⟨⟨reader, outlet⟩, state, phase, calls⟩ := conversation
  cases phase with
  | ready =>
    rcases h with h | h
    · exact absurd h Bool.false_ne_true
    · simp only at h
      subst h
      rw [takeCommands]
      simp only
      rw [LineReader.readLine_facing_nil]
  | asking pending => rw [takeCommands]
  | ended result => rw [takeCommands]

theorem takeCommands_of_informs {line : Line} (hline : line.Sendable)
    (hinforms : line.onlyInforms = true) :
    (Conversation.mk (.ofLines [line] before) state .ready calls).takeCommands blueprint =
      ⟨.ofLines [] before, state, .ready, calls⟩ := by
  rw [takeCommands]
  simp only [Wire.ofLines]
  rw [LineReader.readLine_facing_of_informs false [] hline hinforms,
    LineReader.readLine_facing_nil]

theorem takeCommands_of_tells {line : Line} (hline : line.Sendable)
    (htells : line.onlyInforms = false) :
    (Conversation.mk (.ofLines [line] before) state .ready calls).takeCommands blueprint =
      ((Conversation.mk (.ofLines [] before) state .ready calls).dispatch blueprint
        line).takeCommands blueprint := by
  rw [takeCommands]
  simp only [Wire.ofLines]
  rw [LineReader.readLine_facing_of_tells false [] hline htells]

theorem staged_waits (verb parameters : String)
    (stage : List Line × Program.Stage (σ × Outcome)) :
    (staged before state calls verb parameters stage).isOver = true ∨
      (staged before state calls verb parameters stage).wire.reader = .facing false [] := by
  unfold staged
  split
  case h_1 final outcome _ =>
    cases outcome.closing with
    | ok line => exact .inr rfl
    | error cause => exact .inl rfl
  case h_2 => exact .inr rfl

variable {data : List Line} {line : Line} (pending : Pending σ)

/-- The part of an answer that has come is kept. -/
theorem advance_of_data (h : ∀ line ∈ data, line.IsData) :
    (Conversation.mk (.ofLines data before) state (.asking pending) calls).advance blueprint =
      ⟨.ofLines [] before, state,
        .asking { pending with
          collected := pending.collected ++ data.flatMap Line.parameters }, calls⟩ := by
  rw [advance, answerPending]
  simp only [Program.resume_of_data pending.collected before h, settle]
  exact takeCommands_of_waits blueprint (.inr rfl)

/-- A whole answer brings the handler to its next stage. -/
theorem advance_of_end (h : ∀ line ∈ data, line.IsData) (hline : line.Sendable)
    (hverb : line.verb = "END") :
    (Conversation.mk (.ofLines (data ++ [line]) before) state (.asking pending) calls).advance
      blueprint =
      staged before state calls pending.verb pending.parameters
        (pending.next (.ok (pending.collected ++ data.flatMap Line.parameters))).stage := by
  rw [advance, answerPending]
  simp only [Program.resume_of_end pending.collected before h hline hverb]
  rw [settle_ofLines]
  exact takeCommands_of_waits blueprint (staged_waits before state calls _ _ _)

/-- So does a refused one. -/
theorem advance_of_cancel (h : ∀ line ∈ data, line.IsData) (hline : line.Sendable)
    (hverb : line.verb = "CAN") :
    (Conversation.mk (.ofLines (data ++ [line]) before) state (.asking pending) calls).advance
      blueprint =
      staged before state calls pending.verb pending.parameters
        (pending.next (.error (.report Program.canceled))).stage := by
  rw [advance, answerPending]
  simp only [Program.resume_of_cancel pending.collected before h hline hverb]
  rw [settle_ofLines]
  exact takeCommands_of_waits blueprint (staged_waits before state calls _ _ _)

/-- Without anything to read a conversation stays as it is. -/
theorem advance_nil :
    (Conversation.mk (.ofLines [] before) state phase calls).advance blueprint =
      ⟨.ofLines [] before, state, phase, calls⟩ := by
  cases phase with
  | asking pending =>
    have hdata : ∀ line ∈ ([] : List Line), line.IsData := List.forall_mem_nil _
    rw [advance_of_data before state calls blueprint pending hdata, List.flatMap_nil,
      List.append_nil]
  | _ => exact takeCommands_of_waits blueprint (.inr rfl)

/-- A conversation that is over stays as it is, whatever it is given to read. -/
theorem advance_of_isOver {conversation : Conversation σ} (h : conversation.isOver = true) :
    conversation.advance blueprint = conversation := by
  have hpending : conversation.answerPending = conversation := by
    obtain ⟨wire, state, phase, calls⟩ := conversation
    cases phase with
    | ended result => rfl
    | _ => exact absurd h Bool.false_ne_true
  rw [advance, hpending, takeCommands_of_waits blueprint (.inl h)]

/-! ### Replies -/

/-- What becomes of a conversation that runs a program: the command is closed, and the conversation
is ready again or was left, or there is no closing line and the conversation has failed, or it asks
for data. -/
inductive Replies (program : Program (σ × Outcome)) (after : Conversation σ) : Prop
  | closes (final : σ) (outcome : Outcome) (closing : Line)
      (hstage : program.stage.2 = .finished (final, outcome))
      (hclosing : outcome.closing = .ok closing) (hstate : after.state = final)
      (hphase : after.phase = .ready ∨ after.phase = .ended (.ok ()))
      (hwire : after.wire = .ofLines [] (before ++ (program.stage.1 ++ [closing])))
  | fails (final : σ) (outcome : Outcome) (cause : Failure)
      (hstage : program.stage.2 = .finished (final, outcome))
      (hclosing : outcome.closing = .error cause) (hphase : after.phase = .ended (.error cause))
      (hwire : after.wire = .ofLines [] (before ++ program.stage.1))
  | asks (pending : Pending σ) (hstage : program.stage.2 = .asking pending.next)
      (hcollected : pending.collected = []) (hphase : after.phase = .asking pending)
      (hwire : after.wire = .ofLines [] (before ++ program.stage.1))

variable {before} in
theorem Replies.waits {program : Program (σ × Outcome)} {after : Conversation σ}
    (h : Replies before program after) :
    after.isOver = true ∨ after.wire.reader = .facing false [] := by
  cases h with
  | closes final outcome closing hstage hclosing hstate hphase hwire =>
    exact .inr (by rw [hwire]; rfl)
  | fails final outcome cause hstage hclosing hphase hwire => exact .inr (by rw [hwire]; rfl)
  | asks pending hstage hcollected hphase hwire => exact .inr (by rw [hwire]; rfl)

theorem replies_closed {program : Program (σ × Outcome)} {final : σ} {outcome : Outcome}
    (hstage : program.stage.2 = .finished (final, outcome)) :
    Replies before program
      (closed (before ++ program.stage.1) final calls outcome.closing) := by
  cases hclosing : outcome.closing with
  | error cause => exact .fails final outcome cause hstage hclosing rfl rfl
  | ok line =>
    refine .closes final outcome line hstage hclosing rfl (.inl rfl) ?_
    rw [closed, List.append_assoc]

theorem replies_staged (verb parameters : String) (program : Program (σ × Outcome)) :
    Replies before program (staged before state calls verb parameters program.stage) := by
  unfold staged
  cases hstage : program.stage.2 with
  | finished result => exact replies_closed before _ hstage
  | asking next => exact .asks ⟨verb, parameters, [], next⟩ hstage rfl rfl rfl

/-- Every command is replied to by its program. -/
theorem dispatch_replies (command : Line) :
    Replies before ((Action.ofCommand blueprint command).program state)
      ((Conversation.mk (.ofLines [] before) state phase calls).dispatch blueprint command) := by
  by_cases hleave : Action.ofCommand blueprint command = .leave
  case pos =>
    have hsent := Outlet.sendLine_holding before "OK" []
    rw [dispatch_of_leave hleave, hleave]
    refine .closes state (.ok ()) ⟨"OK", []⟩ rfl rfl rfl (.inr rfl) ?_
    simp only [leave, Wire.ofLines]
    rw [hsent]
    rfl
  case neg =>
    have hrun := ((Action.ofCommand blueprint command).program state).run_ofLines before
    generalize haction : Action.ofCommand blueprint command = action at hleave hrun ⊢
    cases hstage : (action.program state).stage.2 with
    | finished result =>
      obtain ⟨final, outcome⟩ := result
      rw [hstage] at hrun
      rw [← haction] at hleave hrun
      rw [dispatch_of_finished ⟨.ofLines [] before, state, phase, calls⟩ hleave hrun,
        close_ofLines, haction]
      exact replies_closed before _ hstage
    | asking next =>
      rw [hstage] at hrun
      rw [← haction] at hrun
      obtain ⟨verb, parameters, hasking⟩ := dispatch_of_suspended
        ⟨.ofLines [] before, state, phase, calls⟩ hrun
      rw [hasking, haction]
      exact .asks ⟨verb, parameters, [], next⟩ hstage rfl rfl rfl

/-- A conversation in front of a command that is not passed over takes it, and nothing more. -/
theorem advance_eq_dispatch {command : Line} (hcommand : command.Sendable)
    (htells : command.onlyInforms = false) {after : Conversation σ}
    (hdispatch : (Conversation.mk (.ofLines [] before) state .ready calls).dispatch blueprint
      command = after)
    (hwaits : after.isOver = true ∨ after.wire.reader = .facing false []) :
    (Conversation.mk (.ofLines [command] before) state .ready calls).advance blueprint =
      after := by
  have hadvance : (Conversation.mk (.ofLines [command] before) state .ready calls).advance
      blueprint = (Conversation.mk (.ofLines [command] before) state .ready calls).takeCommands
        blueprint := rfl
  rw [hadvance, takeCommands_of_tells before state calls blueprint hcommand htells, hdispatch,
    takeCommands_of_waits blueprint hwaits]

/-- It replies to the command. -/
theorem advance_of_command {command : Line} (hcommand : command.Sendable)
    (htells : command.onlyInforms = false) :
    Replies before ((Action.ofCommand blueprint command).program state)
      ((Conversation.mk (.ofLines [command] before) state .ready calls).advance blueprint) := by
  have hreplies := dispatch_replies before state .ready calls blueprint command
  rwa [advance_eq_dispatch before state calls blueprint hcommand htells rfl hreplies.waits]

end Conversation

/-! ### Promises of a blueprint -/

/-- Every handler of the blueprint asks for nothing more once it has been refused an answer. -/
def Blueprint.Resigns {σ : Type} (blueprint : Blueprint σ) : Prop :=
  ∀ verb command, blueprint.commands.find? verb = some command →
    ∀ state parameters, (command.handler state parameters).Resigns

theorem Action.resigns_program {σ : Type} {blueprint : Blueprint σ} (h : blueprint.Resigns)
    (command : Line) (state : σ) : ((ofCommand blueprint command).program state).Resigns := by
  have hsuits := suits_ofCommand blueprint command
  generalize ofCommand blueprint command = action at hsuits
  cases hsuits with
  | idle hidle =>
    obtain ⟨outcome, outlet, hrun⟩ := run_of_isIdle hidle state (.ofLines [] [])
    rw [Program.run_ofLines] at hrun
    cases hstage : (action.program state).stage.2 with
    | finished result => exact .finishes result hstage
    | asking next =>
      rw [hstage] at hrun
      exact nomatch congrArg Prod.fst hrun
  | perform parameters given performed htext hverb hfind =>
    exact h command.verb performed hfind state given
  | _ => exact .finishes _ rfl

/-- A command whose reply is its closing line alone: `OPTION`, and a `RESET` without a handler. -/
def Blueprint.Terse {σ : Type} (blueprint : Blueprint σ) (command : Line) : Prop :=
  command.verb = "OPTION" ∨ command.verb = "RESET" ∧ blueprint.commands.find? "RESET" = none

theorem Action.stage_of_terse {σ : Type} {blueprint : Blueprint σ} {command : Line}
    (h : blueprint.Terse command) (state : σ) :
    ∃ result, ((Action.ofCommand blueprint command).program state).stage =
      ([], .finished result) := by
  have hother : command.verb ≠ "NOP" ∧ command.verb ≠ "BYE" ∧
      (command.verb = "RESET" → blueprint.commands.find? "RESET" = none) := by
    rcases h with h | ⟨h, hfind⟩
    · simp [h]
    · simp [h, hfind]
  obtain ⟨hnop, hbye, hreset⟩ := hother
  rw [ofCommand]
  cases command.text? with
  | none => exact ⟨_, rfl⟩
  | some parameters =>
    simp only [ofText, if_neg hnop, if_neg hbye]
    by_cases hverb : command.verb = "RESET"
    · rw [if_pos hverb, hreset hverb]
      exact ⟨_, rfl⟩
    · have hoption : command.verb = "OPTION" := h.resolve_right fun h ↦ hverb h.1
      rw [if_neg hverb, if_pos hoption, ofAssignment]
      split
      · exact ⟨_, rfl⟩
      · split <;> exact ⟨_, rfl⟩

end LineProtocol
