import LineProtocol.Proofs.Line.Refusal
import LineProtocol.Proofs.Reading.Supply
import LineProtocol.Proofs.Server.Truncation

/-!
# Threads

A connection's thread goes through its conversation step by step: it greets, it reads a command, it
makes one call of a handler after the other, it reads the answer to an inquiry, it closes the
command. Between any two of its steps other threads may do theirs, and more may arrive on its own
stream. `Thread.proceed` is one step, and `Thread.completed` is the conversation that the thread
comes to.

Whatever has arrived so far, a step leaves the thread with the conversation that it would have come
to with all of its stream in front of it (`completed_proceed`). With all of it the thread does come
to that conversation, after some number of steps (`exists_proceed_completed`), and it never takes
back what it has written (`octets_proceed`).
-/

set_option autoImplicit false

namespace LineProtocol

variable {σ : Type}

/-- Where the thread of a connection stands. -/
inductive Thread (σ : Type) where
  /-- It has done nothing yet. -/
  | spawned (wire : Wire)
  /-- It is in front of a command or an answer, or it is over. -/
  | paused (conversation : Conversation σ)
  /-- It is inside a handler. -/
  | handling (conversation : Conversation σ) (verb parameters : String)
    (program : Program (σ × Outcome))

namespace Thread

/-- The thread once it has read a command. -/
def take (blueprint : Blueprint σ) (conversation : Conversation σ) (command : Line) : Thread σ :=
  match Action.ofCommand blueprint command with
  | .perform performed parameters =>
    .handling conversation performed.verb parameters
      (performed.handler conversation.state parameters)
  | action => .paused (conversation.conduct action)

/-- The thread after one call of its handler. -/
def call (conversation : Conversation σ) (verb parameters : String) :
    Program (σ × Outcome) → Thread σ
  | .done result =>
    .paused (conversation.settle verb parameters (.finished result, conversation.wire))
  | .data payload next =>
    let sent := conversation.wire.outlet.sendData payload
    .handling (conversation.withOutlet sent.2) verb parameters (next sent.1)
  | .comment text next =>
    let sent := conversation.wire.outlet.sendComment text
    .handling (conversation.withOutlet sent.2) verb parameters (next sent.1)
  | .status keyword text next =>
    let sent := conversation.wire.outlet.sendStatus keyword text
    .handling (conversation.withOutlet sent.2) verb parameters (next sent.1)
  | .inquire keyword next =>
    match conversation.wire.outlet.sendLine "INQUIRE" (Utf8.encode keyword) with
    | (.error cause, outlet) =>
      .handling (conversation.withOutlet outlet) verb parameters (next (.error (.ofFailure cause)))
    | (.ok (), outlet) =>
      .paused { conversation.withOutlet outlet with phase := .asking ⟨verb, parameters, [], next⟩ }

/-- The thread after a reading of the next command. -/
def read (blueprint : Blueprint σ) (conversation : Conversation σ) :
    Reading Line × LineReader → Thread σ
  | (.value command, reader) => take blueprint (conversation.withReader reader) command
  | (.error cause, reader) =>
    .paused { conversation.withReader reader with phase := .ended (.error cause) }
  | (.waiting, reader) => .paused (conversation.withReader reader)

/-- The thread after a reading of the answer to an inquiry. -/
def hear (conversation : Conversation σ) (pending : Pending σ) :
    Program.Inquiry × LineReader → Thread σ
  | (.answered outcome, reader) =>
    .handling (conversation.withReader reader) pending.verb pending.parameters
      (pending.next outcome)
  | (.waiting collected, reader) =>
    .paused { conversation.withReader reader with
      phase := .asking { pending with collected := collected } }

/-- One step of the thread. A thread that has nothing to read stays where it is, with what it has
read. -/
def proceed (blueprint : Blueprint σ) : Thread σ → Thread σ
  | .spawned wire => .paused (.greet blueprint wire)
  | .paused conversation =>
    match conversation.phase with
    | .ready => read blueprint conversation conversation.wire.reader.readLine
    | .asking pending =>
      hear conversation pending (Program.gather pending.collected conversation.wire.reader)
    | .ended _ => .paused conversation
  | .handling conversation verb parameters program => call conversation verb parameters program

/-- The conversation that the thread comes to if nothing more arrives. -/
def completed (blueprint : Blueprint σ) : Thread σ → Conversation σ
  | .spawned wire => .serve blueprint wire
  | .paused conversation => conversation.advance blueprint
  | .handling conversation verb parameters program =>
    (conversation.settle verb parameters (program.run conversation.wire)).takeCommands blueprint

/-- How the thread ended, if it has. -/
def result? : Thread σ → Option (Except Failure Unit)
  | .paused conversation => conversation.result?
  | _ => none

/-- The thread's side of the connection. -/
def wire : Thread σ → Wire
  | .spawned wire => wire
  | .paused conversation | .handling conversation _ _ _ => conversation.wire

/-- The thread with something done to its reader. -/
def onReader (change : LineReader → LineReader) : Thread σ → Thread σ
  | .spawned wire => .spawned { wire with reader := change wire.reader }
  | .paused conversation => .paused (conversation.withReader (change conversation.wire.reader))
  | .handling conversation verb parameters program =>
    .handling (conversation.withReader (change conversation.wire.reader)) verb parameters program

end Thread

namespace Conversation

variable {conversation : Conversation σ} {verb parameters : String} {reader : LineReader}

/-! ### What the reader does not touch -/

theorem close_withReader (conversation : Conversation σ) (outcome : Outcome) :
    (conversation.withReader reader).close outcome =
      (conversation.close outcome).withReader reader := by
  cases outcome with
  | ok done => rfl
  | error rejection => cases rejection <;> rfl

/-- Only a handler reads. -/
theorem conduct_withReader {action : Action σ}
    (h : ∀ command parameters, action ≠ .perform command parameters) :
    (conversation.withReader reader).conduct action =
      (conversation.conduct action).withReader reader := by
  cases action with
  | perform command parameters => exact absurd rfl (h command parameters)
  | assign key value setter =>
    exact close_withReader { conversation with
      state := (setter conversation.state key value).1
      calls := conversation.calls ++ [Call.option key value _ _] } _
  | inform lines =>
    rw [conduct, conduct, inform_eq_close, inform_eq_close]
    exact close_withReader (conversation.withOutlet
      (conversation.wire.outlet.sendComments lines).2) _
  | _ => rfl

/-- What a command comes to does not depend on where the conversation stood before it. -/
theorem settle_eq {other : Conversation σ} (hstate : conversation.state = other.state)
    (hcalls : conversation.calls = other.calls) (run : Program.Run (σ × Outcome) × Wire) :
    conversation.settle verb parameters run = other.settle verb parameters run := by
  obtain ⟨before, state, phase, calls⟩ := conversation
  obtain ⟨before', state', phase', calls'⟩ := other
  obtain rfl : state = state' := hstate
  obtain rfl : calls = calls' := hcalls
  obtain ⟨run, wire⟩ := run
  cases run with
  | suspended collected next => rfl
  | finished result =>
    obtain ⟨final, outcome⟩ := result
    cases outcome with
    | ok done => rfl
    | error rejection => cases rejection <;> rfl

theorem settle_withReader (run : Program.Run (σ × Outcome) × Wire) :
    (conversation.withReader reader).settle verb parameters run =
      conversation.settle verb parameters run :=
  settle_eq rfl rfl run

theorem settle_withOutlet (outlet : Outlet) (run : Program.Run (σ × Outcome) × Wire) :
    (conversation.withOutlet outlet).settle verb parameters run =
      conversation.settle verb parameters run :=
  settle_eq rfl rfl run

theorem settle_finished_withReader (result : σ × Outcome) (wire : Wire) :
    (conversation.settle verb parameters (.finished result, wire)).withReader reader =
      conversation.settle verb parameters (.finished result, { wire with reader := reader }) :=
  (close_withReader _ _).symm

/-! ### What is written stays written -/

theorem octets_close (conversation : Conversation σ) (outcome : Outcome) :
    conversation.wire.outlet.octets <+: (conversation.close outcome).wire.outlet.octets := by
  cases outcome with
  | ok done => exact Outlet.octets_sendEncoded _ _
  | error rejection =>
    cases rejection with
    | report fault => exact Outlet.octets_sendEncoded _ _
    | fatal cause => exact List.prefix_rfl

theorem octets_conduct {action : Action σ}
    (h : ∀ command parameters, action ≠ .perform command parameters) :
    conversation.wire.outlet.octets <+: (conversation.conduct action).wire.outlet.octets := by
  cases action with
  | perform command parameters => exact absurd rfl (h command parameters)
  | assign key value setter =>
    exact octets_close { conversation with
      state := (setter conversation.state key value).1
      calls := conversation.calls ++ [Call.option key value _ _] } _
  | inform lines =>
    rw [conduct, inform_eq_close]
    exact (Outlet.octets_sendComments _ lines).trans
      (octets_close (conversation.withOutlet _) _)
  | _ => exact Outlet.octets_sendEncoded _ _

/-! ### Phases -/

/-- Whether the conversation waits for an answer. -/
def IsAsking (conversation : Conversation σ) : Prop :=
  ∃ pending, conversation.phase = .asking pending

theorem answerPending_of_not_asking (h : ¬conversation.IsAsking) :
    conversation.answerPending = conversation := by
  rw [answerPending]
  split
  case h_1 pending hphase => exact absurd ⟨pending, hphase⟩ h
  case h_2 => rfl

theorem not_isAsking_afterWrite (written : Except Failure Unit × Outlet) :
    ¬(conversation.afterWrite written).IsAsking := by
  rintro ⟨pending, hphase⟩
  obtain ⟨result, outlet⟩ := written
  cases result <;> cases hphase

theorem not_isAsking_close (outcome : Outcome) : ¬(conversation.close outcome).IsAsking := by
  cases outcome with
  | ok done => exact not_isAsking_afterWrite _
  | error rejection =>
    cases rejection with
    | report fault => exact not_isAsking_afterWrite _
    | fatal cause =>
      rintro ⟨pending, hphase⟩
      cases hphase

/-- Only a handler asks. -/
theorem not_isAsking_conduct {action : Action σ}
    (h : ∀ command parameters, action ≠ .perform command parameters) :
    ¬(conversation.conduct action).IsAsking := by
  cases action with
  | perform command parameters => exact absurd rfl (h command parameters)
  | assign key value setter => exact not_isAsking_close _
  | inform lines =>
    rw [conduct, inform_eq_close]
    exact not_isAsking_close _
  | leave =>
    rintro ⟨pending, hphase⟩
    cases hphase
  | _ => exact not_isAsking_afterWrite _

/-- Only a handler reads. -/
theorem reader_conduct {action : Action σ}
    (h : ∀ command parameters, action ≠ .perform command parameters) :
    (conversation.conduct action).wire.reader = conversation.wire.reader := by
  have hsame : conversation.conduct action =
      (conversation.conduct action).withReader conversation.wire.reader := conduct_withReader h
  rw [hsame]
  rfl

theorem reader_settle_finished (result : σ × Outcome) (wire : Wire) :
    (conversation.settle verb parameters (.finished result, wire)).wire.reader =
      wire.reader := by
  have hsame : conversation.settle verb parameters (.finished result, wire) =
      (conversation.settle verb parameters (.finished result, wire)).withReader wire.reader :=
    (settle_finished_withReader result wire).symm
  rw [hsame]
  rfl

/-- Only what is read matters. -/
theorem takeCommands_of_same_reading (blueprint : Blueprint σ) {first second : LineReader}
    (hready : conversation.phase = .ready) (h : first.readLine = second.readLine) :
    (conversation.withReader first).takeCommands blueprint =
      (conversation.withReader second).takeCommands blueprint := by
  obtain ⟨⟨before, outlet⟩, state, phase, calls⟩ := conversation
  obtain rfl : phase = .ready := hready
  rw [takeCommands, takeCommands]
  simp only [withReader]
  rw [h]

end Conversation

namespace Thread

variable {more : List Arrival}

theorem reader_onReader (thread : Thread σ) (change : LineReader → LineReader) :
    (thread.onReader change).wire.reader = change thread.wire.reader := by
  cases thread <;> rfl

theorem outlet_onReader (thread : Thread σ) (change : LineReader → LineReader) :
    (thread.onReader change).wire.outlet = thread.wire.outlet := by
  cases thread <;> rfl

theorem onReader_onReader (thread : Thread σ) (change again : LineReader → LineReader) :
    (thread.onReader change).onReader again = thread.onReader (again ∘ change) := by
  cases thread <;> rfl

theorem onReader_eq_self (thread : Thread σ) {change : LineReader → LineReader}
    (h : change thread.wire.reader = thread.wire.reader) : thread.onReader change = thread := by
  cases thread with
  | spawned wire => exact congrArg (fun reader ↦ spawned ⟨reader, wire.outlet⟩) h
  | paused conversation => exact congrArg (fun reader ↦ paused (conversation.withReader reader)) h
  | handling conversation verb parameters program =>
    exact congrArg (fun reader ↦
      handling (conversation.withReader reader) verb parameters program) h

/-! ### What a step leaves to be done -/

/-- A call is one step of the run. -/
theorem completed_call (blueprint : Blueprint σ) (conversation : Conversation σ)
    (verb parameters : String) (program : Program (σ × Outcome))
    (change : LineReader → LineReader) :
    ((call conversation verb parameters program).onReader change).completed blueprint =
      ((handling conversation verb parameters program).onReader change).completed blueprint := by
  cases program with
  | done result =>
    have hasking : ¬((conversation.settle verb parameters
        (.finished result, conversation.wire)).withReader
        (change conversation.wire.reader)).IsAsking := by
      rw [Conversation.settle_finished_withReader]
      exact Conversation.not_isAsking_close _
    simp only [call, onReader, completed, Conversation.advance, Program.run]
    rw [Conversation.reader_settle_finished,
      Conversation.answerPending_of_not_asking hasking,
      Conversation.settle_finished_withReader]
    exact congrArg (Conversation.takeCommands blueprint) (Conversation.settle_eq rfl rfl _)
  | data payload next | comment text next | status keyword text next =>
    exact congrArg (Conversation.takeCommands blueprint) (Conversation.settle_eq rfl rfl _)
  | inquire keyword next =>
    cases hsend : conversation.wire.outlet.sendLine "INQUIRE" (Utf8.encode keyword) with
    | mk result outlet =>
      have hsend' : (conversation.withReader (change conversation.wire.reader)).wire.outlet.sendLine
        "INQUIRE" (Utf8.encode keyword) = (result, outlet) := hsend
      cases result with
      | error cause =>
        simp only [call, hsend, onReader, completed, Program.run, hsend']
        exact congrArg (Conversation.takeCommands blueprint) (Conversation.settle_eq rfl rfl _)
      | ok done =>
        simp only [call, hsend, onReader, completed, Program.run, hsend']
        exact congrArg (Conversation.takeCommands blueprint) (Conversation.settle_eq rfl rfl _)

/-- Taking a command is a step of the conversation. -/
theorem completed_take (blueprint : Blueprint σ) (conversation : Conversation σ) (command : Line)
    (change : LineReader → LineReader) :
    ((take blueprint conversation command).onReader change).completed blueprint =
      ((conversation.withReader (change conversation.wire.reader)).dispatch blueprint
        command).takeCommands blueprint := by
  rw [Conversation.dispatch_eq_conduct, take]
  generalize Action.ofCommand blueprint command = action
  have hother : (∀ command parameters, action ≠ .perform command parameters) →
      ((paused (conversation.conduct action)).onReader change).completed blueprint =
        ((conversation.withReader (change conversation.wire.reader)).conduct action).takeCommands
          blueprint := by
    intro h
    rw [Conversation.conduct_withReader h, onReader, completed, Conversation.advance,
      Conversation.reader_conduct h]
    exact congrArg (Conversation.takeCommands blueprint)
      (Conversation.answerPending_of_not_asking (Conversation.not_isAsking_conduct h))
  cases action with
  | perform performed parameters => rfl
  | _ => exact hother (by simp)

/-! ### Where the reader is left -/

theorem reader_call (conversation : Conversation σ) (verb parameters : String)
    (program : Program (σ × Outcome)) :
    (call conversation verb parameters program).wire.reader = conversation.wire.reader := by
  cases program with
  | done result => exact Conversation.reader_settle_finished _ _
  | inquire keyword next =>
    rw [call]
    split <;> rfl
  | _ => rfl

theorem reader_take (blueprint : Blueprint σ) (conversation : Conversation σ) (command : Line) :
    (take blueprint conversation command).wire.reader = conversation.wire.reader := by
  rw [take]
  split
  case h_1 => rfl
  case h_2 hother => exact Conversation.reader_conduct hother

theorem reader_read (blueprint : Blueprint σ) (conversation : Conversation σ)
    (found : Reading Line × LineReader) :
    (read blueprint conversation found).wire.reader = found.2 := by
  obtain ⟨found, reader⟩ := found
  cases found with
  | value command => exact reader_take blueprint _ command
  | _ => rfl

theorem reader_hear (conversation : Conversation σ) (pending : Pending σ)
    (found : Program.Inquiry × LineReader) :
    (hear conversation pending found).wire.reader = found.2 := by
  obtain ⟨found, reader⟩ := found
  cases found <;> rfl

/-! ### What there is still to come -/

/-- A reading is a step of the conversation, whether it finds a command, fails or has to wait. -/
theorem completed_read (blueprint : Blueprint σ) {conversation : Conversation σ}
    {found : Reading Line × LineReader} {whole : LineReader} (hready : conversation.phase = .ready)
    (hread : whole.readLine = LineReader.orAgain more LineReader.readLine found) :
    ((read blueprint conversation found).onReader (LineReader.supplied more)).completed blueprint =
      ((paused conversation).onReader fun _ ↦ whole).completed blueprint := by
  have hadvance : ∀ reader : LineReader, (conversation.withReader reader).advance blueprint =
      (conversation.withReader reader).takeCommands blueprint := fun reader ↦ by
    rw [Conversation.advance, Conversation.answerPending_of_not_asking]
    rintro ⟨pending, hasking⟩
    cases hready.symm.trans hasking
  have hwhole : (conversation.withReader whole).phase = .ready := hready
  obtain ⟨found, reader⟩ := found
  rw [onReader, completed, hadvance]
  cases found with
  | value command =>
    rw [read, completed_take]
    exact (Conversation.takeCommands_of_reads blueprint hwhole hread).symm
  | error cause =>
    refine Eq.trans ?_ (Conversation.takeCommands_of_unread blueprint hwhole hread).symm
    refine Conversation.takeCommands_of_not_ready blueprint fun hphase ↦ ?_
    cases hphase
  | waiting =>
    refine (hadvance _).trans ?_
    exact Conversation.takeCommands_of_same_reading blueprint hready hread.symm

/-- So is a reading of an answer. -/
theorem completed_hear (blueprint : Blueprint σ) {conversation : Conversation σ}
    {pending : Pending σ} {found : Program.Inquiry × LineReader} {whole : LineReader}
    (hasking : conversation.phase = .asking pending)
    (hgather : Program.gather pending.collected whole = Program.orAgain more found) :
    ((hear conversation pending found).onReader (LineReader.supplied more)).completed blueprint =
      ((paused conversation).onReader fun _ ↦ whole).completed blueprint := by
  have hadvance : (conversation.withReader whole).advance blueprint =
      (conversation.settle pending.verb pending.parameters (Program.resume pending.collected
        pending.next (conversation.withReader whole).wire)).takeCommands blueprint := by
    have hphase : (conversation.withReader whole).phase = .asking pending := hasking
    rw [Conversation.advance, Conversation.answerPending, hphase]
    exact congrArg (Conversation.takeCommands blueprint) (Conversation.settle_eq rfl rfl _)
  obtain ⟨found, reader⟩ := found
  rw [onReader, completed, hadvance, Program.resume,
    show (conversation.withReader whole).wire.reader = whole from rfl, hgather]
  cases found with
  | answered outcome =>
    exact congrArg (Conversation.takeCommands blueprint) (Conversation.settle_eq rfl rfl _)
  | waiting collected =>
    exact congrArg (Conversation.takeCommands blueprint) (Conversation.settle_eq rfl rfl _)

/-- Whatever has arrived by then, a step leaves the thread with the conversation that it would have
come to with the rest of its stream in front of it. -/
theorem completed_proceed (blueprint : Blueprint σ) {thread : Thread σ}
    (hadmits : thread.wire.reader.inlet.Admits more) :
    (thread.proceed blueprint).wire.reader.inlet.Admits more ∧
      ((thread.proceed blueprint).onReader (LineReader.supplied more)).completed blueprint =
        (thread.onReader (LineReader.supplied more)).completed blueprint := by
  match thread with
  | .spawned wire => exact ⟨hadmits, rfl⟩
  | .handling conversation verb parameters program =>
    refine ⟨?_, completed_call blueprint conversation verb parameters program _⟩
    rw [proceed, reader_call]
    exact hadmits
  | .paused conversation =>
    have hadmits : conversation.wire.reader.inlet.Admits more := hadmits
    rw [proceed]
    cases hphase : conversation.phase with
    | ended result => exact ⟨hadmits, rfl⟩
    | ready =>
      obtain ⟨hlater, hread⟩ := LineReader.readLine_supplied hadmits
      exact ⟨(reader_read blueprint _ _).symm ▸ hlater, completed_read blueprint hphase hread⟩
    | asking pending =>
      obtain ⟨hlater, hgather⟩ := Program.gather_supplied pending.collected hadmits
      exact ⟨(reader_hear _ _ _).symm ▸ hlater, completed_hear blueprint hphase hgather⟩

/-! ### Coming to the end -/

/-- The thread takes some steps and is the other then. -/
def Reaches (blueprint : Blueprint σ) (thread last : Thread σ) : Prop :=
  ∃ count, (proceed blueprint)^[count] thread = last

/-- The thread gets out of its handler, on a stream that ends. -/
structure Settles (blueprint : Blueprint σ) (thread : Thread σ) (settled : Conversation σ) :
    Prop where
  reaches : Reaches blueprint thread (.paused settled)
  idle : ¬settled.IsAsking
  ended : settled.wire.reader.inlet.ended = true

section

variable {blueprint : Blueprint σ} {conversation settled : Conversation σ}
  {thread between last : Thread σ}

theorem Reaches.here (thread : Thread σ) : Reaches blueprint thread thread := ⟨0, rfl⟩

theorem Reaches.next (h : Reaches blueprint (thread.proceed blueprint) last) :
    Reaches blueprint thread last := by
  obtain ⟨count, hcount⟩ := h
  exact ⟨count + 1, hcount⟩

theorem Reaches.trans (h : Reaches blueprint thread between)
    (hlater : Reaches blueprint between last) : Reaches blueprint thread last := by
  obtain ⟨first, rfl⟩ := h
  obtain ⟨second, rfl⟩ := hlater
  exact ⟨second + first, Function.iterate_add_apply _ _ _ _⟩

theorem Settles.next (h : Settles blueprint (thread.proceed blueprint) settled) :
    Settles blueprint thread settled :=
  ⟨h.reaches.next, h.idle, h.ended⟩

theorem settles_handling (blueprint : Blueprint σ) (verb parameters : String)
    (program : Program (σ × Outcome)) (hended : conversation.wire.reader.inlet.ended = true) :
    Settles blueprint (.handling conversation verb parameters program)
      (conversation.settle verb parameters (program.run conversation.wire)) := by
  induction program generalizing conversation with
  | done result =>
    refine ⟨.next (.here _), Conversation.not_isAsking_close _, ?_⟩
    rw [Program.run, Conversation.reader_settle_finished]
    exact hended
  | data payload next ih | comment text next ih | status keyword text next ih =>
    have hlater := fun result outlet ↦
      ih result (show (conversation.withOutlet outlet).wire.reader.inlet.ended = true from hended)
    simp only [Conversation.settle_withOutlet] at hlater
    exact .next (hlater _ _)
  | inquire keyword next ih =>
    rw [Program.run]
    cases hsend : conversation.wire.outlet.sendLine "INQUIRE" (Utf8.encode keyword) with
    | mk result outlet =>
      cases result with
      | error cause =>
        have hlater := ih (.error (.ofFailure cause))
          (show (conversation.withOutlet outlet).wire.reader.inlet.ended = true from hended)
        rw [Conversation.settle_withOutlet] at hlater
        refine .next ?_
        rw [proceed, call, hsend]
        exact hlater
      | ok done =>
        obtain ⟨outcome, rest, hgather, hrest⟩ := Program.gather_of_ended [] hended
        let asking : Conversation σ :=
          { conversation.withOutlet outlet with phase := .asking ⟨verb, parameters, [], next⟩ }
        have hlater := ih outcome
          (show (asking.withReader rest).wire.reader.inlet.ended = true from hrest)
        rw [Conversation.settle_withReader,
          Conversation.settle_eq (show asking.state = conversation.state from rfl) rfl] at hlater
        refine .next ?_
        rw [proceed, call, hsend]
        refine .next ?_
        simp only [proceed]
        rw [show (conversation.withOutlet outlet).wire.reader = conversation.wire.reader from rfl,
          hgather]
        exact hlater

theorem settles_take (blueprint : Blueprint σ) (command : Line)
    (hended : conversation.wire.reader.inlet.ended = true) :
    Settles blueprint (take blueprint conversation command)
      (conversation.dispatch blueprint command) := by
  rw [Conversation.dispatch_eq_conduct, take]
  split
  case h_1 performed parameters haction =>
    rw [haction]
    exact settles_handling blueprint _ _ _ hended
  case h_2 hother =>
    refine ⟨.here _, Conversation.not_isAsking_conduct hother, ?_⟩
    rw [Conversation.reader_conduct hother]
    exact hended

theorem settles_answerPending {pending : Pending σ}
    (hasking : conversation.phase = .asking pending)
    (hended : conversation.wire.reader.inlet.ended = true) :
    Settles blueprint (.paused conversation) conversation.answerPending := by
  obtain ⟨outcome, rest, hgather, hrest⟩ := Program.gather_of_ended pending.collected hended
  have hheard := settles_handling blueprint pending.verb pending.parameters
    (pending.next outcome)
    (show (conversation.withReader rest).wire.reader.inlet.ended = true from hrest)
  rw [Conversation.settle_withReader] at hheard
  refine .next ?_
  rw [Conversation.answerPending, proceed]
  simp only [hasking, hgather, Program.resume]
  exact hheard

/-- On a stream that ends a thread takes commands until it is over. -/
theorem reaches_takeCommands (blueprint : Blueprint σ)
    (hended : conversation.wire.reader.inlet.ended = true) (hidle : ¬conversation.IsAsking) :
    Reaches blueprint (.paused conversation) (.paused (conversation.takeCommands blueprint)) ∧
      (conversation.takeCommands blueprint).isOver = true := by
  fun_induction Conversation.takeCommands blueprint conversation with
  | case1 conversation hready command reader hread ih =>
    have hrest := (LineReader.ended_of_readLine hended hread).2
    have hsettles := settles_take blueprint command
      (show (conversation.withReader reader).wire.reader.inlet.ended = true from hrest)
    obtain ⟨hreaches, hover⟩ := ih hsettles.ended hsettles.idle
    refine ⟨.next ?_, hover⟩
    simp only [proceed, hready, hread, read]
    exact hsettles.reaches.trans hreaches
  | case2 conversation hready cause reader hread =>
    refine ⟨.next ?_, rfl⟩
    simp only [proceed, hready, hread, read]
    exact .here _
  | case3 conversation hready reader hread =>
    exact absurd rfl (LineReader.ended_of_readLine hended hread).1
  | case4 conversation hready =>
    refine ⟨.here _, ?_⟩
    cases hphase : conversation.phase with
    | ready => exact absurd hphase hready
    | asking pending => exact absurd ⟨pending, hphase⟩ hidle
    | ended result => exact Conversation.isOver_of_ended hphase

/-- With all of its stream in front of it a thread comes to its conversation, which is over. -/
theorem reaches_completed (blueprint : Blueprint σ) (thread : Thread σ)
    (hended : thread.wire.reader.inlet.ended = true) :
    Reaches blueprint thread (.paused (thread.completed blueprint)) ∧
      (thread.completed blueprint).isOver = true := by
  have hsettled : ∀ {thread : Thread σ} {settled : Conversation σ},
      Settles blueprint thread settled →
      Reaches blueprint thread (.paused (settled.takeCommands blueprint)) ∧
        (settled.takeCommands blueprint).isOver = true := fun h ↦
    (reaches_takeCommands blueprint h.ended h.idle).imp_left h.reaches.trans
  have hpaused : ∀ conversation : Conversation σ,
      conversation.wire.reader.inlet.ended = true → ¬conversation.IsAsking →
      Reaches blueprint (.paused conversation) (.paused (conversation.advance blueprint)) ∧
        (conversation.advance blueprint).isOver = true := by
    intro conversation hended hidle
    rw [Conversation.advance, Conversation.answerPending_of_not_asking hidle]
    exact reaches_takeCommands blueprint hended hidle
  cases thread with
  | spawned wire =>
    exact (hpaused (.greet blueprint wire) hended (Conversation.not_isAsking_afterWrite _)).imp_left
      Reaches.next
  | handling conversation verb parameters program =>
    exact hsettled (settles_handling blueprint verb parameters program hended)
  | paused conversation =>
    by_cases hasking : conversation.IsAsking
    · obtain ⟨pending, hphase⟩ := hasking
      exact hsettled (settles_answerPending hphase hended)
    · exact hpaused conversation hended hasking

/-! ### What has been written -/

theorem octets_call (conversation : Conversation σ) (verb parameters : String)
    (program : Program (σ × Outcome)) :
    conversation.wire.outlet.octets <+:
      (call conversation verb parameters program).wire.outlet.octets := by
  cases program with
  | done result =>
    obtain ⟨final, outcome⟩ := result
    exact Conversation.octets_close { conversation with
      state := final
      calls := conversation.calls ++ [Call.command verb parameters final outcome] } outcome
  | data payload next => exact Outlet.octets_sendData _ payload
  | comment text next => exact Outlet.octets_sendEncoded _ _
  | status keyword text next => exact Outlet.octets_sendEncoded _ _
  | inquire keyword next =>
    have hsent : conversation.wire.outlet.octets <+:
        (conversation.wire.outlet.sendLine "INQUIRE" (Utf8.encode keyword)).2.octets :=
      Outlet.octets_sendEncoded _ _
    rw [call]
    split <;> next heq => rw [heq] at hsent; exact hsent

theorem octets_take (blueprint : Blueprint σ) (conversation : Conversation σ) (command : Line) :
    conversation.wire.outlet.octets <+:
      (take blueprint conversation command).wire.outlet.octets := by
  rw [take]
  split
  case h_1 => exact List.prefix_rfl
  case h_2 hother => exact Conversation.octets_conduct hother

theorem octets_read (blueprint : Blueprint σ) (conversation : Conversation σ)
    (found : Reading Line × LineReader) :
    conversation.wire.outlet.octets <+:
      (read blueprint conversation found).wire.outlet.octets := by
  obtain ⟨found, reader⟩ := found
  cases found with
  | value command => exact octets_take blueprint (conversation.withReader reader) command
  | _ => exact List.prefix_rfl

theorem octets_hear (conversation : Conversation σ) (pending : Pending σ)
    (found : Program.Inquiry × LineReader) :
    conversation.wire.outlet.octets <+: (hear conversation pending found).wire.outlet.octets := by
  obtain ⟨found, reader⟩ := found
  cases found <;> exact List.prefix_rfl

/-- What has been written stays written. -/
theorem octets_proceed (blueprint : Blueprint σ) (thread : Thread σ) :
    thread.wire.outlet.octets <+: (thread.proceed blueprint).wire.outlet.octets := by
  match thread with
  | .spawned wire => exact Outlet.octets_sendEncoded _ _
  | .handling conversation verb parameters program => exact octets_call ..
  | .paused conversation =>
    rw [proceed]
    cases conversation.phase with
    | ended result => exact List.prefix_rfl
    | ready => exact octets_read ..
    | asking pending => exact octets_hear ..

theorem Reaches.octets (h : Reaches blueprint thread last) :
    thread.wire.outlet.octets <+: last.wire.outlet.octets := by
  obtain ⟨count, rfl⟩ := h
  induction count generalizing thread with
  | zero => exact List.prefix_rfl
  | succ count ih => exact (octets_proceed blueprint thread).trans ih

end

end Thread

end LineProtocol
