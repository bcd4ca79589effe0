import LineProtocol.Proofs.Line.Delivery
import LineProtocol.Proofs.Server.Counting
import LineProtocol.Server.SocketServer

/-!
# What becomes of a connection

A connection that the loop is not busy with and that has no guard stays as it is (`Change.apart`),
one that has a guard keeps it until it is released (`Change.held`), and events that the loop does
not wait for leave it where it is (`Change.stays`). So each step of the loop finds the connection as
the step before has left it, whatever happens in between.

`Accountable` puts together what can be relied on after any events, and `accountable` says that it
can. In particular a connection is either refused, admitted or dropped, once (`Decided`), if no
shutdown is asked for before the loop looks. That none is asked for before the connection is
accepted does not suffice: `undecided_of_requested_meanwhile` has one that is asked for in between,
and nothing becomes of the connection (`Ignored`).
-/

set_option autoImplicit false

namespace LineProtocol

/-- What a client over the limit is told. -/
theorem SocketServer.octets_refuse {outlet : Outlet} (hobliging : outlet.Obliging) :
    (refuse outlet).octets =
      outlet.octets ++ Utf8.encode "ERR 251658241 too many connections <assuan>\n" := by
  obtain ⟨after, hsend, hsent⟩ := Outlet.sendFault_obliging tooMany hobliging
  have hline : (Line.sent tooMany.composed).flatMap Line.octets =
      Utf8.encode "ERR 251658241 too many connections <assuan>\n" := by
    decide +kernel
  rw [refuse, hsend, hsent.octets, hline]

namespace Acceptor

variable {acceptor : Acceptor}

/-! ### One connection -/

/-- The connection that the loop is busy with. -/
def Stage.connection? : Stage → Option Nat
  | .accepting => none
  | .looking (.ok connection) => some connection
  | .looking (.error _) => none
  | .judging connection => some connection
  | .preparing connection => some connection
  | .spawning connection => some connection
  | .stopped _ => none

/-- A connection without a guard is none of those whose threads are running. -/
theorem ne_of_isServing {other connection : Nat} (hserving : acceptor.isServing other)
    (hguards : connection ∉ acceptor.guards) : other ≠ connection := by
  rintro rfl
  exact hguards (isServing_iff.1 hserving).1

/-- The loop is not busy with a connection, which has no guard. -/
structure Apart (acceptor : Acceptor) (connection : Nat) (marks : List Mark) : Prop where
  stage : acceptor.stage.connection? ≠ some connection
  guards : connection ∉ acceptor.guards
  marks : acceptor.marks connection = marks

/-- Nothing becomes of such a connection before it is accepted. -/
theorem Change.apart {event : Event} {next : Acceptor} {connection : Nat} {marks : List Mark}
    (hchange : acceptor.Change event next) (hevent : event ≠ .accepted connection)
    (hapart : acceptor.Apart connection marks) : next.Apart connection marks := by
  obtain ⟨hstage, hguards, hmarks⟩ := hapart
  -- the loop is busy with another connection
  have hother : ∀ {other}, acceptor.stage.connection? = some other → other ≠ connection :=
    fun hbusy hsame ↦ hstage (hsame ▸ hbusy)
  cases hchange with
  | unfit => exact ⟨hstage, hguards, hmarks⟩
  | accepted other haccepting =>
    exact ⟨fun hsame ↦ hevent (congrArg Event.accepted (Option.some.inj hsame)), hguards, hmarks⟩
  | failed cause haccepting => exact ⟨nofun, hguards, hmarks⟩
  | taken other hgoing hlooking =>
    have hne := hother (congrArg Stage.connection? hlooking)
    exact ⟨fun hsame ↦ hne (Option.some.inj hsame), hguards, hmarks⟩
  | skipped cause hgoing hpassing hlooking => exact ⟨nofun, hguards, hmarks⟩
  | broken cause hgoing hfatal hlooking => exact ⟨nofun, hguards, hmarks⟩
  | stopped accepted hstopping hlooking => exact ⟨nofun, hguards, hmarks⟩
  | refused other hfull hjudging =>
    have hne := hother (congrArg Stage.connection? hjudging)
    exact ⟨nofun, hguards, (marks_note_of_ne hne _).trans hmarks⟩
  | passed other hroom hjudging =>
    have hne := hother (congrArg Stage.connection? hjudging)
    exact ⟨fun hsame ↦ hne (Option.some.inj hsame), hguards, hmarks⟩
  | admitted other hpreparing =>
    have hne := hother (congrArg Stage.connection? hpreparing)
    refine ⟨fun hsame ↦ hne (Option.some.inj hsame), ?_, (marks_note_of_ne hne _).trans hmarks⟩
    exact List.not_mem_append hguards (mt List.mem_singleton.1 hne.symm)
  | dropped other hpreparing =>
    have hne := hother (congrArg Stage.connection? hpreparing)
    exact ⟨nofun, hguards, (marks_note_of_ne hne _).trans hmarks⟩
  | served other hspawning => exact ⟨nofun, hguards, hmarks⟩
  | unserved other hspawning =>
    have hne := hother (congrArg Stage.connection? hspawning)
    exact ⟨nofun, mt List.mem_of_mem_erase hguards, (marks_note_of_ne hne _).trans hmarks⟩
  | ended other ending hserving =>
    have hne := ne_of_isServing hserving hguards
    exact ⟨hstage, mt List.mem_of_mem_erase hguards, (marks_note_of_ne hne _).trans hmarks⟩
  | requested => exact ⟨hstage, hguards, hmarks⟩

theorem Apart.run {connection : Nat} {marks : List Mark} (hapart : acceptor.Apart connection marks)
    {events : List Event} (hevents : .accepted connection ∉ events) :
    (acceptor.run events).Apart connection marks := by
  induction events generalizing acceptor with
  | nil => exact hapart
  | cons event later ih =>
    rw [List.mem_cons, not_or] at hevents
    exact ih ((acceptor.change event).apart (Ne.symm hevents.1) hapart) hevents.2

/-- A connection that is counted and still has its guard. -/
structure Held (acceptor : Acceptor) (connection : Nat) : Prop where
  stage : acceptor.stage.connection? = some connection → acceptor.stage = .spawning connection
  guards : acceptor.guards.count connection = 1
  marks : acceptor.marks connection = [.admitted]

/-- A connection keeps its guard until it is released, once. -/
theorem Change.held {event : Event} {next : Acceptor} {connection : Nat}
    (hchange : acceptor.Change event next) (hevent : event ≠ .accepted connection)
    (hheld : acceptor.Held connection) :
    next.Held connection ∨ next.Apart connection [.admitted, .released] := by
  obtain ⟨hstage, hguards, hmarks⟩ := hheld
  -- the loop takes, judges and prepares other connections only
  have hother : ∀ {stage other}, acceptor.stage = stage → stage.connection? = some other →
      stage ≠ .spawning other → other ≠ connection := by
    rintro _ other rfl hbusy hearly rfl
    exact hearly (hstage hbusy)
  have hreleased : connection ∉ acceptor.guards.erase connection := by
    rw [← List.count_eq_zero, List.count_erase_self, hguards]
  have hmarked : (acceptor.note connection .released).marks connection =
      [.admitted, .released] := by
    rw [marks_note, if_pos rfl, hmarks]
    rfl
  have hkept : ∀ {other}, other ≠ connection →
      (acceptor.guards.erase other).count connection = 1 :=
    fun hne ↦ (List.count_erase_of_ne hne.symm).trans hguards
  cases hchange with
  | unfit => exact .inl ⟨hstage, hguards, hmarks⟩
  | accepted other haccepting =>
    have hne : other ≠ connection := fun hsame ↦ hevent (congrArg Event.accepted hsame)
    exact .inl ⟨fun hsame ↦ absurd (Option.some.inj hsame) hne, hguards, hmarks⟩
  | failed cause haccepting => exact .inl ⟨nofun, hguards, hmarks⟩
  | taken other hgoing hlooking =>
    have hne := hother hlooking rfl nofun
    exact .inl ⟨fun hsame ↦ absurd (Option.some.inj hsame) hne, hguards, hmarks⟩
  | skipped cause hgoing hpassing hlooking => exact .inl ⟨nofun, hguards, hmarks⟩
  | broken cause hgoing hfatal hlooking => exact .inl ⟨nofun, hguards, hmarks⟩
  | stopped accepted hstopping hlooking => exact .inl ⟨nofun, hguards, hmarks⟩
  | refused other hfull hjudging =>
    have hne := hother hjudging rfl nofun
    exact .inl ⟨nofun, hguards, (marks_note_of_ne hne _).trans hmarks⟩
  | passed other hroom hjudging =>
    have hne := hother hjudging rfl nofun
    exact .inl ⟨fun hsame ↦ absurd (Option.some.inj hsame) hne, hguards, hmarks⟩
  | admitted other hpreparing =>
    have hne := hother hpreparing rfl nofun
    refine .inl ⟨fun hsame ↦ absurd (Option.some.inj hsame) hne, ?_,
      (marks_note_of_ne hne _).trans hmarks⟩
    show (acceptor.guards ++ [other]).count connection = 1
    rw [List.count_append, hguards, List.count_singleton]
    simp [hne]
  | dropped other hpreparing =>
    have hne := hother hpreparing rfl nofun
    exact .inl ⟨nofun, hguards, (marks_note_of_ne hne _).trans hmarks⟩
  | served other hspawning => exact .inl ⟨nofun, hguards, hmarks⟩
  | unserved other hspawning =>
    by_cases hsame : other = connection
    · subst hsame
      exact .inr ⟨nofun, hreleased, hmarked⟩
    · exact .inl ⟨nofun, hkept hsame, (marks_note_of_ne hsame _).trans hmarks⟩
  | ended other ending hserving =>
    by_cases hsame : other = connection
    · subst hsame
      have hrunning := (isServing_iff.1 hserving).2
      exact .inr ⟨fun hbusy ↦ hrunning (hstage hbusy), hreleased, hmarked⟩
    · exact .inl ⟨hstage, hkept hsame, (marks_note_of_ne hsame _).trans hmarks⟩
  | requested => exact .inl ⟨hstage, hguards, hmarks⟩

theorem Held.run {connection : Nat} (hheld : acceptor.Held connection) {events : List Event}
    (hevents : .accepted connection ∉ events) :
    (acceptor.run events).Held connection ∨
      (acceptor.run events).Apart connection [.admitted, .released] := by
  induction events generalizing acceptor with
  | nil => exact .inl hheld
  | cons event later ih =>
    rw [List.mem_cons, not_or] at hevents
    rcases (acceptor.change event).held (Ne.symm hevents.1) hheld with hstill | hapart
    · exact ih hstill hevents.2
    · exact .inr (hapart.run hevents.2)

/-- Other events leave the loop where it is. -/
theorem Change.stays {event : Event} {next : Acceptor} (hchange : acceptor.Change event next)
    (hquiet : acceptor.stage.awaits event = false) : next.stage = acceptor.stage := by
  cases hchange with
  | unfit => rfl
  | requested => rfl
  | ended other ending hserving => rfl
  | _ =>
    rename_i hstage
    rw [hstage] at hquiet
    exact absurd hquiet Bool.noConfusion

/-- They leave a connection without a guard as it is, too. -/
theorem Change.untouched {event : Event} {next : Acceptor} {connection : Nat}
    (hchange : acceptor.Change event next) (hquiet : acceptor.stage.awaits event = false)
    (hguards : connection ∉ acceptor.guards) :
    connection ∉ next.guards ∧ next.marks connection = acceptor.marks connection := by
  cases hchange with
  | unfit => exact ⟨hguards, rfl⟩
  | requested => exact ⟨hguards, rfl⟩
  | ended other ending hserving =>
    have hne := ne_of_isServing hserving hguards
    exact ⟨mt List.mem_of_mem_erase hguards, marks_note_of_ne hne _⟩
  | _ =>
    rename_i hstage
    rw [hstage] at hquiet
    exact absurd hquiet Bool.noConfusion

theorem stage_run {events : List Event}
    (hquiet : ∀ event ∈ events, acceptor.stage.awaits event = false) :
    (acceptor.run events).stage = acceptor.stage := by
  induction events generalizing acceptor with
  | nil => rfl
  | cons event later ih =>
    rw [List.forall_mem_cons] at hquiet
    have hstage := (acceptor.change event).stays hquiet.1
    exact (ih (by rw [hstage]; exact hquiet.2)).trans hstage

/-- The loop is at a stage with a connection that nothing has become of. -/
structure Pending (acceptor : Acceptor) (connection : Nat) (stage : Stage) : Prop where
  stage : acceptor.stage = stage
  guards : connection ∉ acceptor.guards
  marks : acceptor.marks connection = []

theorem Pending.run {connection : Nat} {stage : Stage}
    (hpending : acceptor.Pending connection stage) {events : List Event}
    (hquiet : ∀ event ∈ events, stage.awaits event = false) :
    (acceptor.run events).Pending connection stage := by
  induction events generalizing acceptor with
  | nil => exact hpending
  | cons event later ih =>
    obtain ⟨rfl, hguards, hmarks⟩ := hpending
    rw [List.forall_mem_cons] at hquiet
    have hstage := (acceptor.change event).stays hquiet.1
    have hnext := (acceptor.change event).untouched hquiet.1 hguards
    exact ih ⟨hstage, hnext.1, hnext.2.trans hmarks⟩ hquiet.2

theorem marks_note_self {connection : Nat} (hmarks : acceptor.marks connection = []) (mark : Mark) :
    (acceptor.note connection mark).marks connection = [mark] := by
  rw [marks_note, if_pos rfl, hmarks, List.nil_append]

theorem Pending.refused {connection : Nat}
    (hpending : acceptor.Pending connection (.judging connection))
    (hfull : acceptor.limit ≤ acceptor.active.toNat) :
    (acceptor.step .judged).active = acceptor.active ∧
      (acceptor.step .judged).Apart connection [.refused] := by
  have hstep : acceptor.step .judged =
      { acceptor.note connection .refused with stage := .accepting } := by
    simp [step, hpending.stage, hfull]
  rw [hstep]
  exact ⟨rfl, nofun, hpending.guards, marks_note_self hpending.marks _⟩

theorem Pending.passed {connection : Nat}
    (hpending : acceptor.Pending connection (.judging connection))
    (hroom : acceptor.active.toNat < acceptor.limit) :
    (acceptor.step .judged).Pending connection (.preparing connection) := by
  have hstep : acceptor.step .judged = { acceptor with stage := .preparing connection } := by
    simp [step, hpending.stage, Nat.not_le.2 hroom]
  rw [hstep]
  exact ⟨rfl, hpending.guards, hpending.marks⟩

theorem Pending.dropped {connection : Nat}
    (hpending : acceptor.Pending connection (.preparing connection)) :
    (acceptor.step (.prepared false)).active = acceptor.active ∧
      (acceptor.step (.prepared false)).Apart connection [.dropped] := by
  have hstep : acceptor.step (.prepared false) =
      { acceptor.note connection .dropped with stage := .accepting } := by
    simp [step, hpending.stage]
  rw [hstep]
  exact ⟨rfl, nofun, hpending.guards, marks_note_self hpending.marks _⟩

theorem Pending.admitted {connection : Nat}
    (hpending : acceptor.Pending connection (.preparing connection)) (hcounted : acceptor.Counted)
    (hlimit : acceptor.limit < UInt64.size) :
    (acceptor.step (.prepared true)).active.toNat = acceptor.active.toNat + 1 ∧
      (acceptor.step (.prepared true)).Held connection := by
  have hstep : acceptor.step (.prepared true) =
      { acceptor.enroll connection with stage := .spawning connection } := by
    simp [step, hpending.stage]
  rw [hstep]
  refine ⟨hcounted.toNat_enroll hlimit hpending.stage, fun _ ↦ rfl, ?_,
    marks_note_self hpending.marks _⟩
  show (acceptor.guards ++ [connection]).count connection = 1
  rw [List.count_append, List.count_eq_zero.2 hpending.guards, List.count_singleton_self]

/-! ### Shutdowns -/

theorem Change.stopping_iff {event : Event} {next : Acceptor}
    (hchange : acceptor.Change event next) :
    next.stopping ↔ acceptor.stopping ∨ event = .shutdownRequested := by
  cases hchange with
  | unfit _ hevent => simp [hevent]
  | _ => simp [note, enroll, release]

theorem stopping_run (acceptor : Acceptor) (events : List Event) :
    (acceptor.run events).stopping ↔
      acceptor.stopping ∨ .shutdownRequested ∈ events := by
  induction events generalizing acceptor with
  | nil => simp [run]
  | cons event later ih =>
    rw [run_cons, ih, (acceptor.change event).stopping_iff, List.mem_cons, or_assoc,
      @eq_comm _ event]

theorem awaits_looking {accepted : Except IoError Nat} {event : Event} (hother : event ≠ .looked) :
    (Stage.looking accepted).awaits event = false := by
  cases event with
  | looked => exact absurd rfl hother
  | _ => rfl

theorem step_looked {accepted : Except IoError Nat} (hstage : acceptor.stage = .looking accepted) :
    acceptor.step .looked =
      { acceptor with
        stage := if acceptor.stopping then .stopped (.ok ()) else .afterAccept accepted } := by
  simp only [step, hstage]

/-- A connection that the loop looks at before any shutdown is asked for is taken in. -/
theorem Pending.taken {connection : Nat}
    (hpending : acceptor.Pending connection (.looking (.ok connection)))
    (hgoing : acceptor.stopping = false) :
    (acceptor.step .looked).Pending connection (.judging connection) := by
  rw [step_looked hpending.stage, hgoing]
  exact ⟨rfl, hpending.guards, hpending.marks⟩

/-- Whatever an accept gives, the loop looks before it goes on. -/
theorem looking_of_awaits {event : Event} (hstage : acceptor.stage = .accepting)
    (hevent : Stage.accepting.awaits event) :
    ∃ accepted, (acceptor.step event).stage = .looking accepted := by
  cases event with
  | accepted connection => exact ⟨.ok connection, by simp only [step, hstage]⟩
  | acceptFailed cause => exact ⟨.error cause, by simp only [step, hstage]⟩
  | _ => exact absurd hevent Bool.noConfusion

/-- While the loop is to look, the others do what they would do while it accepts. -/
theorem step_looking (hstage : acceptor.stage = .accepting) (accepted : Except IoError Nat)
    {event : Event} (hquiet : Stage.accepting.awaits event = false) (hlooked : event ≠ .looked) :
    { acceptor with stage := .looking accepted }.step event =
      { acceptor.step event with stage := .looking accepted } := by
  cases event with
  | accepted connection => exact absurd hquiet Bool.noConfusion
  | acceptFailed cause => exact absurd hquiet Bool.noConfusion
  | looked => exact absurd rfl hlooked
  | ended connection ending =>
    -- no thread is being made at either stage, so the same threads are running
    simp only [step, isServing, hstage, apply_ite (fun after : Acceptor ↦
      { after with stage := .looking accepted })]
    rfl
  | shutdownRequested => rfl
  | _ => simp only [step, hstage]

theorem run_looking (hstage : acceptor.stage = .accepting) (accepted : Except IoError Nat)
    {events : List Event} (hquiet : ∀ event ∈ events, Stage.accepting.awaits event = false)
    (hlooked : .looked ∉ events) :
    { acceptor with stage := .looking accepted }.run events =
      { acceptor.run events with stage := .looking accepted } := by
  induction events generalizing acceptor with
  | nil => rfl
  | cons event later ih =>
    rw [List.forall_mem_cons] at hquiet
    rw [List.mem_cons, not_or] at hlooked
    have hnext : (acceptor.step event).stage = .accepting :=
      ((acceptor.change event).stays (hstage ▸ hquiet.1)).trans hstage
    rw [run_cons, run_cons, step_looking hstage accepted hquiet.1 (Ne.symm hlooked.1)]
    exact ih hnext hquiet.2 hlooked.2

/-- A passing failure to accept changes nothing, whatever the others do before the loop looks. -/
theorem run_of_passing {cause : IoError} (hcause : cause.isFatal = false)
    (hstage : acceptor.stage = .accepting) {waiting : List Event}
    (hquiet : ∀ event ∈ waiting, Stage.accepting.awaits event = false)
    (hlooked : .looked ∉ waiting) (hgoing : (acceptor.run waiting).stopping = false) :
    acceptor.run (.acceptFailed cause :: (waiting ++ [.looked])) = acceptor.run waiting := by
  have hfailed : acceptor.step (.acceptFailed cause) =
      { acceptor with stage := .looking (.error cause) } := by
    simp only [step, hstage]
  have hagain : (acceptor.run waiting).stage = .accepting :=
    (stage_run (hstage ▸ hquiet)).trans hstage
  have hskipped : { acceptor.run waiting with stage := .looking (.error cause) }.step .looked =
      { acceptor.run waiting with stage := .accepting } := by
    rw [step_looked rfl]
    simp only [hgoing, hcause, Stage.afterAccept, Bool.false_eq_true, if_false]
  rw [run_cons, hfailed, run_append, run_looking hstage _ hquiet hlooked, run_cons, hskipped,
    ← hagain]
  rfl

theorem Apart.accepted {connection : Nat} (hapart : acceptor.Apart connection [])
    (hstage : acceptor.stage = .accepting) :
    (acceptor.step (.accepted connection)).Pending connection (.looking (.ok connection)) := by
  have hstep : acceptor.step (.accepted connection) =
      { acceptor with stage := .looking (.ok connection) } := by
    simp only [step, hstage]
  rw [hstep]
  exact ⟨rfl, hapart.guards, hapart.marks⟩

theorem Apart.offered {connection : Nat} (hapart : acceptor.Apart connection []) :
    (acceptor.step (.accepted connection)).Apart connection [] ∨
      (acceptor.step (.accepted connection)).Pending connection (.looking (.ok connection)) := by
  cases hstage : acceptor.stage with
  | accepting => exact .inr (hapart.accepted hstage)
  | _ =>
    have hstep : acceptor.step (.accepted connection) = acceptor := by simp only [step, hstage]
    exact .inl (hstep.symm ▸ hapart)

/-- The loop is to stop, and a connection that nothing has become of is at most to be looked at. -/
structure Ignored (acceptor : Acceptor) (connection : Nat) : Prop where
  stopping : acceptor.stopping
  untaken : acceptor.Apart connection [] ∨
    acceptor.Pending connection (.looking (.ok connection))

/-- Such a connection is never taken in. -/
theorem Change.ignored {event : Event} {next : Acceptor} {connection : Nat}
    (hchange : acceptor.Change event next) (hevent : event ≠ .accepted connection)
    (hignored : acceptor.Ignored connection) : next.Ignored connection := by
  refine ⟨hchange.stopping_iff.2 (.inl hignored.stopping), ?_⟩
  rcases hignored.untaken with hapart | ⟨hstage, hguards, hmarks⟩
  · exact .inl (hchange.apart hevent hapart)
  · cases hchange with
    | unfit => exact .inr ⟨hstage, hguards, hmarks⟩
    | requested => exact .inr ⟨hstage, hguards, hmarks⟩
    | ended other ending hserving =>
      have hne := ne_of_isServing hserving hguards
      exact .inr ⟨hstage, mt List.mem_of_mem_erase hguards, (marks_note_of_ne hne _).trans hmarks⟩
    | stopped accepted hstopping hlooking => exact .inl ⟨nofun, hguards, hmarks⟩
    | taken other hgoing hlooking => exact absurd hignored.stopping (ne_true_of_eq_false hgoing)
    | skipped cause hgoing hpassing hlooking =>
      exact absurd hignored.stopping (ne_true_of_eq_false hgoing)
    | broken cause hgoing hfatal hlooking =>
      exact absurd hignored.stopping (ne_true_of_eq_false hgoing)
    | _ =>
      rename_i hother
      exact Stage.noConfusion (hstage.symm.trans hother)

theorem Ignored.run {connection : Nat} (hignored : acceptor.Ignored connection)
    {events : List Event} (hevents : .accepted connection ∉ events) :
    (acceptor.run events).Ignored connection := by
  induction events generalizing acceptor with
  | nil => exact hignored
  | cons event later ih =>
    rw [List.mem_cons, not_or] at hevents
    exact ih ((acceptor.change event).ignored (Ne.symm hevents.1) hignored) hevents.2

theorem result_of_stopped {result : Except Failure Unit} (hstage : acceptor.stage = .stopped result)
    (events : List Event) : (acceptor.run events).result? = some result := by
  have hlast : (acceptor.run events).stage = .stopped result := by
    rw [stage_run, hstage]
    rw [hstage]
    exact fun event _ ↦ by cases event <;> rfl
  rw [result?, hlast]

/-! ### What can be relied on -/

/-- The acceptor after events from its start. -/
def after (limit : Nat) (events : List Event) : Acceptor :=
  (start limit).run events

/-- What becomes of a connection that the loop judges before anything of what happens `later`. -/
structure Decided (judging : Acceptor) (connection : Nat) (later : List Event) : Prop where
  /-- If the limit has been reached it is refused, once, and the count stays. -/
  refused : judging.limit ≤ judging.active.toNat →
    (judging.step .judged).active = judging.active ∧
      (judging.run (.judged :: later)).marks connection = [.refused]
  /-- Otherwise it is admitted, once, if its time limits can be set. -/
  admitted : judging.active.toNat < judging.limit → ∀ waiting rest,
    later = waiting ++ .prepared true :: rest → (∀ possible, .prepared possible ∉ waiting) →
      ((judging.run (.judged :: waiting)).step (.prepared true)).active.toNat =
          (judging.run (.judged :: waiting)).active.toNat + 1 ∧
        ((judging.run (.judged :: later)).marks connection = [.admitted] ∨
          (judging.run (.judged :: later)).marks connection = [.admitted, .released])
  /-- If they cannot be set it is dropped, and the count stays. -/
  dropped : judging.active.toNat < judging.limit → ∀ waiting rest,
    later = waiting ++ .prepared false :: rest → (∀ possible, .prepared possible ∉ waiting) →
      ((judging.run (.judged :: waiting)).step (.prepared false)).active =
          (judging.run (.judged :: waiting)).active ∧
        (judging.run (.judged :: later)).marks connection = [.dropped]

/-- A connection that the loop judges, and that is not accepted again, is decided about. -/
theorem Pending.decided (hcounted : acceptor.Counted) (hlimit : acceptor.limit < UInt64.size)
    {connection : Nat} (hpending : acceptor.Pending connection (.judging connection))
    {later : List Event} (hlater : .accepted connection ∉ later) :
    Decided acceptor connection later := by
  have hready : acceptor.active.toNat < acceptor.limit → ∀ waiting,
      (∀ possible, .prepared possible ∉ waiting) →
        (acceptor.run (.judged :: waiting)).Pending connection (.preparing connection) := by
    intro hroom waiting hwaiting
    refine (hpending.passed hroom).run fun event hevent ↦ ?_
    cases event with
    | prepared possible => exact absurd hevent (hwaiting possible)
    | _ => rfl
  refine ⟨fun hfull ↦ ?_, ?_, ?_⟩
  · obtain ⟨hactive, hapart⟩ := hpending.refused hfull
    exact ⟨hactive, (hapart.run hlater).marks⟩
  · rintro hroom waiting rest rfl hwaiting
    have hrest : .accepted connection ∉ rest := fun hmem ↦
      hlater (List.mem_append_right _ (List.mem_cons_of_mem _ hmem))
    obtain ⟨hactive, hheld⟩ := (hready hroom waiting hwaiting).admitted (hcounted.run hlimit _)
      (by rwa [limit_run])
    refine ⟨hactive, ?_⟩
    rw [← List.cons_append, run_append]
    exact (hheld.run hrest).imp Held.marks Apart.marks
  · rintro hroom waiting rest rfl hwaiting
    have hrest : .accepted connection ∉ rest := fun hmem ↦
      hlater (List.mem_append_right _ (List.mem_cons_of_mem _ hmem))
    obtain ⟨hactive, hapart⟩ := (hready hroom waiting hwaiting).dropped
    refine ⟨hactive, ?_⟩
    rw [← List.cons_append, run_append]
    exact (hapart.run hrest).marks

/-- What can be relied on after any events. -/
structure Accountable (limit : Nat) (events : List Event) : Prop where
  /-- The counter is the number of guards. -/
  counts : (after limit events).active.toNat = (after limit events).guards.length
  /-- A connection has the guards that were made for it and have not been dropped. -/
  guarded : ∀ connection, ((after limit events).marks connection).count .admitted =
    (after limit events).guards.count connection +
      ((after limit events).marks connection).count .released
  bounded : (after limit events).active.toNat ≤ limit
  /-- Dropping a guard takes one off the counter. -/
  releases : ∀ connection ∈ (after limit events).guards,
    ((after limit events).release connection).active.toNat + 1 =
      (after limit events).active.toNat
  /-- A connection is decided about if no shutdown is asked for before the loop looks. -/
  decides : ∀ before connection waiting between later,
    events = before ++
      .accepted connection :: (waiting ++ .looked :: (between ++ .judged :: later)) →
    (after limit before).stage = .accepting → .shutdownRequested ∉ before ++ waiting →
    .looked ∉ waiting → .judged ∉ between →
    .accepted connection ∉ before ++ (waiting ++ (between ++ later)) →
    Decided (after limit (before ++ .accepted connection :: (waiting ++ .looked :: between)))
      connection later
  /-- A connection that is refused is told so in one `ERR` line. -/
  tells : ∀ outlet : Outlet, outlet.Obliging → (SocketServer.refuse outlet).octets =
    outlet.octets ++ Utf8.encode "ERR 251658241 too many connections <assuan>\n"
  /-- A passing failure to accept changes nothing, whatever the others do before the loop looks. -/
  skips : ∀ before cause waiting later,
    events = before ++ .acceptFailed cause :: (waiting ++ .looked :: later) →
    cause.isFatal = false → (after limit before).stage = .accepting →
    .shutdownRequested ∉ before ++ waiting → .looked ∉ waiting →
    (∀ event ∈ waiting, Stage.accepting.awaits event = false) →
    after limit events = after limit (before ++ (waiting ++ later))
  /-- A shutdown that is asked for before the loop looks ends it, whatever the accept has given. -/
  stops : ∀ before event waiting later,
    events = before ++ event :: (waiting ++ .looked :: later) →
    (after limit before).stage = .accepting → Stage.accepting.awaits event →
    .shutdownRequested ∈ before ++ waiting → .looked ∉ waiting →
    (after limit events).result? = some (.ok ())
  /-- Nothing becomes of a connection that has been accepted then. -/
  ignores : ∀ before connection waiting later,
    events = before ++ .accepted connection :: (waiting ++ later) →
    .shutdownRequested ∈ before ++ waiting → .looked ∉ waiting →
    .accepted connection ∉ before ++ (waiting ++ later) →
    connection ∉ (after limit events).guards ∧ (after limit events).marks connection = []

theorem counted_start (limit : Nat) : (start limit).Counted :=
  ⟨rfl, Nat.zero_le _, nofun, nofun⟩

theorem balanced_start (limit : Nat) : (start limit).Balanced :=
  fun _ ↦ rfl

theorem apart_start (limit connection : Nat) : (start limit).Apart connection [] :=
  ⟨nofun, List.not_mem_nil, rfl⟩

theorem stopping_after (limit : Nat) (events : List Event) :
    (after limit events).stopping ↔ .shutdownRequested ∈ events := by
  rw [after, stopping_run]
  exact or_iff_right Bool.false_ne_true

theorem stopping_eq_false (limit : Nat) {events : List Event}
    (hrequest : .shutdownRequested ∉ events) : (after limit events).stopping = false :=
  Bool.eq_false_of_not_eq_true (mt (stopping_after limit events).1 hrequest)

theorem stopping_of_requested (limit : Nat) (event : Event) {before waiting : List Event}
    (hrequest : .shutdownRequested ∈ before ++ waiting) :
    (after limit (before ++ event :: waiting)).stopping :=
  (stopping_after limit _).2 <| List.mem_append.2 <|
    (List.mem_append.1 hrequest).imp_right (List.mem_cons_of_mem event)

theorem after_append (limit : Nat) (events later : List Event) :
    after limit (events ++ later) = (after limit events).run later :=
  run_append _ _ _

theorem after_append_cons (limit : Nat) (before : List Event) (event : Event)
    (waiting later : List Event) :
    after limit (before ++ event :: (waiting ++ later)) =
      (after limit (before ++ event :: waiting)).run later := by
  rw [← List.cons_append, ← List.append_assoc, after_append]

/-- The loop keeps its count and its limit in whatever order things happen. The limit is a machine
word like the counter. -/
theorem accountable (limit : Nat) (hlimit : limit < UInt64.size) (events : List Event) :
    Accountable limit events := by
  have hcounted : ∀ events, (after limit events).Counted :=
    fun events ↦ (counted_start limit).run hlimit events
  have hsize : ∀ events, (after limit events).limit = limit :=
    fun events ↦ limit_run _ events
  refine
    { counts := (hcounted events).active
      guarded := (balanced_start limit).run (counted_start limit) hlimit events
      bounded := ?_
      releases := fun connection hguard ↦ (hcounted events).toNat_release hguard
      decides := ?_
      tells := fun outlet hobliging ↦ SocketServer.octets_refuse hobliging
      skips := ?_
      stops := ?_
      ignores := ?_ }
  · rw [(hcounted events).active]
    exact (hcounted events).bounded.trans_eq (hsize events)
  · rintro before connection waiting between later rfl hstage hrequest hwaiting hbetween hnew
    simp only [List.mem_append, not_or] at hnew
    have hlooking : (after limit (before ++ .accepted connection :: waiting)).Pending connection
        (.looking (.ok connection)) := by
      rw [after_append, run_cons]
      exact (((apart_start limit connection).run hnew.1).accepted hstage).run fun event hevent ↦
        awaits_looking (ne_of_mem_of_not_mem hevent hwaiting)
    have hgoing : (after limit (before ++ .accepted connection :: waiting)).stopping = false :=
      stopping_eq_false limit (by simpa using hrequest)
    refine Pending.decided (hcounted _) ((hsize _).trans_lt hlimit) ?_ hnew.2.2.2
    rw [after_append_cons, run_cons]
    refine (hlooking.taken hgoing).run fun event hevent ↦ ?_
    cases event with
    | judged => exact absurd hevent hbetween
    | _ => rfl
  · rintro before cause waiting later rfl hcause hstage hrequest hwaiting hquiet
    have hgoing := stopping_eq_false limit hrequest
    rw [after_append] at hgoing
    rw [List.append_cons waiting, ← List.cons_append, after_append, run_append,
      run_of_passing hcause hstage hquiet hwaiting hgoing, after_append, run_append]
  · rintro before event waiting later rfl hstage hevent hrequest hwaiting
    obtain ⟨accepted, hlooking⟩ := looking_of_awaits hstage hevent
    have hwaited : (after limit (before ++ event :: waiting)).stage = .looking accepted := by
      rw [after_append, run_cons, stage_run, hlooking]
      exact fun event hevent ↦ hlooking ▸ awaits_looking (ne_of_mem_of_not_mem hevent hwaiting)
    have hstopped : ((after limit (before ++ event :: waiting)).step .looked).stage =
        .stopped (.ok ()) := by
      rw [step_looked hwaited, if_pos (stopping_of_requested limit event hrequest)]
    rw [after_append_cons, run_cons]
    exact result_of_stopped hstopped later
  · rintro before connection waiting later rfl hrequest hwaiting hnew
    simp only [List.mem_append, not_or] at hnew
    have hignored :
        (after limit (before ++ .accepted connection :: waiting)).Ignored connection := by
      refine ⟨stopping_of_requested limit _ hrequest, ?_⟩
      rw [after_append, run_cons]
      exact ((apart_start limit connection).run hnew.1).offered.imp (·.run hnew.2.1)
        (·.run fun event hevent ↦ awaits_looking (ne_of_mem_of_not_mem hevent hwaiting))
    rw [after_append_cons]
    rcases (hignored.run hnew.2.2).untaken with hapart | hpending
    · exact ⟨hapart.guards, hapart.marks⟩
    · exact ⟨hpending.guards, hpending.marks⟩

/-- A server with room for one connection, which is taken when the second one comes. The first ends
in a panic; the third is counted but gets no thread; a shutdown is asked for when the fourth has
been accepted, and ends the loop. -/
theorem accountable_of_full :
    let before : List Event := [.accepted 0, .looked, .judged, .prepared true, .spawned true]
    let later : List Event :=
      [.ended 0 .panicked, .acceptFailed ⟨.connectionReset, "reset"⟩, .looked, .accepted 2, .looked,
        .judged, .prepared true, .spawned false]
    let last : List Event := .accepted 3 :: ([.shutdownRequested] ++ .looked :: [])
    let events := before ++ .accepted 1 :: ([] ++ .looked :: ([] ++ .judged :: (later ++ last)))
    1 < UInt64.size ∧ (after 1 events).active.toNat = (after 1 events).guards.length ∧
      (after 1 events).guards = [] ∧ (after 1 events).marks 0 = [.admitted, .released] ∧
      (after 1 events).marks 1 = [.refused] ∧ (after 1 events).marks 2 = [.admitted, .released] ∧
      (after 1 events).marks 3 = [] ∧ (after 1 events).result? = some (.ok ()) := by
  intro before later last events
  have hlimit : 1 < UInt64.size := by decide
  have haccountable := accountable 1 hlimit events
  have hstage : (after 1 before).stage = .accepting := by
    simp [after, before, run, start, step, enroll, note, Stage.afterAccept]
  have hfull : 1 ≤ (after 1 (before ++ [.accepted 1, .looked])).active.toNat := by decide +kernel
  have hrefused := (haccountable.decides before 1 [] [] (later ++ last) rfl hstage (by decide)
    List.not_mem_nil List.not_mem_nil (by decide)).refused hfull
  rw [← after_append] at hrefused
  -- the events before the last connection is accepted
  let earlier : List Event := before ++ .accepted 1 :: .looked :: .judged :: later
  have hready : (after 1 earlier).stage = .accepting := by
    simp [after, earlier, before, later, run, start, step, enroll, release, note, isServing,
      Stage.afterAccept, IoError.isFatal]
  have hignored := haccountable.ignores earlier 3 [.shutdownRequested] [.looked] rfl (by decide)
    (by decide) (by decide)
  have hended := haccountable.stops earlier (.accepted 3) [.shutdownRequested] [] rfl hready rfl
    (by decide) (by decide)
  exact ⟨hlimit, haccountable.counts, by decide +kernel, by decide +kernel, hrefused.2,
    by decide +kernel, hignored.2, hended⟩

/-- That no shutdown is asked for before a connection is accepted does not suffice. There is room
for this one and its time limits can be set, but a shutdown is asked for before the loop looks. The
loop then ends without having refused, admitted or dropped it. -/
theorem undecided_of_requested_meanwhile :
    let events : List Event :=
      [.accepted 0, .shutdownRequested, .looked, .judged, .prepared true, .spawned true]
    (after 1 []).stage = .accepting ∧ (after 1 [.accepted 0]).stopping = false ∧
      (after 1 [.accepted 0]).active.toNat < 1 ∧
      ¬ Decided (after 1 [.accepted 0, .shutdownRequested, .looked]) 0
        [.prepared true, .spawned true] ∧
      (after 1 events).marks 0 = [] ∧ (after 1 events).guards = [] ∧
      (after 1 events).result? = some (.ok ()) := by
  intro events
  have hmarks : (after 1 events).marks 0 = [] := by decide
  refine ⟨rfl, rfl, by decide, fun hdecided ↦ ?_, hmarks, rfl, rfl⟩
  have hadmitted := (hdecided.admitted (by decide) [] [.spawned true] rfl (by simp)).2
  rcases hadmitted with hcounted | hreleased
  · exact List.cons_ne_nil _ _ (hcounted.symm.trans hmarks)
  · exact List.cons_ne_nil _ _ (hreleased.symm.trans hmarks)

end Acceptor

end LineProtocol
