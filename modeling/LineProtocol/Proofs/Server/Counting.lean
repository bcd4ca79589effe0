import LineProtocol.Server.Acceptor
import Mathlib.Tactic

/-!
# The count of live connections

An acceptor counts the connections that it admits, and threads that end take them off the count at
any moment. `Acceptor.Change` says what an event can change, and everything else is read off it:
the counter is the number of guards and stays within the limit (`Change.counted`), and the guards of
a connection are those made for it and not dropped (`Change.balanced`). Both hold along a run by
induction.
-/

set_option autoImplicit false

namespace LineProtocol

namespace Acceptor

/-! ### What an event can change -/

/-- Whether the loop is waiting for an event. -/
def Stage.awaits : Stage → Event → Bool
  | .accepting, .accepted _ => true
  | .accepting, .acceptFailed _ => true
  | .looking _, .looked => true
  | .judging _, .judged => true
  | .preparing _, .prepared _ => true
  | .spawning _, .spawned _ => true
  | _, _ => false

/-- What an event changes, if it fits. -/
inductive Change (acceptor : Acceptor) : Event → Acceptor → Prop where
  | unfit (event : Event) (hevent : event ≠ .shutdownRequested) : Change acceptor event acceptor
  | accepted (connection : Nat) (hstage : acceptor.stage = .accepting) :
      Change acceptor (.accepted connection) { acceptor with stage := .looking (.ok connection) }
  | failed (cause : IoError) (hstage : acceptor.stage = .accepting) :
      Change acceptor (.acceptFailed cause) { acceptor with stage := .looking (.error cause) }
  | taken (connection : Nat) (hgoing : acceptor.stopping = false)
      (hstage : acceptor.stage = .looking (.ok connection)) :
      Change acceptor .looked { acceptor with stage := .judging connection }
  | skipped (cause : IoError) (hgoing : acceptor.stopping = false)
      (hpassing : cause.isFatal = false) (hstage : acceptor.stage = .looking (.error cause)) :
      Change acceptor .looked { acceptor with stage := .accepting }
  | broken (cause : IoError) (hgoing : acceptor.stopping = false) (hfatal : cause.isFatal)
      (hstage : acceptor.stage = .looking (.error cause)) :
      Change acceptor .looked { acceptor with stage := .stopped (.error (.io cause)) }
  | stopped (accepted : Except IoError Nat) (hstopping : acceptor.stopping)
      (hstage : acceptor.stage = .looking accepted) :
      Change acceptor .looked { acceptor with stage := .stopped (.ok ()) }
  | refused (connection : Nat) (hfull : acceptor.limit ≤ acceptor.active.toNat)
      (hstage : acceptor.stage = .judging connection) :
      Change acceptor .judged { acceptor.note connection .refused with stage := .accepting }
  | passed (connection : Nat) (hroom : acceptor.active.toNat < acceptor.limit)
      (hstage : acceptor.stage = .judging connection) :
      Change acceptor .judged { acceptor with stage := .preparing connection }
  | admitted (connection : Nat) (hstage : acceptor.stage = .preparing connection) :
      Change acceptor (.prepared true)
        { acceptor.enroll connection with stage := .spawning connection }
  | dropped (connection : Nat) (hstage : acceptor.stage = .preparing connection) :
      Change acceptor (.prepared false)
        { acceptor.note connection .dropped with stage := .accepting }
  | served (connection : Nat) (hstage : acceptor.stage = .spawning connection) :
      Change acceptor (.spawned true) { acceptor with stage := .accepting }
  | unserved (connection : Nat) (hstage : acceptor.stage = .spawning connection) :
      Change acceptor (.spawned false)
        { acceptor.release connection with stage := .accepting }
  | ended (connection : Nat) (ending : Ending) (hserving : acceptor.isServing connection) :
      Change acceptor (.ended connection ending) (acceptor.release connection)
  | requested : Change acceptor .shutdownRequested { acceptor with stopping := true }

theorem change (acceptor : Acceptor) (event : Event) :
    acceptor.Change event (acceptor.step event) := by
  unfold step
  split
  case h_1 connection hstage => exact .accepted connection hstage
  case h_2 cause hstage => exact .failed cause hstage
  case h_3 accepted hstage =>
    split_ifs with hstopping
    · exact .stopped accepted hstopping hstage
    · have hgoing := Bool.eq_false_of_not_eq_true hstopping
      cases accepted with
      | ok connection => exact .taken connection hgoing hstage
      | error cause =>
        simp only [Stage.afterAccept]
        split_ifs with hfatal
        · exact .broken cause hgoing hfatal hstage
        · exact .skipped cause hgoing (Bool.eq_false_of_not_eq_true hfatal) hstage
  case h_4 connection hstage =>
    split_ifs with hfull
    · exact .refused connection hfull hstage
    · exact .passed connection (Nat.lt_of_not_le hfull) hstage
  case h_5 possible connection hstage =>
    cases possible with
    | true => exact .admitted connection hstage
    | false => exact .dropped connection hstage
  case h_6 possible connection hstage =>
    cases possible with
    | true => exact .served connection hstage
    | false => exact .unserved connection hstage
  case h_7 _ connection ending =>
    split_ifs with hserving
    · exact .ended connection ending hserving
    · exact .unfit _ nofun
  case h_8 => exact .requested
  case h_9 => exact .unfit _ (by assumption)

/-! ### The count -/

/-- The counter tells how many guards there are, and they are no more than the limit. -/
structure Counted (acceptor : Acceptor) : Prop where
  active : acceptor.active.toNat = acceptor.guards.length
  bounded : acceptor.guards.length ≤ acceptor.limit
  /-- There is room for a connection that was found within the limit. -/
  room : ∀ connection, acceptor.stage = .preparing connection →
    acceptor.guards.length < acceptor.limit
  /-- A connection whose thread is to be made has its guard. -/
  guarded : ∀ connection, acceptor.stage = .spawning connection → connection ∈ acceptor.guards

variable {acceptor : Acceptor}

/-- The counter has room for a connection that was found within the limit. -/
theorem Counted.toNat_enroll (hcounted : acceptor.Counted) (hlimit : acceptor.limit < UInt64.size)
    {connection : Nat} (hstage : acceptor.stage = .preparing connection) :
    (acceptor.enroll connection).active.toNat = acceptor.active.toNat + 1 := by
  have hroom := hcounted.room connection hstage
  rw [← hcounted.active] at hroom
  show (acceptor.active + 1).toNat = acceptor.active.toNat + 1
  rw [UInt64.toNat_add]
  exact Nat.mod_eq_of_lt (Nat.lt_of_le_of_lt hroom hlimit)

/-- The counter is not zero while there is a guard. -/
theorem Counted.toNat_release (hcounted : acceptor.Counted) {connection : Nat}
    (hguard : connection ∈ acceptor.guards) :
    (acceptor.release connection).active.toNat + 1 = acceptor.active.toNat := by
  have hsome : 1 ≤ acceptor.active.toNat := hcounted.active ▸ List.length_pos_of_mem hguard
  have hword : (1 : UInt64) ≤ acceptor.active := UInt64.le_iff_toNat_le.2 hsome
  show (acceptor.active - 1).toNat + 1 = acceptor.active.toNat
  rw [UInt64.toNat_sub_of_le _ _ hword]
  exact Nat.sub_add_cancel hsome

theorem isServing_iff {connection : Nat} :
    acceptor.isServing connection ↔
      connection ∈ acceptor.guards ∧ acceptor.stage ≠ .spawning connection := by
  unfold isServing
  rw [Bool.and_eq_true, List.contains_iff_mem]
  refine and_congr_right fun _ ↦ ?_
  cases acceptor.stage <;> simp

/-- Releasing a connection keeps the count, whatever the loop does next. -/
theorem Counted.release (hcounted : acceptor.Counted) {connection : Nat}
    (hguard : connection ∈ acceptor.guards) (stage : Stage)
    (hstage : ∀ newest, stage = .spawning newest → newest ∈ acceptor.guards.erase connection) :
    { acceptor.release connection with stage := stage }.Counted := by
  have hactive := hcounted.toNat_release hguard
  have hlength : (acceptor.release connection).guards.length + 1 = acceptor.guards.length :=
    List.length_erase_add_one hguard
  have hless : (acceptor.release connection).guards.length < acceptor.limit :=
    Nat.lt_of_succ_le (hlength.trans_le hcounted.bounded)
  exact
    { active := Nat.add_right_cancel (hactive.trans (hcounted.active.trans hlength.symm))
      bounded := Nat.le_of_lt hless
      room := fun _ _ ↦ hless
      guarded := hstage }

theorem Change.limit {event : Event} {next : Acceptor} (hchange : acceptor.Change event next) :
    next.limit = acceptor.limit := by
  cases hchange <;> rfl

/-- Every change keeps the count. -/
theorem Change.counted {event : Event} {next : Acceptor} (hchange : acceptor.Change event next)
    (hcounted : acceptor.Counted) (hlimit : acceptor.limit < UInt64.size) : next.Counted := by
  cases hchange with
  | unfit => exact hcounted
  | requested => exact ⟨hcounted.active, hcounted.bounded, hcounted.room, hcounted.guarded⟩
  | passed connection hroom hstage =>
    exact ⟨hcounted.active, hcounted.bounded, fun _ _ ↦ hcounted.active ▸ hroom, nofun⟩
  | admitted connection hstage =>
    have hlength : (acceptor.enroll connection).guards.length = acceptor.guards.length + 1 :=
      List.length_append
    refine ⟨?_, ?_, nofun, ?_⟩
    · exact (hcounted.toNat_enroll hlimit hstage).trans (hcounted.active ▸ hlength.symm)
    · exact hlength.trans_le (hcounted.room connection hstage)
    · rintro newest ⟨⟩
      exact List.mem_append_right _ (List.mem_singleton_self _)
  | unserved connection hstage =>
    exact hcounted.release (hcounted.guarded connection hstage) _ nofun
  | ended connection ending hserving =>
    obtain ⟨hguard, hother⟩ := isServing_iff.1 hserving
    refine hcounted.release hguard acceptor.stage fun newest hstage ↦ ?_
    have hne : newest ≠ connection := fun h ↦ hother (h ▸ hstage)
    exact (List.mem_erase_of_ne hne).2 (hcounted.guarded newest hstage)
  | _ => exact ⟨hcounted.active, hcounted.bounded, nofun, nofun⟩

theorem run_cons (acceptor : Acceptor) (event : Event) (later : List Event) :
    acceptor.run (event :: later) = (acceptor.step event).run later :=
  rfl

theorem run_append (acceptor : Acceptor) (events later : List Event) :
    acceptor.run (events ++ later) = (acceptor.run events).run later :=
  List.foldl_append

theorem limit_run (acceptor : Acceptor) (events : List Event) :
    (acceptor.run events).limit = acceptor.limit := by
  induction events generalizing acceptor with
  | nil => rfl
  | cons event later ih => exact (ih _).trans (acceptor.change event).limit

theorem Counted.run (hcounted : acceptor.Counted) (hlimit : acceptor.limit < UInt64.size)
    (events : List Event) : (acceptor.run events).Counted := by
  induction events generalizing acceptor with
  | nil => exact hcounted
  | cons event later ih =>
    have hchange := acceptor.change event
    exact ih (hchange.counted hcounted hlimit) (hchange.limit ▸ hlimit)

/-! ### What has become of each connection -/

/-- What has become of a connection so far. -/
def marks (acceptor : Acceptor) (connection : Nat) : List Mark :=
  (acceptor.log.filter (·.1 = connection)).map (·.2)

theorem marks_note (acceptor : Acceptor) (other connection : Nat) (mark : Mark) :
    (acceptor.note other mark).marks connection =
      acceptor.marks connection ++ if other = connection then [mark] else [] := by
  rw [marks, note, List.filter_append, List.map_append, ← marks]
  by_cases hsame : other = connection <;> simp [hsame]

theorem marks_note_of_ne {other connection : Nat} (hne : other ≠ connection) (mark : Mark) :
    (acceptor.note other mark).marks connection = acceptor.marks connection := by
  rw [marks_note, if_neg hne, List.append_nil]

/-- The guards of a connection are those that were made for it and not dropped. -/
def Balanced (acceptor : Acceptor) : Prop :=
  ∀ connection, (acceptor.marks connection).count .admitted =
    acceptor.guards.count connection + (acceptor.marks connection).count .released

theorem count_marks_note (acceptor : Acceptor) (other connection : Nat) (mark counted : Mark) :
    ((acceptor.note other mark).marks connection).count counted =
      (acceptor.marks connection).count counted +
        if other = connection ∧ mark = counted then 1 else 0 := by
  rw [marks_note, List.count_append]
  by_cases hsame : other = connection <;> by_cases hmark : mark = counted <;>
    simp [hsame, hmark]

theorem Balanced.note (hbalanced : acceptor.Balanced) (other : Nat) {mark : Mark}
    (hadmitted : mark ≠ .admitted) (hreleased : mark ≠ .released) :
    (acceptor.note other mark).Balanced := by
  intro connection
  rw [count_marks_note, count_marks_note, if_neg fun h ↦ hadmitted h.2,
    if_neg fun h ↦ hreleased h.2]
  exact hbalanced connection

theorem Balanced.release (hbalanced : acceptor.Balanced) {other : Nat}
    (hguard : other ∈ acceptor.guards) : (acceptor.release other).Balanced := by
  intro connection
  have hbefore := hbalanced connection
  show ((acceptor.note other .released).marks connection).count .admitted =
    (acceptor.guards.erase other).count connection +
      ((acceptor.note other .released).marks connection).count .released
  rw [count_marks_note, count_marks_note]
  by_cases hsame : other = connection
  · subst hsame
    have hsome : 0 < acceptor.guards.count other := List.count_pos_iff.2 hguard
    rw [List.count_erase_self]
    simp only [true_and, reduceCtorEq, if_false, if_true]
    omega
  · rw [List.count_erase_of_ne (Ne.symm hsame)]
    simpa [hsame] using hbefore

theorem Change.balanced {event : Event} {next : Acceptor} (hchange : acceptor.Change event next)
    (hguarded : ∀ connection, acceptor.stage = .spawning connection → connection ∈ acceptor.guards)
    (hbalanced : acceptor.Balanced) : next.Balanced := by
  cases hchange with
  | refused other hfull hstage => exact hbalanced.note other (by decide) (by decide)
  | dropped other hstage => exact hbalanced.note other (by decide) (by decide)
  | admitted other hstage =>
    intro connection
    have hbefore := hbalanced connection
    show ((acceptor.note other .admitted).marks connection).count .admitted =
      (acceptor.guards ++ [other]).count connection +
        ((acceptor.note other .admitted).marks connection).count .released
    rw [count_marks_note, count_marks_note, List.count_append, List.count_singleton]
    by_cases hsame : other = connection
    · simp only [hsame, true_and, reduceCtorEq, if_false, if_true, beq_self_eq_true]
      omega
    · simpa [hsame] using hbefore
  | unserved other hstage => exact hbalanced.release (hguarded other hstage)
  | ended other ending hserving => exact hbalanced.release (isServing_iff.1 hserving).1
  | _ => exact hbalanced

theorem Balanced.run (hbalanced : acceptor.Balanced) (hcounted : acceptor.Counted)
    (hlimit : acceptor.limit < UInt64.size) (events : List Event) :
    (acceptor.run events).Balanced := by
  induction events generalizing acceptor with
  | nil => exact hbalanced
  | cons event later ih =>
    have hchange := acceptor.change event
    exact ih (hchange.balanced hcounted.guarded hbalanced) (hchange.counted hcounted hlimit)
      (hchange.limit ▸ hlimit)

end Acceptor

end LineProtocol
