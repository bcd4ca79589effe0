import LineProtocol.Proofs.Duplex.Lane

/-!
# Duplex channels lose nothing

`Duplex.follow` carries out any operations on the two ends of a channel and keeps a record of what
they came to. A read takes its chunks one after another, and the other end can do something in
between; an operation `receive` is one such step, and `read` is the rest of the read, which returns.
A read that would have to wait is made again later.

`Lane.after` is what an operation does to the lane that one side reads. The law of an operation,
`perform_conserves`, is that what the lane held and what was written to it are together what was
read from it and what it holds then, as long as its reader is there. The law of a record,
`follow_conserves`, follows by induction, and so does what a channel remembers of the operations:
which ends are there (`lives_follow`), which writers (`writerOpen_follow`) and which time limits
(`givesUp_follow`). `Reliable` puts together what a living end can rely on, and
`reliable_of_not_dropped` says that it can.
-/

set_option autoImplicit false

namespace LineProtocol

/-! ### Ends -/

/-- The end across. -/
def Side.other : Side → Side
  | .left => .right
  | .right => .left

@[simp]
theorem Side.other_other (side : Side) : side.other.other = side := by
  cases side <;> rfl

@[simp]
theorem Side.other_ne (side : Side) : side.other ≠ side := by
  cases side <;> exact nofun

theorem Side.eq_other {side writer : Side} (h : writer ≠ side) : writer = side.other := by
  cases side <;> cases writer <;> first | rfl | exact absurd rfl h

namespace Duplex

/-- Whether an end has not been dropped. -/
def lives (duplex : Duplex) (side : Side) : Bool :=
  (duplex.incoming side).readerOpen

variable (duplex : Duplex) (side : Side)

theorem incoming_withIncoming (reader : Side) (lane : Lane) :
    (duplex.withIncoming reader lane).incoming side =
      if reader = side then lane else duplex.incoming side := by
  cases reader <;> cases side <;> rfl

theorem withIncoming_incoming :
    duplex.withIncoming side (duplex.incoming side) = duplex := by
  cases side <;> rfl

theorem givesUp_withIncoming (reader : Side) (lane : Lane) :
    (duplex.withIncoming reader lane).givesUp side = duplex.givesUp side := by
  cases reader <;> cases side <;> rfl

/-- What an end writes is what the end across reads. -/
theorem write_eq (chunk : Bytes) :
    duplex.write side chunk =
      (match ((duplex.incoming side.other).write chunk).1 with
        | .ok count => .done count
        | .error cause => .failed cause,
      duplex.withIncoming side.other ((duplex.incoming side.other).write chunk).2) := by
  have hlane : duplex.outgoing side = duplex.incoming side.other := by cases side <;> rfl
  have hduplex : ∀ lane, duplex.withOutgoing side lane = duplex.withIncoming side.other lane := by
    cases side <;> exact fun _ ↦ rfl
  rw [write, hlane]
  simp only [hduplex]
  split <;> next h => simp only [h]

theorem read_eq (limit : Nat) :
    duplex.read side limit =
      (match ((duplex.incoming side).read limit).1 with
        | .octets taken => .done taken
        | .nothing => if duplex.givesUp side then .failed timedOut else .waiting,
      duplex.withIncoming side ((duplex.incoming side).read limit).2) := by
  rw [read]
  split <;> next h => simp only [h]

/-- A read of an end that nothing is there for. -/
theorem read_of_nil (limit : Nat) (hnone : (duplex.incoming side).octets = []) :
    (duplex.read side limit).1 =
      if (duplex.incoming side).writerOpen then
        if duplex.givesUp side then .failed timedOut else .waiting
      else .done [] := by
  rw [read_eq, Lane.read_of_nil _ limit hnone]
  cases (duplex.incoming side).writerOpen <;> rfl

/-- A read of an end that something is there for. -/
theorem read_of_ne_nil (limit : Nat) (hsome : (duplex.incoming side).octets ≠ []) :
    ∃ taken, (duplex.read side limit).1 = .done taken ∧ taken <+: (duplex.incoming side).octets ∧
      taken.length ≤ limit ∧ (0 < limit → taken ≠ []) := by
  obtain ⟨taken, next, hread, hsplit, hlength, hne⟩ := Lane.read_of_ne_nil _ limit hsome
  rw [read_eq, hread]
  exact ⟨taken, rfl, ⟨next.octets, hsplit.symm⟩, hlength, hne⟩

variable (limit : Nat)

theorem read_eq_done_nil_iff (hlimit : 0 < limit) :
    (duplex.read side limit).1 = .done [] ↔
      (duplex.incoming side).octets = [] ∧ ¬(duplex.incoming side).writerOpen := by
  by_cases hnone : (duplex.incoming side).octets = []
  · rw [read_of_nil duplex side limit hnone]
    cases (duplex.incoming side).writerOpen <;> cases duplex.givesUp side <;> simp [hnone]
  · obtain ⟨taken, hread, -, -, hsome⟩ := read_of_ne_nil duplex side limit hnone
    simp [hread, hnone, hsome hlimit]

theorem read_eq_failed_iff (cause : IoError) :
    (duplex.read side limit).1 = .failed cause ↔
      cause = timedOut ∧ (duplex.incoming side).octets = [] ∧ duplex.givesUp side = true ∧
        (duplex.incoming side).writerOpen := by
  by_cases hnone : (duplex.incoming side).octets = []
  · rw [read_of_nil duplex side limit hnone]
    cases (duplex.incoming side).writerOpen <;> cases duplex.givesUp side <;>
      simp [hnone, eq_comm]
  · obtain ⟨taken, hread, -⟩ := read_of_ne_nil duplex side limit hnone
    simp [hread, hnone]

theorem read_eq_waiting_iff :
    (duplex.read side limit).1 = .waiting ↔
      (duplex.incoming side).octets = [] ∧ duplex.givesUp side = false ∧
        (duplex.incoming side).writerOpen := by
  by_cases hnone : (duplex.incoming side).octets = []
  · rw [read_of_nil duplex side limit hnone]
    cases (duplex.incoming side).writerOpen <;> cases duplex.givesUp side <;> simp [hnone]
  · obtain ⟨taken, hread, -⟩ := read_of_ne_nil duplex side limit hnone
    simp [hread, hnone]

/-! ### Operations -/

/-- An operation on one of the ends. A read can receive chunks while the end across goes on; it is
carried out when it returns. -/
inductive Operation where
  | write (side : Side) (chunk : Bytes)
  /-- A read under way receives a chunk. -/
  | receive (side : Side)
  | read (side : Side) (limit : Nat)
  | shutdown (side : Side)
  | setTimeout (side : Side) (givesUp : Bool)
  | drop (side : Side)
  deriving DecidableEq

/-- The end that is operated on. -/
def Operation.caller : Operation → Side
  | .write side _ => side
  | .receive side => side
  | .read side _ => side
  | .shutdown side => side
  | .setTimeout side _ => side
  | .drop side => side

/-- What an operation came to. -/
inductive Outcome where
  | written (result : Result Nat)
  | read (result : Result Bytes)
  | done
  /-- The end was gone already. -/
  | gone

/-- Carries out an operation of a living end. -/
def act : Operation → Outcome × Duplex
  | .write side chunk => (.written (duplex.write side chunk).1, (duplex.write side chunk).2)
  | .receive side => (.done, duplex.withIncoming side (duplex.incoming side).received)
  | .read side limit => (.read (duplex.read side limit).1, (duplex.read side limit).2)
  | .shutdown side => (.done, duplex.shutdown side)
  | .setTimeout side givesUp => (.done, duplex.setTimeout side givesUp)
  | .drop side => (.done, duplex.drop side)

/-- Carries out an operation, if its end is still there. -/
def perform (operation : Operation) : Outcome × Duplex :=
  if duplex.lives operation.caller then duplex.act operation else (.gone, duplex)

/-- Carries out operations one after another, and records what they came to. -/
def follow (duplex : Duplex) : List Operation → List (Operation × Outcome) × Duplex
  | [] => ([], duplex)
  | operation :: later =>
    let (outcome, next) := duplex.perform operation
    ((operation, outcome) :: (next.follow later).1, (next.follow later).2)

/-- The octets that an operation wrote from a side. -/
def written (side : Side) : Operation × Outcome → Bytes
  | (.write writer chunk, .written (.done count)) =>
    if writer = side then chunk.take count else []
  | _ => []

/-- The octets that an operation gave to a side. -/
def given (side : Side) : Operation × Outcome → Bytes
  | (.read reader _, .read (.done taken)) => if reader = side then taken else []
  | _ => []

/-- Whether reads of a side give up after an operation. -/
def Operation.timeout (side : Side) (known : Bool) : Operation → Bool
  | .setTimeout caller givesUp => if caller = side then givesUp else known
  | _ => known

end Duplex

/-- What an operation of a living end does to the lane that a side reads. -/
def Lane.after (lane : Lane) (side : Side) : Duplex.Operation → Lane
  | .write writer chunk => if writer = side then lane else (lane.write chunk).2
  | .receive reader => if reader = side then lane.received else lane
  | .read reader limit => if reader = side then (lane.read limit).2 else lane
  | .shutdown writer => if writer = side then lane else { lane with writerOpen := false }
  | .setTimeout _ _ => lane
  | .drop dropped =>
    if dropped = side then { lane.emptied with readerOpen := false }
    else { lane with writerOpen := false }

theorem Lane.after_readerOpen (lane : Lane) (side : Side) (operation : Duplex.Operation) :
    (lane.after side operation).readerOpen ↔ lane.readerOpen ∧ operation ≠ .drop side := by
  cases operation with
  | drop dropped => by_cases hside : dropped = side <;> simp [after, hside]
  | _ => simp [after, apply_ite Lane.readerOpen]

theorem Lane.after_writerOpen (lane : Lane) (side : Side) (operation : Duplex.Operation) :
    (lane.after side operation).writerOpen ↔ lane.writerOpen ∧
      operation ≠ .shutdown side.other ∧ operation ≠ .drop side.other := by
  cases operation with
  | shutdown writer =>
    by_cases hside : writer = side
    · simp [after, hside, (Side.other_ne side).symm]
    · simp [after, Side.eq_other hside]
  | drop dropped =>
    by_cases hside : dropped = side
    · simp [after, hside, (Side.other_ne side).symm, emptied]
    · simp [after, Side.eq_other hside]
  | _ => simp [after, apply_ite Lane.writerOpen]

namespace Duplex

variable (duplex : Duplex) (side : Side)

theorem incoming_act (operation : Operation) :
    (duplex.act operation).2.incoming side = (duplex.incoming side).after side operation := by
  cases operation with
  | write writer chunk =>
    simp only [act, write_eq, incoming_withIncoming, Lane.after]
    cases writer <;> cases side <;> rfl
  | receive reader =>
    simp only [act, incoming_withIncoming, Lane.after]
    split_ifs with hside
    · rw [hside]
    · rfl
  | read reader limit =>
    simp only [act, read_eq, incoming_withIncoming, Lane.after]
    split_ifs with hside
    · rw [hside]
    · rfl
  | shutdown writer => cases writer <;> cases side <;> rfl
  | setTimeout caller givesUp => cases caller <;> cases side <;> rfl
  | drop dropped => cases dropped <;> cases side <;> rfl

theorem written_of_ne {writer side : Side} (h : writer ≠ side) (chunk : Bytes)
    (outcome : Outcome) : written side (.write writer chunk, outcome) = [] := by
  unfold written
  grind

theorem given_of_ne {reader side : Side} (h : reader ≠ side) (limit : Nat) (outcome : Outcome) :
    given side (.read reader limit, outcome) = [] := by
  unfold given
  grind

theorem written_write (chunk : Bytes) :
    written side.other (.write side.other chunk, (duplex.act (.write side.other chunk)).1) =
      match ((duplex.incoming side).write chunk).1 with
      | .ok count => chunk.take count
      | .error _ => [] := by
  rw [act, write_eq, Side.other_other]
  cases ((duplex.incoming side).write chunk).1 with
  | ok count => exact if_pos rfl
  | error cause => rfl

theorem given_read (limit : Nat) :
    given side (.read side limit, (duplex.act (.read side limit)).1) =
      ((duplex.incoming side).read limit).1.given := by
  rw [act, read_eq]
  cases ((duplex.incoming side).read limit).1 with
  | octets taken => exact if_pos rfl
  | nothing => cases duplex.givesUp side <;> rfl

variable {duplex side}

/-- As long as its reader is there, what a lane held and what was written to it are what was read
from it and what it holds now. -/
theorem act_conserves {operation : Operation} (hkept : operation ≠ .drop side) :
    (duplex.incoming side).octets ++ written side.other (operation, (duplex.act operation).1) =
      given side (operation, (duplex.act operation).1) ++
        ((duplex.act operation).2.incoming side).octets := by
  rw [incoming_act]
  cases operation with
  | write writer chunk =>
    by_cases hside : writer = side
    · subst hside
      rw [written_of_ne (Side.other_ne writer).symm, Lane.after, if_pos rfl, List.append_nil]
      rfl
    · obtain rfl := Side.eq_other hside
      rw [written_write, Lane.after, if_neg hside]
      by_cases hopen : (duplex.incoming side).writerOpen ∧ (duplex.incoming side).readerOpen
      · rw [Lane.write_of_open _ chunk hopen.1 hopen.2]
        simp [Lane.octets, Lane.rest, given]
      · obtain ⟨cause, -, hwrite⟩ := Lane.write_of_closed (duplex.incoming side) chunk (by grind)
        rw [hwrite]
        simp only [List.append_nil]
        rfl
  | receive reader =>
    rw [Lane.after, apply_ite Lane.octets, Lane.octets_received, ite_self]
    exact List.append_nil _
  | read reader limit =>
    by_cases hside : reader = side
    · subst hside
      rw [given_read, Lane.after, if_pos rfl, ← Lane.read_conserves]
      exact List.append_nil _
    · rw [Lane.after, if_neg hside, given_of_ne hside]
      exact List.append_nil _
  | shutdown writer =>
    rw [Lane.after]
    split_ifs <;> exact List.append_nil _
  | setTimeout caller givesUp => exact List.append_nil _
  | drop dropped =>
    rw [Lane.after, if_neg fun h ↦ hkept (congrArg Operation.drop h)]
    exact List.append_nil _

theorem perform_of_gone {operation : Operation} (hgone : ¬duplex.lives operation.caller) :
    duplex.perform operation = (.gone, duplex) :=
  if_neg hgone

theorem perform_conserves (duplex : Duplex) {operation : Operation}
    (hkept : operation ≠ .drop side) :
    (duplex.incoming side).octets ++ written side.other (operation, (duplex.perform operation).1) =
      given side (operation, (duplex.perform operation).1) ++
        ((duplex.perform operation).2.incoming side).octets := by
  by_cases hcaller : duplex.lives operation.caller
  · rw [perform, if_pos hcaller]
    exact act_conserves hkept
  · rw [perform_of_gone hcaller]
    simp [written, given]

theorem lives_perform (operation : Operation) :
    (duplex.perform operation).2.lives side ↔ duplex.lives side ∧ operation ≠ .drop side := by
  by_cases hcaller : duplex.lives operation.caller
  · rw [perform, if_pos hcaller, lives, incoming_act, Lane.after_readerOpen, lives]
  · rw [perform_of_gone hcaller]
    exact ⟨fun hlives ↦ ⟨hlives, fun hdrop ↦ hcaller (hdrop ▸ hlives)⟩, And.left⟩

/-- A dropped end does not write either. -/
def Orderly (duplex : Duplex) : Prop :=
  ∀ side, ¬duplex.lives side → ¬(duplex.incoming side.other).writerOpen

theorem writerOpen_perform (horderly : duplex.Orderly) (operation : Operation) :
    ((duplex.perform operation).2.incoming side).writerOpen ↔
      (duplex.incoming side).writerOpen ∧ operation ≠ .shutdown side.other ∧
        operation ≠ .drop side.other := by
  by_cases hcaller : duplex.lives operation.caller
  · rw [perform, if_pos hcaller, incoming_act, Lane.after_writerOpen]
  · rw [perform_of_gone hcaller]
    have hclosed := horderly _ hcaller
    refine ⟨fun hopen ↦ ⟨hopen, ?_, ?_⟩, And.left⟩
    all_goals
      rintro rfl
      rw [Operation.caller, Side.other_other] at hclosed
      exact hclosed hopen

theorem orderly_perform (horderly : duplex.Orderly) (operation : Operation) :
    (duplex.perform operation).2.Orderly := by
  intro side hgone hopen
  rw [writerOpen_perform horderly, Side.other_other] at hopen
  rw [lives_perform] at hgone
  exact horderly side (fun hlives ↦ hgone ⟨hlives, hopen.2.2⟩) hopen.1

theorem givesUp_act (operation : Operation) :
    (duplex.act operation).2.givesUp side = operation.timeout side (duplex.givesUp side) := by
  cases operation with
  | write writer chunk => rw [act, write_eq, givesUp_withIncoming]; rfl
  | receive reader => exact givesUp_withIncoming ..
  | read reader limit => rw [act, read_eq, givesUp_withIncoming]; rfl
  | shutdown writer => cases writer <;> cases side <;> rfl
  | setTimeout caller givesUp => cases caller <;> cases side <;> rfl
  | drop dropped => cases dropped <;> cases side <;> rfl

theorem givesUp_perform (hlives : duplex.lives side) (operation : Operation) :
    (duplex.perform operation).2.givesUp side = operation.timeout side (duplex.givesUp side) := by
  by_cases hcaller : duplex.lives operation.caller
  · rw [perform, if_pos hcaller, givesUp_act]
  · rw [perform_of_gone hcaller]
    cases operation with
    | setTimeout caller givesUp =>
      have hside : caller ≠ side := fun hside ↦ hcaller (by rwa [Operation.caller, hside])
      exact (if_neg hside).symm
    | _ => rfl

/-! ### Records -/

theorem lives_follow (operations : List Operation) :
    (duplex.follow operations).2.lives side ↔ duplex.lives side ∧ .drop side ∉ operations := by
  induction operations generalizing duplex with
  | nil => simp [follow]
  | cons operation later ih =>
    simp only [follow, ih, lives_perform, List.mem_cons, not_or, and_assoc, ne_comm, Ne]

theorem writerOpen_follow (horderly : duplex.Orderly) (operations : List Operation) :
    ((duplex.follow operations).2.incoming side).writerOpen ↔ (duplex.incoming side).writerOpen ∧
      .shutdown side.other ∉ operations ∧ .drop side.other ∉ operations := by
  induction operations generalizing duplex with
  | nil => simp [follow]
  | cons operation later ih =>
    rw [follow, ih (orderly_perform horderly operation), writerOpen_perform horderly]
    grind

theorem givesUp_follow (hlives : duplex.lives side) {operations : List Operation}
    (hkept : .drop side ∉ operations) :
    (duplex.follow operations).2.givesUp side =
      operations.foldl (Operation.timeout side) (duplex.givesUp side) := by
  induction operations generalizing duplex with
  | nil => rfl
  | cons operation later ih =>
    rw [List.mem_cons, not_or] at hkept
    rw [follow, ih (lives_perform operation |>.2 ⟨hlives, Ne.symm hkept.1⟩) hkept.2,
      givesUp_perform hlives, List.foldl_cons]

theorem follow_conserves (duplex : Duplex) {operations : List Operation}
    (hkept : .drop side ∉ operations) :
    (duplex.incoming side).octets ++
        (duplex.follow operations).1.flatMap (written side.other) =
      (duplex.follow operations).1.flatMap (given side) ++
        ((duplex.follow operations).2.incoming side).octets := by
  induction operations generalizing duplex with
  | nil => simp [follow]
  | cons operation later ih =>
    rw [List.mem_cons, not_or] at hkept
    have hnext := ih (duplex.perform operation).2 hkept.2
    have hstep := perform_conserves duplex (Ne.symm hkept.1)
    rw [follow, List.flatMap_cons, List.flatMap_cons, ← List.append_assoc, hstep,
      List.append_assoc, hnext, List.append_assoc]

/-! ### What an end can rely on -/

/-- The record of operations on a fresh pair. -/
def record (operations : List Operation) : List (Operation × Outcome) :=
  (fresh.follow operations).1

/-- The pair after operations. -/
def reached (operations : List Operation) : Duplex :=
  (fresh.follow operations).2

/-- All that was written from a side. -/
def sent (operations : List Operation) (side : Side) : Bytes :=
  (record operations).flatMap (written side)

/-- All that reads gave to a side. -/
def delivered (operations : List Operation) (side : Side) : Bytes :=
  (record operations).flatMap (given side)

/-- A side has stopped writing. -/
def Stopped (operations : List Operation) (side : Side) : Prop :=
  .shutdown side ∈ operations ∨ .drop side ∈ operations

/-- Whether a time limit is set for the reads of a side. -/
def limited (operations : List Operation) (side : Side) : Bool :=
  operations.foldl (Operation.timeout side) false

/-- What a side can rely on after operations on the two ends. -/
structure Reliable (operations : List Operation) (side : Side) : Prop where
  /-- What the end across wrote is what reads gave, what is left of the chunk received last, and the
  chunks behind it. -/
  fifo : sent operations side.other = delivered operations side ++
    (((reached operations).incoming side).rest ++
      ((reached operations).incoming side).queue.flatten)
  /-- A read finds the end of file once everything is delivered and the end across has stopped. -/
  finishes : ∀ limit, 0 < limit → (((reached operations).read side limit).1 = .done [] ↔
    delivered operations side = sent operations side.other ∧ Stopped operations side.other)
  /-- It fails if there is nothing to read and it may not wait for more. -/
  fails : ∀ limit cause, ((reached operations).read side limit).1 = .failed cause ↔
    cause = timedOut ∧ delivered operations side = sent operations side.other ∧
      limited operations side = true ∧ ¬Stopped operations side.other
  /-- It waits if there is nothing to read and it may. -/
  waits : ∀ limit, ((reached operations).read side limit).1 = .waiting ↔
    delivered operations side = sent operations side.other ∧
      limited operations side = false ∧ ¬Stopped operations side.other
  /-- It gives the octets that come next if there are any. -/
  reads : ∀ limit, 0 < limit → delivered operations side ≠ sent operations side.other →
    ∃ taken, ((reached operations).read side limit).1 = .done taken ∧ taken ≠ [] ∧
      taken.length ≤ limit ∧ delivered operations side ++ taken <+: sent operations side.other
  /-- Whatever it comes to, it gives what it takes away. -/
  keeps : ∀ limit, ((reached operations).incoming side).octets =
    given side (.read side limit, .read ((reached operations).read side limit).1) ++
      (((reached operations).read side limit).2.incoming side).octets
  /-- A write fails once this side has shut down or the other is dropped, and changes nothing. -/
  refuses : ∀ chunk,
    (.shutdown side ∈ operations ∨ .drop side.other ∈ operations) → ∃ cause : IoError,
      cause.kind = .brokenPipe ∧
        (reached operations).write side chunk = (.failed cause, reached operations)
  /-- Otherwise it queues the chunk. -/
  writes : ∀ chunk, ¬(.shutdown side ∈ operations ∨ .drop side.other ∈ operations) →
    ((reached operations).write side chunk).1 = .done chunk.length ∧
      (((reached operations).write side chunk).2.incoming side.other).queue =
        ((reached operations).incoming side.other).queue ++ [chunk]

theorem incoming_fresh (side : Side) : fresh.incoming side = .fresh := by
  cases side <;> rfl

theorem givesUp_fresh (side : Side) : fresh.givesUp side = false := by
  cases side <;> rfl

theorem lives_fresh (side : Side) : fresh.lives side := by
  rw [lives, incoming_fresh]
  rfl

theorem orderly_fresh : fresh.Orderly :=
  fun side hgone ↦ absurd (lives_fresh side) hgone

theorem writerOpen_reached (operations : List Operation) (side : Side) :
    ((reached operations).incoming side).writerOpen ↔ ¬Stopped operations side.other := by
  rw [reached, writerOpen_follow orderly_fresh, incoming_fresh, Stopped, not_or]
  exact and_iff_right rfl

theorem readerOpen_reached (operations : List Operation) (side : Side) :
    ((reached operations).incoming side).readerOpen ↔ .drop side ∉ operations := by
  have hlives : (reached operations).lives side ↔ fresh.lives side ∧ .drop side ∉ operations :=
    lives_follow operations
  rwa [and_iff_right (lives_fresh side)] at hlives

theorem givesUp_reached {operations : List Operation} {side : Side}
    (hkept : .drop side ∉ operations) :
    (reached operations).givesUp side = limited operations side := by
  rw [reached, givesUp_follow (lives_fresh side) hkept, givesUp_fresh, limited]

theorem sent_eq {operations : List Operation} {side : Side} (hkept : .drop side ∉ operations) :
    sent operations side.other =
      delivered operations side ++ ((reached operations).incoming side).octets := by
  have hconserved := follow_conserves fresh hkept
  rwa [incoming_fresh] at hconserved

/-- An end that has not been dropped can rely on its channel, whatever is done on the two ends. -/
theorem reliable_of_not_dropped (operations : List Operation) (side : Side)
    (hkept : .drop side ∉ operations) : Reliable operations side := by
  have hfifo := sent_eq hkept
  have hlimited := givesUp_reached hkept
  have hstopped := writerOpen_reached operations side
  have hnothing : delivered operations side = sent operations side.other ↔
      ((reached operations).incoming side).octets = [] := by
    rw [hfifo, List.self_eq_append_right]
  have hclosed : .shutdown side ∈ operations ∨ .drop side.other ∈ operations ↔
      ((reached operations).incoming side.other).writerOpen = false ∨
        ((reached operations).incoming side.other).readerOpen = false := by
    have hwriter := writerOpen_reached operations side.other
    have hreader := readerOpen_reached operations side.other
    rw [Side.other_other, Stopped] at hwriter
    grind
  refine
    { fifo := hfifo
      finishes := fun limit hlimit ↦ ?_
      fails := fun limit cause ↦ ?_
      waits := fun limit ↦ ?_
      reads := fun limit hlimit hmore ↦ ?_
      keeps := fun limit ↦ ?_
      refuses := fun chunk hrefused ↦ ?_
      writes := fun chunk haccepted ↦ ?_ }
  · rw [read_eq_done_nil_iff _ _ _ hlimit, hnothing, hstopped, Classical.not_not]
  · rw [read_eq_failed_iff, hnothing, hlimited, hstopped]
  · rw [read_eq_waiting_iff, hnothing, hlimited, hstopped]
  · obtain ⟨taken, hread, hnext, hlength, hsome⟩ :=
      read_of_ne_nil _ _ limit (mt hnothing.2 hmore)
    refine ⟨taken, hread, hsome hlimit, hlength, ?_⟩
    rw [hfifo]
    exact (List.prefix_append_right_inj _).2 hnext
  · have hgiven := given_read (reached operations) side limit
    rw [act] at hgiven
    rw [hgiven, read_eq, incoming_withIncoming, if_pos rfl]
    exact Lane.read_conserves _ limit
  · obtain ⟨cause, hkind, hwrite⟩ := Lane.write_of_closed _ chunk (hclosed.1 hrefused)
    refine ⟨cause, hkind, ?_⟩
    rw [write_eq, hwrite, withIncoming_incoming]
  · rw [hclosed, not_or, Bool.not_eq_false, Bool.not_eq_false] at haccepted
    rw [write_eq, incoming_withIncoming, if_pos rfl,
      Lane.write_of_open _ chunk haccepted.1 haccepted.2]
    exact ⟨rfl, rfl⟩

/-- A reader that takes two octets, is timed out behind an empty chunk, and finds the end of file
only after the octets that were written before the shutdown. -/
theorem reliable_of_half_close :
    let operations : List Operation :=
      [.write .left [1, 2, 3], .write .left [], .read .right 2, .receive .right,
        .setTimeout .right true, .read .right 9, .read .right 9, .write .left [4],
        .shutdown .left, .write .left [5], .write .right [6]]
    .drop .right ∉ operations ∧ Reliable operations .right ∧
      sent operations .left = [1, 2, 3, 4] ∧ delivered operations .right = [1, 2, 3] ∧
      ∃ taken, ((reached operations).read .right 9).1 = .done taken ∧ taken = [4] := by
  intro operations
  have hkept : .drop .right ∉ operations := by decide
  have hreliable := reliable_of_not_dropped operations .right hkept
  exact ⟨hkept, hreliable, by decide, by decide, [4], rfl, rfl⟩

end Duplex

end LineProtocol
