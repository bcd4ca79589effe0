import Mathlib.Data.List.Forall2
import LineProtocol.Server.Listener
import LineProtocol.Proofs.Server.Threads

/-!
# Connections beside each other

The accept loop and the threads of the connections go on beside each other. Nothing but the
blueprint is common to them: a `Connection` has its own thread, and with it its own state and its
own stream, on which its client's arrivals come whenever they do. `Service` is the loop with the
connections it has accepted, and a list of `Service.Move` is one way in which they can take turns.

Whatever the turns, at every moment the loop has served what came before its first fatal failure,
or the beginning of that, and every connection has written a beginning of what the conversation
with its client alone writes, and all of it once it is over. From every moment on everything can
come to its end (`serveUntil_isolates`).
-/

set_option autoImplicit false

namespace LineProtocol

variable {σ α : Type}

/-! ### Connections -/

/-- A connection that has been accepted. -/
structure Connection (σ : Type) where
  thread : Thread σ
  /-- What the client has still to send, before it ends the stream. -/
  coming : List Arrival

namespace Connection

/-- What can happen on a connection. -/
inductive Step where
  /-- The client's next arrival comes, or its end. -/
  | arrive
  /-- The thread takes a step. -/
  | proceed

/-- The connection when it has just been accepted. -/
def opened (accepted : Accepted) : Connection σ :=
  ⟨.spawned (.ofHalves .quiet accepted.outlet), accepted.arrivals⟩

/-- The connection after the next arrival, or the end of the stream. -/
def arrive (connection : Connection σ) : Connection σ :=
  match connection.coming with
  | [] =>
    { connection with
      thread := connection.thread.onReader fun reader ↦
        { reader with inlet := reader.inlet.finish } }
  | arrival :: later =>
    { thread := connection.thread.onReader fun reader ↦
        { reader with inlet := reader.inlet.push [arrival] }
      coming := later }

def act (blueprint : Blueprint σ) (connection : Connection σ) : Step → Connection σ
  | .arrive => connection.arrive
  | .proceed => { connection with thread := connection.thread.proceed blueprint }

def after (blueprint : Blueprint σ) (connection : Connection σ) (steps : List Step) :
    Connection σ :=
  steps.foldl (act blueprint) connection

/-- The connection has done so far what the conversation alone does: it has written a beginning of
what that writes, and if it is over, it has come to that in everything but what is left to read. -/
structure Mirrors (alone : Conversation σ) (connection : Connection σ) : Prop where
  written : connection.thread.wire.outlet.octets <+: alone.wire.outlet.octets
  concluded : ∀ conversation : Conversation σ, connection.thread = .paused conversation →
    conversation.isOver = true → ∃ reader, conversation = alone.withReader reader

/-- The connection is over, and has come to the conversation. -/
def Concluded (alone : Conversation σ) (connection : Connection σ) : Prop :=
  connection.thread = .paused alone ∧ alone.isOver = true

/-- With what is still to come the thread will come to the conversation. -/
structure Bound (blueprint : Blueprint σ) (alone : Conversation σ) (connection : Connection σ) :
    Prop where
  admits : connection.thread.wire.reader.inlet.Admits connection.coming
  completed : (connection.thread.onReader (LineReader.supplied connection.coming)).completed
    blueprint = alone

variable {blueprint : Blueprint σ} {alone : Conversation σ} {connection : Connection σ}

theorem bound_opened (blueprint : Blueprint σ) (accepted : Accepted) :
    (opened accepted).Bound blueprint (.serve blueprint accepted.wire) :=
  ⟨.inl rfl, rfl⟩

theorem Bound.arrive (h : connection.Bound blueprint alone) :
    connection.arrive.Bound blueprint alone := by
  obtain ⟨thread, coming⟩ := connection
  obtain ⟨hadmits, hcompleted⟩ := h
  cases coming with
  | nil =>
    refine ⟨.inr rfl, ?_⟩
    rw [Connection.arrive, Thread.onReader_onReader]
    exact hcompleted
  | cons arrival later =>
    have hopen : thread.wire.reader.inlet.ended = false := hadmits.resolve_right nofun
    refine ⟨.inl ?_, ?_⟩
    · rw [Connection.arrive, Thread.reader_onReader]
      exact hopen
    · rw [Connection.arrive, Thread.onReader_onReader, ← hcompleted]
      refine congrArg (fun change ↦ (thread.onReader change).completed blueprint) ?_
      funext reader
      simp [LineReader.supplied, Inlet.supplied, Inlet.push, Inlet.finish]

theorem Bound.act (h : connection.Bound blueprint alone) (step : Step) :
    (connection.act blueprint step).Bound blueprint alone := by
  cases step with
  | arrive => exact h.arrive
  | proceed =>
    obtain ⟨hadmits, hcompleted⟩ := Thread.completed_proceed blueprint h.admits
    exact ⟨hadmits, hcompleted.trans h.completed⟩

theorem Bound.after (h : connection.Bound blueprint alone) (steps : List Step) :
    (connection.after blueprint steps).Bound blueprint alone := by
  induction steps generalizing connection with
  | nil => exact h
  | cons step later ih => exact ih (h.act step)

/-- What comes to the conversation mirrors it. -/
theorem Bound.mirrors (h : connection.Bound blueprint alone) : connection.Mirrors alone where
  written := by
    have hended : (connection.thread.onReader
        (LineReader.supplied connection.coming)).wire.reader.inlet.ended = true := by
      rw [Thread.reader_onReader]
      rfl
    have hreaches := (Thread.reaches_completed blueprint _ hended).1.octets
    rw [h.completed, Thread.outlet_onReader] at hreaches
    exact hreaches
  concluded := by
    intro conversation hthread hover
    have hcompleted := h.completed
    rw [hthread] at hcompleted
    have hstays : (conversation.withReader (conversation.wire.reader.supplied
        connection.coming)).advance blueprint = _ :=
      Conversation.advance_of_isOver blueprint hover
    obtain rfl := hcompleted.symm.trans hstays
    exact ⟨conversation.wire.reader, rfl⟩

/-- Once everything has arrived the thread only has to go on. -/
theorem Bound.reaches_alone (h : connection.Bound blueprint alone)
    (hended : connection.thread.wire.reader.inlet.ended = true) (hcoming : connection.coming = []) :
    Thread.Reaches blueprint connection.thread (.paused alone) ∧ alone.isOver = true := by
  have hcompleted := h.completed
  rw [hcoming, Thread.onReader_eq_self _ (LineReader.supplied_nil hended)] at hcompleted
  rw [← hcompleted]
  exact Thread.reaches_completed blueprint _ hended

theorem after_append (connection : Connection σ) (steps later : List Step) :
    connection.after blueprint (steps ++ later) =
      (connection.after blueprint steps).after blueprint later :=
  List.foldl_append

/-- Everything can arrive. -/
theorem exists_arrived (blueprint : Blueprint σ) (connection : Connection σ) :
    ∃ steps, (connection.after blueprint steps).coming = [] ∧
      (connection.after blueprint steps).thread.wire.reader.inlet.ended = true := by
  obtain ⟨thread, coming⟩ := connection
  induction coming generalizing thread with
  | nil =>
    have hreader := thread.reader_onReader fun reader ↦
      { reader with inlet := reader.inlet.finish }
    exact ⟨[.arrive], rfl, congrArg (fun reader : LineReader ↦ reader.inlet.ended) hreader⟩
  | cons arrival later ih =>
    obtain ⟨steps, hsteps⟩ := ih (thread.onReader fun reader ↦
      { reader with inlet := reader.inlet.push [arrival] })
    exact ⟨.arrive :: steps, hsteps⟩

theorem after_proceed (connection : Connection σ) (count : Nat) :
    connection.after blueprint (List.replicate count .proceed) =
      { connection with thread := (Thread.proceed blueprint)^[count] connection.thread } := by
  induction count generalizing connection with
  | zero => rfl
  | succ count ih => exact ih _

/-- A connection can come to its end, wherever it is. -/
theorem Bound.exists_concluded (h : connection.Bound blueprint alone) :
    ∃ steps, (connection.after blueprint steps).Concluded alone := by
  obtain ⟨steps, hcoming, hended⟩ := exists_arrived blueprint connection
  obtain ⟨⟨count, hcount⟩, hover⟩ := (h.after steps).reaches_alone hended hcoming
  refine ⟨steps ++ List.replicate count .proceed, ?_, hover⟩
  rw [after_append, after_proceed]
  exact hcount

end Connection

/-! ### The loop and its connections -/

/-- A listener's loop with the connections that it has accepted. -/
structure Service (σ α : Type) where
  /-- What the listener will give. -/
  coming : List (Acceptance α)
  connections : List (Connection σ)
  /-- What the loop has returned, if it has. -/
  result? : Option IoError

/-- A connection's stream, if it is one. -/
def Acceptance.stream? : Acceptance α → Option α
  | .connection stream => some stream
  | .failure _ => none

namespace Service

/-- Who takes the next turn. -/
inductive Move where
  /-- The loop, at its listener. -/
  | accept
  /-- One of the connections. -/
  | step (index : Nat) (step : Connection.Step)

/-- The loop before it has accepted anything. -/
def opened (events : List (Acceptance α)) : Service σ α := ⟨events, [], none⟩

/-- The loop after the listener has given what comes next. -/
def accept (isFatal : IoError → Bool) (accepted : α → Accepted) (service : Service σ α) :
    Service σ α :=
  match service.result?, service.coming with
  | none, .connection stream :: later =>
    { service with
      coming := later
      connections := service.connections ++ [.opened (accepted stream)] }
  | none, .failure cause :: later =>
    { service with coming := later, result? := if isFatal cause then some cause else none }
  | _, _ => service

def act (isFatal : IoError → Bool) (accepted : α → Accepted) (blueprint : Blueprint σ)
    (service : Service σ α) : Move → Service σ α
  | .accept => service.accept isFatal accepted
  | .step index step =>
    { service with
      connections := service.connections.modify index (Connection.act blueprint · step) }

def after (isFatal : IoError → Bool) (accepted : α → Accepted) (blueprint : Blueprint σ)
    (service : Service σ α) (moves : List Move) : Service σ α :=
  moves.foldl (act isFatal accepted blueprint) service

/-- How far the loop has come with what the listener gives: it has accepted a beginning of what
comes before the fatal failure, or has returned that and taken nothing after it. Its connections
stand to their streams as given. -/
inductive Stands (before : List (Acceptance α)) (cause : IoError) (later : List (Acceptance α))
    (related : α → Connection σ → Prop) : Service σ α → Prop
  | serving {taken left : List (Acceptance α)} {connections : List (Connection σ)}
      (hsplit : taken ++ left = before)
      (hrelated : List.Forall₂ related (taken.filterMap Acceptance.stream?) connections) :
    Stands before cause later related ⟨left ++ .failure cause :: later, connections, none⟩
  | returned {connections : List (Connection σ)}
      (hrelated : List.Forall₂ related (before.filterMap Acceptance.stream?) connections) :
    Stands before cause later related ⟨later, connections, some cause⟩

variable {isFatal : IoError → Bool} {accepted : α → Accepted} {blueprint : Blueprint σ}
  {before later : List (Acceptance α)} {cause : IoError}
  {related stronger : α → Connection σ → Prop} {service : Service σ α}

theorem Stands.imp (h : Stands before cause later stronger service)
    (himp : ∀ stream connection, stronger stream connection → related stream connection) :
    Stands before cause later related service := by
  cases h with
  | serving hsplit hrelated => exact .serving hsplit (hrelated.imp himp)
  | returned hrelated => exact .returned (hrelated.imp himp)

/-- What the listener gives before the fatal failure is a connection, which is opened, or a failure
that is passed over. -/
theorem accept_of_tolerated (accepted : α → Accepted) {event : Acceptance α}
    (coming : List (Acceptance α)) (connections : List (Connection σ))
    (h : ∀ failed, event = .failure failed → isFatal failed = false) :
    accept isFatal accepted ⟨event :: coming, connections, none⟩ =
      ⟨coming, connections ++ event.stream?.toList.map fun stream ↦ .opened (accepted stream),
        none⟩ := by
  cases event with
  | connection stream => rfl
  | failure failed =>
    simp only [accept, h failed rfl, Acceptance.stream?, Option.toList_none, List.map_nil,
      List.append_nil, Bool.false_eq_true, if_false]

theorem accept_of_fatal (accepted : α → Accepted) (later : List (Acceptance α))
    (connections : List (Connection σ)) (h : isFatal cause = true) :
    accept isFatal accepted ⟨.failure cause :: later, connections, none⟩ =
      ⟨later, connections, some cause⟩ := by
  simp only [accept, h, if_true]

theorem forall₂_taken {event : Acceptance α} {taken : List (Acceptance α)}
    {connections : List (Connection σ)}
    (hopened : ∀ stream, related stream (.opened (accepted stream)))
    (h : List.Forall₂ related (taken.filterMap Acceptance.stream?) connections) :
    List.Forall₂ related ((taken ++ [event]).filterMap Acceptance.stream?)
      (connections ++ event.stream?.toList.map fun stream ↦ .opened (accepted stream)) := by
  rw [List.filterMap_append]
  refine List.rel_append h ?_
  cases event with
  | connection stream => exact .cons (hopened stream) .nil
  | failure failed => exact .nil

theorem forall₂_modify {streams : List α} {connections : List (Connection σ)}
    {change : Connection σ → Connection σ}
    (hchange : ∀ stream connection, related stream connection →
      related stream (change connection))
    (h : List.Forall₂ related streams connections) (index : Nat) :
    List.Forall₂ related streams (connections.modify index change) := by
  induction h generalizing index with
  | nil =>
    rw [List.modify_nil]
    exact .nil
  | cons hfirst hrest ih =>
    cases index with
    | zero => exact .cons (hchange _ _ hfirst) hrest
    | succ index => exact .cons hfirst (ih index)

/-- Whoever takes the next turn, the loop stands where it should. -/
theorem Stands.act (hbefore : ∀ failed, .failure failed ∈ before → isFatal failed = false)
    (hfatal : isFatal cause = true)
    (hopened : ∀ stream, related stream (.opened (accepted stream)))
    (hstep : ∀ stream connection step, related stream connection →
      related stream (connection.act blueprint step))
    (h : Stands before cause later related service) (move : Move) :
    Stands before cause later related (service.act isFatal accepted blueprint move) := by
  cases move with
  | step index step =>
    have hrelated := fun stream connection ↦ hstep stream connection step
    cases h with
    | serving hsplit hserved => exact .serving hsplit (forall₂_modify hrelated hserved index)
    | returned hserved => exact .returned (forall₂_modify hrelated hserved index)
  | accept =>
    cases h with
    | returned hserved => exact .returned hserved
    | @serving taken left connections hsplit hserved =>
      rw [Service.act]
      cases left with
      | nil =>
        rw [List.nil_append, accept_of_fatal accepted later connections hfatal]
        rw [List.append_nil] at hsplit
        exact .returned (hsplit ▸ hserved)
      | cons event left =>
        rw [List.cons_append, accept_of_tolerated accepted _ connections (by grind)]
        exact .serving (by rw [← hsplit, List.append_assoc]; rfl) (forall₂_taken hopened hserved)

theorem Stands.after (hbefore : ∀ failed, .failure failed ∈ before → isFatal failed = false)
    (hfatal : isFatal cause = true)
    (hopened : ∀ stream, related stream (.opened (accepted stream)))
    (hstep : ∀ stream connection step, related stream connection →
      related stream (connection.act blueprint step))
    (h : Stands before cause later related service) (moves : List Move) :
    Stands before cause later related (service.after isFatal accepted blueprint moves) := by
  induction moves generalizing service with
  | nil => exact h
  | cons move rest ih => exact ih (h.act hbefore hfatal hopened hstep move)

/-! ### To the end -/

theorem after_append (service : Service σ α) (moves rest : List Move) :
    service.after isFatal accepted blueprint (moves ++ rest) =
      (service.after isFatal accepted blueprint moves).after isFatal accepted blueprint rest :=
  List.foldl_append

/-- The loop can return, wherever it is. -/
theorem Stands.exists_returned
    (hbefore : ∀ failed, .failure failed ∈ before → isFatal failed = false)
    (hfatal : isFatal cause = true)
    (hopened : ∀ stream, related stream (.opened (accepted stream)))
    (h : Stands before cause later related service) :
    ∃ moves connections, service.after isFatal accepted blueprint moves =
        ⟨later, connections, some cause⟩ ∧
      List.Forall₂ related (before.filterMap Acceptance.stream?) connections := by
  cases h with
  | @returned connections hserved => exact ⟨[], connections, rfl, hserved⟩
  | @serving taken left connections hsplit hserved =>
    induction left generalizing taken connections with
    | nil =>
      rw [List.append_nil] at hsplit
      exact ⟨[.accept], connections, accept_of_fatal accepted later connections hfatal,
        hsplit ▸ hserved⟩
    | cons event left ih =>
      obtain ⟨moves, final, hafter, hall⟩ := ih
        (by rw [← hsplit, List.append_assoc]; rfl) (forall₂_taken hopened hserved)
      refine ⟨.accept :: moves, final, Eq.trans ?_ hafter, hall⟩
      have hserves : ∀ failed, event = .failure failed → isFatal failed = false := by grind
      exact congrArg (Service.after isFatal accepted blueprint · moves)
        (accept_of_tolerated accepted (left ++ .failure cause :: later) connections hserves)

theorem modify_append_cons (done rest : List (Connection σ)) (connection : Connection σ)
    (change : Connection σ → Connection σ) :
    (done ++ connection :: rest).modify done.length change =
      done ++ change connection :: rest := by
  induction done with
  | nil => rfl
  | cons first done ih => exact congrArg (first :: ·) ih

/-- One connection can go on by itself. -/
theorem after_steps (coming : List (Acceptance α)) (result? : Option IoError)
    (done rest : List (Connection σ)) (connection : Connection σ) (steps : List Connection.Step) :
    Service.after isFatal accepted blueprint ⟨coming, done ++ connection :: rest, result?⟩
        (steps.map (.step done.length)) =
      ⟨coming, done ++ connection.after blueprint steps :: rest, result?⟩ := by
  induction steps generalizing connection with
  | nil => rfl
  | cons step steps ih =>
    refine Eq.trans ?_ (ih (connection.act blueprint step))
    rw [List.map_cons, after, List.foldl_cons, act, modify_append_cons]
    rfl

/-- So each of them can come to its end. -/
theorem exists_all_concluded {alone : α → Conversation σ} {streams : List α}
    {connections : List (Connection σ)} (coming : List (Acceptance α)) (result? : Option IoError)
    (done : List (Connection σ))
    (h : List.Forall₂ (fun stream connection ↦ connection.Bound blueprint (alone stream))
      streams connections) :
    ∃ moves final, Service.after isFatal accepted blueprint
        ⟨coming, done ++ connections, result?⟩ moves = ⟨coming, done ++ final, result?⟩ ∧
      List.Forall₂ (fun stream connection ↦ connection.Concluded (alone stream))
        streams final := by
  induction h generalizing done with
  | nil => exact ⟨[], [], rfl, .nil⟩
  | @cons stream connection streams rest hfirst hrest ih =>
    obtain ⟨steps, hsteps⟩ := hfirst.exists_concluded
    obtain ⟨moves, final, hafter, hall⟩ := ih (done ++ [connection.after blueprint steps])
    refine ⟨steps.map (.step done.length) ++ moves, connection.after blueprint steps :: final,
      ?_, .cons hsteps hall⟩
    rw [after_append, after_steps]
    rw [List.append_assoc, List.append_assoc] at hafter
    exact hafter

end Service

/-- What is served one after the other up to a fatal failure. -/
theorem Listener.serveUntil_of_fatal {isFatal : IoError → Bool} (accepted : α → Accepted)
    (blueprint : Blueprint σ) {before : List (Acceptance α)} (later : List (Acceptance α))
    {cause : IoError} (hbefore : ∀ failed, .failure failed ∈ before → isFatal failed = false)
    (hfatal : isFatal cause = true) :
    serveUntil isFatal accepted blueprint (before ++ .failure cause :: later) =
      ⟨(before.filterMap Acceptance.stream?).map fun stream ↦
          .serve blueprint (accepted stream).wire, cause, later⟩ := by
  induction before with
  | nil => exact if_pos hfatal
  | cons event before ih =>
    have hrest := ih fun failed hmem ↦ hbefore failed (List.mem_cons_of_mem _ hmem)
    cases event with
    | connection stream =>
      rw [List.cons_append, serveUntil, hrest]
      rfl
    | failure failed =>
      rw [List.cons_append, serveUntil, hbefore failed List.mem_cons_self, hrest]
      rfl

/-- Every accepted connection is served once and by itself, up to the first failure that makes the
listener unusable; that is returned, and nothing after it is taken. However the loop and the
connections take turns, what a connection has written is a beginning of what its conversation
alone writes, and all of that once it is over, and the loop and all its connections can still come
to their end. -/
theorem serveUntil_isolates {isFatal : IoError → Bool} (accepted : α → Accepted)
    (blueprint : Blueprint σ) {before : List (Acceptance α)} (later : List (Acceptance α))
    {cause : IoError} (hbefore : ∀ failed, .failure failed ∈ before → isFatal failed = false)
    (hfatal : isFatal cause = true) (moves : List Service.Move) :
    let alone : α → Conversation σ := fun stream ↦ .serve blueprint (accepted stream).wire
    let streams := before.filterMap Acceptance.stream?
    let service := (Service.opened (before ++ .failure cause :: later)).after isFatal accepted
      blueprint moves
    Listener.serveUntil isFatal accepted blueprint (before ++ .failure cause :: later) =
        ⟨streams.map alone, cause, later⟩ ∧
      service.Stands before cause later
        (fun stream connection ↦ connection.Mirrors (alone stream)) ∧
      ∃ rest connections,
        service.after isFatal accepted blueprint rest = ⟨later, connections, some cause⟩ ∧
        List.Forall₂ (fun stream connection ↦ connection.Concluded (alone stream))
          streams connections := by
  intro alone streams service
  have hopened : ∀ stream, (Connection.opened (accepted stream)).Bound blueprint (alone stream) :=
    fun stream ↦ Connection.bound_opened blueprint (accepted stream)
  have hstands : service.Stands before cause later
      fun stream connection ↦ connection.Bound blueprint (alone stream) :=
    Service.Stands.after hbefore hfatal hopened (fun _ _ step h ↦ h.act step)
      (.serving (List.nil_append before) .nil) moves
  refine ⟨Listener.serveUntil_of_fatal accepted blueprint later hbefore hfatal,
    hstands.imp fun _ _ ↦ Connection.Bound.mirrors, ?_⟩
  obtain ⟨accepting, connections, haccepted, hbound⟩ :=
    hstands.exists_returned hbefore hfatal hopened
  obtain ⟨going, final, hgone, hconcluded⟩ :=
    Service.exists_all_concluded later (some cause) [] hbound
  refine ⟨accepting ++ going, final, ?_, hconcluded⟩
  rw [Service.after_append, haccepted]
  exact hgone

/-- Two clients at the same time: the one sends a line that cannot be decoded, the other is served
nevertheless. A connection that was reset before it was accepted does not matter either. -/
theorem serveUntil_isolates_of_garbled :
    let sound : List Bytes := [Utf8.encode "ECHO on", Utf8.encode "e\nECHO\nBYE\n"]
    let garbled : List Bytes := [Utf8.encode "ECHO two\nECHO %zz\nECHO three\n"]
    let before : List (Acceptance (List Bytes)) :=
      [.connection sound, .failure ⟨.connectionReset, "connection reset"⟩, .connection garbled]
    let later : List (Acceptance (List Bytes)) := [.connection [Utf8.encode "NOP\n"]]
    let moves : List Service.Move :=
      [.accept, .step 0 .proceed, .accept, .accept, .step 1 .arrive, .step 0 .arrive,
        .step 1 .proceed, .step 0 .proceed, .step 1 .proceed, .accept, .step 1 .proceed]
    let service := (Service.opened (before ++ .failure Listener.exhausted :: later)).after
      IoError.isFatal Accepted.ofChunks Conversation.counting moves
    let report := Listener.serve Conversation.counting
      (before ++ .failure Listener.exhausted :: later)
    (∀ failed, .failure failed ∈ before → failed.isFatal = false) ∧
      Listener.exhausted.isFatal = true ∧
      report.cause = Listener.exhausted ∧ report.left = later ∧
      report.served.map (fun served ↦ served.wire.outlet.octets) =
        [Utf8.encode "OK hi\nD one\nOK\nOK\nOK\n", Utf8.encode "OK hi\nD two\nOK\n"] ∧
      service.connections.map (fun connection ↦ connection.thread.wire.outlet.octets) =
        [Utf8.encode "OK hi\n", Utf8.encode "OK hi\nD two\n"] ∧
      ∃ rest connections,
        service.after IoError.isFatal Accepted.ofChunks Conversation.counting rest =
          ⟨later, connections, some Listener.exhausted⟩ ∧
        List.Forall₂ (fun chunks connection ↦ connection.Concluded
          (.serve Conversation.counting (Accepted.ofChunks chunks).wire))
          [sound, garbled] connections := by
  intro sound garbled before later moves service report
  have hbefore : ∀ failed, .failure failed ∈ before → failed.isFatal = false := by
    intro failed hmem
    obtain rfl : failed = ⟨.connectionReset, "connection reset"⟩ := by simpa [before] using hmem
    rfl
  obtain ⟨hreport, -, hrest⟩ := serveUntil_isolates Accepted.ofChunks Conversation.counting later
    hbefore (show Listener.exhausted.isFatal = true from rfl) moves
  exact ⟨hbefore, rfl, congrArg Listener.Report.cause hreport,
    congrArg Listener.Report.left hreport, by decide +kernel, by decide +kernel, hrest⟩

end LineProtocol
