import LineProtocol.Proofs.Exchange.Touch

/-!
# Client and conversation stay in step

A client that has just connected is in step with any conversation (`inStep_of_connected`): the
conversation waits for a command and nothing is on its way. From then on the two are attuned, which
is to say in touch over the lines between them, or parted if the conversation is over. Every event
keeps them so, unless it misleads the client (`attuned_step`), and when a request has returned
nothing is under way any more, and the two are in step again (`Attuned.inStep`).

Only a reset whose reply is long misleads a client. Without a handler for resets there is none, and
then the two stay in step whatever is requested (`inTransit_of_returned`).
-/

set_option autoImplicit false

namespace LineProtocol

namespace Exchange

variable {σ : Type}

variable {exchange : Exchange σ} (blueprint : Blueprint σ)

theorem Linked.of_append_eq_nil {serverInbox clientOutbox clientInbox serverOutbox : List Line}
    (h : exchange.Linked serverInbox clientOutbox clientInbox serverOutbox)
    (hserver : serverInbox ++ clientOutbox = []) (hclient : clientInbox ++ serverOutbox = []) :
    exchange.Linked [] [] [] [] := by
  obtain ⟨rfl, rfl⟩ := List.append_eq_nil_iff.1 hserver
  obtain ⟨rfl, rfl⟩ := List.append_eq_nil_iff.1 hclient
  exact h

/-- Client and conversation are in step: the conversation waits for a command and nothing is on
its way. -/
structure InStep (exchange : Exchange σ) : Prop where
  ready : exchange.server.phase = .ready
  linked : exchange.Linked [] [] [] []

/-- Nothing brings a conversation back that is over. -/
theorem isOver_move (h : exchange.server.isOver = true) (next : Move) :
    (exchange.move blueprint next).server.isOver = true := by
  cases next with
  | server =>
    simp only [move]
    rw [Conversation.advance_of_isOver blueprint h]
    exact h
  | drop =>
    simp only [move, h, if_true]
    exact h
  | _ => exact h

/-! ### Connecting -/

/-- A conversation that has nothing in front of it stays as it is. -/
theorem move_server_of_nil {clientOutbox clientInbox serverOutbox : List Line}
    (h : exchange.Linked [] clientOutbox clientInbox serverOutbox) :
    exchange.move blueprint .server = exchange := by
  obtain ⟨client, turn, ⟨wire, state, phase, calls⟩, gone⟩ := exchange
  obtain ⟨-, rfl⟩ := h
  simp only [move, Conversation.advance_nil]

/-- So does a client. -/
theorem move_client_of_nil {serverInbox clientOutbox serverOutbox : List Line}
    (h : exchange.Linked serverInbox clientOutbox [] serverOutbox) :
    exchange.move blueprint .client = exchange := by
  obtain ⟨⟨wire, greeting⟩, turn, server, gone⟩ := exchange
  obtain ⟨rfl, -⟩ := h
  have hstays := Client.advance_nil (.holding clientOutbox) greeting turn
  simp only [move, Wire.ofLines, hstays]

/-- A conversation that is not over keeps its end. -/
theorem move_drop_of_open (h : exchange.server.isOver = false) :
    exchange.move blueprint .drop = exchange := by
  rw [move, if_neg (by rw [h]; exact Bool.false_ne_true)]

/-- Between requests nothing moves. -/
theorem InStep.move_eq (h : exchange.InStep) (next : Move) :
    exchange.move blueprint next = exchange := by
  obtain ⟨hready, hlinked⟩ := h
  cases next with
  | server => exact move_server_of_nil blueprint hlinked
  | client => exact move_client_of_nil blueprint hlinked
  | drop => exact move_drop_of_open blueprint (Conversation.isOver_of_ready hready)
  | _ =>
    obtain ⟨⟨clientWire, greeting⟩, turn, ⟨wire, state, phase, calls⟩, gone⟩ := exchange
    obtain ⟨rfl, rfl⟩ := hlinked
    simp only [move, relieved_ofLines, written_ofLines, List.map_nil, List.take_nil,
      List.drop_nil, Conversation.receive, Client.receive, receive_nothing]

/-- An exchange before its first request. -/
inductive Greeted (exchange : Exchange σ) : Prop
  /-- The greeting could not be written. -/
  | failed (hover : exchange.server.isOver = true)
  /-- The greeting is on its way. -/
  | coming (clientInbox serverOutbox : List Line) (greeting : Line)
      (hphase : exchange.server.phase = .ready) (hturn : exchange.turn = .waiting .greeting)
      (hgreeting : greeting.IsClosing) (hlinked : exchange.Linked [] [] clientInbox serverOutbox)
      (hlines : clientInbox ++ serverOutbox = [greeting])
  /-- The client has taken notice of it. -/
  | heard (outcome : Except Failure Bytes) (hturn : exchange.turn = .returned outcome)
      (hstep : exchange.InStep)

theorem server_start (gone : IoError) : (start blueprint gone).server =
    .closed [] blueprint.start [] (Line.compose "OK" (Utf8.encode blueprint.greeting)) := by
  rw [← Conversation.afterWrite_added [] blueprint.start .ready [], ← Outlet.sendLine_holding]
  rfl

theorem greeted_start (gone : IoError) : (start blueprint gone).Greeted := by
  have hserver := server_start blueprint gone
  cases h : Line.compose "OK" (Utf8.encode blueprint.greeting) with
  | error cause =>
    refine .failed ?_
    rw [hserver, h]
    rfl
  | ok line =>
    have hclosing : line.IsClosing := Line.isClosing_of_compose_ok h
    rw [h] at hserver
    refine .coming [] [line] line ?_ rfl hclosing ⟨rfl, ?_⟩ rfl
    · rw [hserver]
      rfl
    · rw [hserver]
      rfl

theorem greeted_move (h : exchange.Greeted) (next : Move) :
    (exchange.move blueprint next).Greeted := by
  cases h with
  | failed hover => exact .failed (isOver_move blueprint hover next)
  | coming clientInbox serverOutbox greeting hphase hturn hgreeting hlinked hlines =>
    cases next with
    | toServer count =>
      have hmoved := linked_toServer blueprint hlinked count
      rw [List.take_nil, List.drop_nil] at hmoved
      exact .coming _ _ greeting hphase hturn hgreeting hmoved hlines
    | toClient count =>
      refine .coming _ _ greeting hphase hturn hgreeting
        (linked_toClient blueprint hlinked count) ?_
      rw [List.append_assoc, List.take_append_drop]
      exact hlines
    | server =>
      rw [move_server_of_nil blueprint hlinked]
      exact .coming _ _ greeting hphase hturn hgreeting hlinked hlines
    | client =>
      rcases List.append_eq_singleton_iff.1 hlines with ⟨rfl, rfl⟩ | ⟨rfl, rfl⟩
      · rw [move_client_of_nil blueprint hlinked]
        exact .coming _ _ greeting hphase hturn hgreeting hlinked rfl
      · obtain ⟨⟨wire, noticed⟩, turn, server, gone⟩ := exchange
        obtain ⟨rfl, hserver⟩ := hlinked
        simp only at hphase hturn hserver
        subst hturn
        obtain ⟨outcome, heard, hadvance⟩ := Client.advance_closing false [] (.holding [])
          noticed .greeting hgreeting
        have hnext : (Client.mk (.ofLines [greeting] []) noticed).advance (.waiting .greeting) =
            (.returned outcome, ⟨.ofLines [] [], heard⟩) := hadvance
        refine .heard outcome ?_ ⟨hphase, ?_, hserver⟩
        · simp only [move, hnext]
        · simp only [move, hnext]
    | drop =>
      rw [move_drop_of_open blueprint (Conversation.isOver_of_ready hphase)]
      exact .coming _ _ greeting hphase hturn hgreeting hlinked hlines
  | heard outcome hturn hstep =>
    rw [hstep.move_eq]
    exact .heard outcome hturn hstep

theorem greeted_moves (h : exchange.Greeted) (run : List Move) :
    (exchange.moves blueprint run).Greeted := by
  induction run generalizing exchange with
  | nil => exact h
  | cons next later ih => exact ih (greeted_move blueprint h next)

/-- A client that has connected is in step with the conversation, unless that is over. -/
theorem inStep_of_connected (gone : IoError) (run : List Move) {outcome : Except Failure Bytes}
    (hreturned : ((start blueprint gone).moves blueprint run).turn = .returned outcome) :
    ((start blueprint gone).moves blueprint run).server.isOver = true ∨
      ((start blueprint gone).moves blueprint run).InStep := by
  cases greeted_moves blueprint (greeted_start blueprint gone) run with
  | failed hover => exact .inl hover
  | coming clientInbox serverOutbox greeting hphase hturn =>
    exact nomatch hreturned.symm.trans hturn
  | heard outcome hturn hstep => exact .inr hstep

/-! ### Requests one after the other -/

variable (terms : Terms)

/-- The conversation is over and has left no more than the client will take, or the two sides are
in touch over the lines between them. -/
def Attuned (exchange : Exchange σ) : Prop :=
  (∃ inbox outbox, exchange.Parted terms inbox outbox) ∨
    ∃ serverInbox clientOutbox clientInbox serverOutbox,
      exchange.Linked serverInbox clientOutbox clientInbox serverOutbox ∧
      InTouch terms exchange.server.phase exchange.turn (serverInbox ++ clientOutbox)
        (clientInbox ++ serverOutbox)

theorem attuned_start (gone : IoError) : (start blueprint gone).Attuned terms := by
  cases h : Line.compose "OK" (Utf8.encode blueprint.greeting) with
  | error cause =>
    have hserver := server_start blueprint gone
    rw [h] at hserver
    refine .inl ⟨[], [], ?_, ?_, .opened [] [], .nothing _⟩
    · rw [hserver]
      rfl
    · rw [hserver]
      rfl
  | ok line =>
    have hserver := server_start blueprint gone
    rw [h] at hserver
    refine .inr ⟨[], [], [], [line], ⟨rfl, ?_⟩, .replied .greeting [] line ?_ rfl
      (List.forall_mem_nil _) (Line.isClosing_of_compose_ok h) (.inr rfl)⟩
    · rw [hserver]
      rfl
    · rw [hserver]
      rfl

variable {terms}

/-- What is left to hear is handed over line by line. -/
theorem Draining.receive {wire : Wire} {inbox outbox : List Line}
    (h : Draining wire.reader inbox outbox) (count : Nat) :
    Draining (wire.receive (Inlet.carried ((outbox.map Line.octets).take count))).reader
        (inbox ++ outbox.take count) (outbox.drop count) := by
  obtain ⟨reader, outlet⟩ := wire
  simp only at h
  cases h with
  | opened inbox outbox =>
    rw [Wire.receive, ← List.map_take, LineReader.push_facing]
    exact .opened _ _
  | ended inbox =>
    rw [List.map_nil, List.take_nil, receive_nothing, List.take_nil, List.drop_nil,
      List.append_nil]
    exact .ended inbox
  | spent =>
    rw [List.map_nil, List.take_nil, receive_nothing, List.take_nil, List.drop_nil,
      List.append_nil]
    exact .spent

/-- Once nothing is left on its way the stream may end. -/
theorem Draining.finish {wire : Wire} {inbox : List Line} (h : Draining wire.reader inbox []) :
    Draining wire.finish.reader inbox [] := by
  obtain ⟨reader, outlet⟩ := wire
  simp only at h
  cases h with
  | spent => exact .spent
  | _ => exact .ended inbox

/-- A conversation that drops its end leaves everything it wrote in front of the client. -/
theorem drop_of_draining {inbox outbox : List Line} (hover : exchange.server.isOver = true)
    (hwritten : exchange.server.wire.outlet.written = outbox.map Line.octets)
    (hdraining : Draining exchange.client.wire.reader inbox outbox) :
    (exchange.move blueprint .drop).server.wire.outlet.written = ([] : List Line).map Line.octets ∧
      Draining (exchange.move blueprint .drop).client.wire.reader (inbox ++ outbox) [] := by
  have hdrained := hdraining.receive outbox.length
  rw [← List.length_map Line.octets, List.take_length, List.length_map, List.take_length,
    List.drop_length] at hdrained
  rw [move, if_pos hover]
  refine ⟨rfl, ?_⟩
  simp only [Client.receive, Client.finish, Client.broken, arriving, hwritten]
  exact hdrained.finish

theorem Parted.move {inbox outbox : List Line} (h : exchange.Parted terms inbox outbox)
    (next : Move) : terms.Misled (exchange.move blueprint next).turn ∨
      ∃ inbox outbox, (exchange.move blueprint next).Parted terms inbox outbox := by
  have hover := isOver_move blueprint h.hover next
  cases next with
  | toServer count => exact .inr ⟨inbox, outbox, hover, h.written, h.draining, h.parting⟩
  | server =>
    have hstays : exchange.move blueprint .server = exchange := by
      rw [Exchange.move, Conversation.advance_of_isOver blueprint h.hover]
    rw [hstays]
    exact .inr ⟨inbox, outbox, h⟩
  | toClient count =>
    refine .inr ⟨inbox ++ outbox.take count, outbox.drop count, hover, ?_, ?_, ?_⟩
    · simp only [Exchange.move, Wire.relieved, h.written, List.map_drop]
    · simp only [Exchange.move, Client.receive, h.written]
      exact h.draining.receive count
    · rw [List.append_assoc, List.take_append_drop]
      exact h.parting
  | client =>
    obtain ⟨⟨⟨reader, outlet⟩, greeting⟩, turn, server, gone⟩ := exchange
    rcases h.parting.client h.draining outlet greeting with hmisled | ⟨left, hdraining, hparting⟩
    · exact .inl hmisled
    · exact .inr ⟨left, outbox, hover, h.written, hdraining, hparting⟩
  | drop =>
    obtain ⟨hempty, hdrained⟩ := drop_of_draining blueprint h.hover h.written h.draining
    refine .inr ⟨inbox ++ outbox, [], hover, hempty, hdrained, ?_⟩
    simp only [Exchange.move, h.hover, if_true, List.append_nil]
    exact h.parting

theorem attuned_move (hmet : terms.Met blueprint) (h : exchange.Attuned terms) (next : Move) :
    terms.Misled (exchange.move blueprint next).turn ∨
      (exchange.move blueprint next).Attuned terms := by
  rcases h with ⟨inbox, outbox, hparted⟩ |
    ⟨serverInbox, clientOutbox, clientInbox, serverOutbox, hlinked, htouch⟩
  · exact (hparted.move blueprint next).imp_right .inl
  cases next with
  | toServer count =>
    refine .inr (.inr ⟨_, _, _, _, linked_toServer blueprint hlinked count, ?_⟩)
    rw [List.append_assoc, List.take_append_drop]
    exact htouch
  | toClient count =>
    refine .inr (.inr ⟨_, _, _, _, linked_toClient blueprint hlinked count, ?_⟩)
    rw [List.append_assoc, List.take_append_drop]
    exact htouch
  | server =>
    obtain ⟨⟨clientWire, greeting⟩, turn, ⟨wire, state, phase, calls⟩, gone⟩ := exchange
    obtain ⟨rfl, rfl⟩ := hlinked
    obtain ⟨sent, hwire, hstands⟩ := htouch.server hmet state serverOutbox calls
    rw [List.append_assoc] at hstands
    rcases hstands with ⟨hover, hparting⟩ | hafter
    · refine .inr (.inl ⟨clientInbox, serverOutbox ++ sent, hover, ?_, .opened _ _, hparting⟩)
      simp only [move, hwire, written_ofLines]
    · exact .inr (.inr ⟨[], clientOutbox, clientInbox, serverOutbox ++ sent, ⟨rfl, hwire⟩,
        hafter⟩)
  | client =>
    obtain ⟨⟨clientWire, greeting⟩, turn, ⟨wire, state, phase, calls⟩, gone⟩ := exchange
    obtain ⟨rfl, rfl⟩ := hlinked
    rcases htouch.client clientOutbox greeting with
      hmisled | ⟨next, sent, heard, hadvance, hafter⟩
    · exact .inl hmisled
    refine .inr (.inr ⟨serverInbox, clientOutbox ++ sent, [], serverOutbox, ⟨?_, rfl⟩, ?_⟩)
    · simp only [move, hadvance]
    · simp only [move, hadvance]
      rw [← List.append_assoc]
      exact hafter
  | drop =>
    rw [move_drop_of_open blueprint htouch.isOver]
    exact .inr (.inr ⟨serverInbox, clientOutbox, clientInbox, serverOutbox, hlinked, htouch⟩)

/-- Between requests nothing is on its way and the conversation is ready. -/
theorem InTouch.of_returned {phase : Phase σ} {turn : Turn} {toServer toClient : List Line}
    {outcome : Except Failure Bytes} (h : InTouch terms phase turn toServer toClient)
    (hturn : turn = .returned outcome) : phase = .ready ∧ toServer = [] ∧ toClient = [] := by
  cases h with
  | idle outcome hphase => exact ⟨hphase, rfl, rfl⟩
  | _ => simp_all

theorem Parting.of_returned {turn : Turn} {left : List Line} {outcome : Except Failure Bytes}
    (h : Parting terms turn left) (hturn : turn = .returned outcome) : left = [] := by
  cases h with
  | silent inner hinner hterse =>
    refine hterse.resolve_right ?_
    rintro ⟨awaiting, hwaiting, -⟩
    exact nomatch hturn.symm.trans hwaiting
  | closing awaiting inner closing hwaiting => exact nomatch hturn.symm.trans hwaiting

/-- Between requests the two sides are in step, unless the conversation is over. -/
theorem Attuned.inStep (h : exchange.Attuned terms) {outcome : Except Failure Bytes}
    (hturn : exchange.turn = .returned outcome) :
    exchange.server.isOver = true ∨ exchange.InStep := by
  rcases h with ⟨inbox, outbox, hparted⟩ |
    ⟨serverInbox, clientOutbox, clientInbox, serverOutbox, hlinked, htouch⟩
  · exact .inl hparted.hover
  · obtain ⟨hphase, hserver, hclient⟩ := htouch.of_returned hturn
    exact .inr ⟨hphase, hlinked.of_append_eq_nil hserver hclient⟩

/-- A request that can be written is a command on its way. -/
theorem attuned_request (h : exchange.Attuned terms) {outcome : Except Failure Bytes}
    (hturn : exchange.turn = .returned outcome) {request : Request}
    (hallowed : terms.Allows request) : (exchange.ask request).Attuned terms := by
  rcases h with ⟨inbox, outbox, hparted⟩ |
    ⟨serverInbox, clientOutbox, clientInbox, serverOutbox, hlinked, htouch⟩
  · have hnone := hparted.parting.of_returned hturn
    refine .inl ⟨inbox, outbox, hparted.hover, hparted.written, ?_, ?_⟩
    · simp only [Exchange.ask, Client.reader_ask]
      exact hparted.draining
    · rw [hnone]
      exact .nothing _
  obtain ⟨hready, hserver, hclient⟩ := htouch.of_returned hturn
  obtain ⟨⟨clientWire, greeting⟩, turn, ⟨wire, state, phase, calls⟩, gone⟩ := exchange
  obtain ⟨rfl, rfl⟩ := hlinked.of_append_eq_nil hserver hclient
  simp only at hready
  subst hready
  have hask := Client.ask_holding greeting (.facing false []) [] request
  cases hcommand : request.composed with
  | error cause =>
    rw [hcommand] at hask
    refine .inr ⟨[], [], [], [], ⟨?_, rfl⟩, .idle (.error cause) rfl ?_⟩
    · exact congrArg (·.2.wire) hask
    · exact congrArg (·.1) hask
  | ok command =>
    rw [hcommand] at hask
    refine .inr ⟨[], [command], [], [], ⟨?_, rfl⟩,
      .asked request command rfl ?_ hallowed hcommand⟩
    · exact congrArg (·.2.wire) hask
    · exact congrArg (·.1) hask

/-- Every event keeps client and conversation attuned, unless it misleads the client. -/
theorem attuned_step (hmet : terms.Met blueprint) (h : exchange.Attuned terms) (event : Event)
    (hallowed : ∀ request, event = .request request → terms.Allows request) :
    terms.Misled (exchange.step blueprint event).turn ∨
      (exchange.step blueprint event).Attuned terms := by
  cases event with
  | move next => exact attuned_move blueprint hmet h next
  | request request =>
    unfold step
    cases hturn : exchange.turn with
    | returned outcome => exact .inr (attuned_request h hturn (hallowed request rfl))
    | waiting awaiting => exact .inr h

/-- Every history of a connection keeps them attuned in which the client is never misled. -/
theorem attuned_after (hmet : terms.Met blueprint) (h : exchange.Attuned terms)
    {events : List Event}
    (hallowed : ∀ request, .request request ∈ events → terms.Allows request)
    (hheard : ∀ before, before <+: events → ¬terms.Misled (exchange.after blueprint before).turn) :
    (exchange.after blueprint events).Attuned terms := by
  induction events generalizing exchange with
  | nil => exact h
  | cons event later ih =>
    have hstep := attuned_step blueprint hmet h event
      fun request hevent ↦ hallowed request (hevent ▸ List.mem_cons_self)
    have hnext := hstep.resolve_left
      (hheard [event] (List.cons_prefix_cons.2 ⟨rfl, List.nil_prefix⟩))
    refine ih hnext (fun request hmem ↦ hallowed request (List.mem_cons_of_mem _ hmem)) ?_
    intro before hbefore
    exact hheard (event :: before) (List.cons_prefix_cons.2 ⟨rfl, hbefore⟩)

/-! ### Resets without a handler -/

/-- Client and conversation are attuned on these terms. -/
def Coherent (exchange : Exchange σ) : Prop :=
  exchange.Attuned Terms.shortResets

theorem coherent_start (gone : IoError) : (start blueprint gone).Coherent :=
  attuned_start blueprint Terms.shortResets gone

/-- Every history of a connection keeps client and conversation attuned. -/
theorem coherent_after (hreset : blueprint.commands.find? "RESET" = none)
    (h : exchange.Coherent) (events : List Event) :
    (exchange.after blueprint events).Coherent :=
  attuned_after blueprint ⟨fun _ ↦ .inr hreset, .inl trivial⟩ h (fun _ _ ↦ trivial)
    fun _ _ hmisled ↦ hmisled.1

theorem Coherent.inStep (h : exchange.Coherent) {outcome : Except Failure Bytes}
    (hturn : exchange.turn = .returned outcome) :
    exchange.server.isOver = true ∨ exchange.InStep :=
  Attuned.inStep h hturn

/-- Whenever a request has returned, whatever it returned and whatever came before it, either the
conversation is over and reads and writes no more, or it waits for the next command and not one
octet is left that was written by either side and made no use of by the other. -/
theorem inTransit_of_returned (blueprint : Blueprint σ) (gone : IoError) (events : List Event)
    (outcome : Except Failure Bytes) (hreset : blueprint.commands.find? "RESET" = none)
    (hreturned : ((start blueprint gone).after blueprint events).turn = .returned outcome) :
    let exchange := (start blueprint gone).after blueprint events
    exchange.server.isOver = true ∨
      (exchange.server.phase = .ready ∧ exchange.inTransit = []) := by
  intro exchange
  have hcoherent : exchange.Coherent :=
    coherent_after blueprint hreset (coherent_start blueprint gone) events
  rcases hcoherent.inStep hreturned with hover | hstep
  · exact .inl hover
  · exact .inr ⟨hstep.ready, inTransit_of_linked hstep.linked⟩

theorem turn_of_outcome? {outcome : Except Failure Bytes}
    (h : exchange.outcome? = some outcome) : exchange.turn = .returned outcome := by
  unfold outcome? at h
  cases hturn : exchange.turn with
  | returned found =>
    rw [hturn] at h
    rw [Option.some.inj h]
  | waiting awaiting =>
    rw [hturn] at h
    cases h

/-- A handler that asks for a key and sends data whether it is given one or not. -/
def heedless : Blueprint Unit :=
  (Blueprint.plain () "ready").withCommand "ASK" fun _ _ ↦
    .inquire "KEY" fun _ ↦ .data [0x61] fun _ ↦ .done ((), .ok ())

/-- A command with no answer prepared, its reply handed over in two parts. -/
def unanswered : List Event :=
  [.move (.toClient 1), .move .client, .request (.command "ask" [] []), .move (.toServer 1),
    .move .server, .move (.toClient 1), .move .client, .move (.toServer 1), .move .server,
    .move (.toClient 1), .move .client, .move (.toClient 1), .move .client]

/-- A cancelled command whose handler went on all the same has left nothing behind. -/
theorem inTransit_of_unanswered :
    let exchange := (start heedless ⟨.brokenPipe, "gone"⟩).after heedless unanswered
    heedless.commands.find? "RESET" = none ∧
      exchange.turn = .returned (.error (.missingAnswer "KEY")) ∧
      (exchange.server.isOver = true ∨
        (exchange.server.phase = .ready ∧ exchange.inTransit = [])) := by
  intro exchange
  have hreset : heedless.commands.find? "RESET" = none := rfl
  have hturn : exchange.turn = .returned (.error (.missingAnswer "KEY")) :=
    turn_of_outcome? (by decide +kernel)
  exact ⟨hreset, hturn,
    inTransit_of_returned heedless ⟨.brokenPipe, "gone"⟩ unanswered _ hreset hturn⟩

end Exchange

end LineProtocol
