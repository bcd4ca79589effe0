import LineProtocol.Proofs.Exchange.Transaction
import LineProtocol.Proofs.Line.Spelling

/-!
# Setting an option

A client that sets an option writes an assignment in one line, and the conversation splits it and
gives the key and the value to its option setter. Whatever the value is, the setter is given it
without the spaces in front, because the assignment is a spelling of just that
(`Assignment.split_render`), and a line keeps its parameters.

The reply is a single line. `Setting.Asked` has the assignment on its way, and `Setting.Replied`
has the reply on its way or heard, or missing if the setter's outcome has no closing line. Every
move leads from the one to the other or leaves them as they are (`Course.move`), and one round
makes the request return (`Course.settle`).
-/

set_option autoImplicit false

namespace LineProtocol

namespace Exchange

variable {σ : Type}

/-- An option that is set: the key and the value that the setter is given, the state and the calls
that it finds, and the line that says so. -/
structure Setting (blueprint : Blueprint σ) where
  key : String
  value : String
  setter : OptionSetter σ
  state : σ
  calls : List (Call σ)
  command : Line
  installed : blueprint.setter = some setter
  sendable : command.Sendable
  verb : command.verb = "OPTION"
  assigned : ∃ text, command.text? = some text ∧ Assignment.split text = some (key, value)

namespace Setting

variable {blueprint : Blueprint σ} (setting : Setting blueprint)

/-- The state that the setter leaves. -/
def final : σ :=
  (setting.setter setting.state setting.key setting.value).1

def outcome : Outcome :=
  (setting.setter setting.state setting.key setting.value).2

/-- The calls once the setter has run. -/
def allCalls : List (Call σ) :=
  setting.calls ++ [.option setting.key setting.value setting.final setting.outcome]

/-- What the request returns. -/
def told : Except Failure Bytes :=
  (Transcript.mk (setting.final, setting.outcome) [] 0).told

theorem ofCommand_command : Action.ofCommand blueprint setting.command =
    .assign setting.key setting.value setting.setter := by
  obtain ⟨text, htext, hsplit⟩ := setting.assigned
  rw [Action.ofCommand, htext]
  simp only [setting.verb, Action.ofText_option, Action.ofAssignment, hsplit, setting.installed]

/-- The conversation gives the key and the value to the setter and closes the command. -/
theorem advance_command (before : List Line) :
    (Conversation.mk (.ofLines [setting.command] before) setting.state .ready
        setting.calls).advance blueprint =
      .closed before setting.final setting.allCalls setting.outcome.closing := by
  have htells : setting.command.onlyInforms = false :=
    Line.onlyInforms_of_verb setting.verb (by decide) (by decide)
  have hdispatch : (Conversation.mk (.ofLines [] before) setting.state .ready
      setting.calls).dispatch blueprint setting.command =
        .closed before setting.final setting.allCalls setting.outcome.closing := by
    rw [Conversation.dispatch_eq_conduct, setting.ofCommand_command, Conversation.conduct]
    exact Conversation.close_ofLines before setting.final .ready setting.allCalls setting.outcome
  refine Conversation.advance_eq_dispatch before setting.state setting.calls blueprint
    setting.sendable htells hdispatch ?_
  cases setting.outcome.closing with
  | ok reply => exact .inr rfl
  | error cause => exact .inl rfl

/-- The reply tells what the setter has come to. -/
theorem told_of_closing {reply : Line} (hclosing : setting.outcome.closing = .ok reply) :
    setting.told =
      if reply.verb = "ERR" then .error (Client.reported reply) else .ok [] := by
  let transcript : Transcript (σ × Outcome) := ⟨(setting.final, setting.outcome), [], 0⟩
  have hlast : transcript.result.2.closing = .ok reply := hclosing
  have htold : setting.told = _ := Transcript.told_of_closing hlast
  have hok : ¬"OK" = "ERR" := by decide
  have herr : ¬"ERR" = "OK" := by decide
  rw [htold]
  rcases (Outcome.isClosing_of_closing hclosing).2 with hverb | hverb
  · rw [hverb, if_pos rfl, if_neg hok]
  · rw [hverb, if_pos rfl, if_neg herr]

theorem told_of_no_closing {cause : Failure} (hclosing : setting.outcome.closing = .error cause) :
    setting.told = .error .closed :=
  Transcript.told_of_no_closing hclosing

/-- The request returns well if the setter did, and only then. -/
theorem told_eq_ok_iff {data : Bytes} :
    setting.told = .ok data ↔ setting.outcome = .ok () ∧ data = [] := by
  rw [told]
  cases setting.outcome with
  | ok done => simp [Transcript.told, eq_comm]
  | error rejection =>
    cases rejection with
    | fatal cause => simp [Transcript.told]
    | report fault =>
      simp only [Transcript.told]
      cases fault.line <;> simp

/-! ### Where the request stands -/

variable (exchange : Exchange σ)

/-- The assignment is on its way. -/
structure Asked : Prop where
  linked : ∃ serverInbox clientOutbox, exchange.Linked serverInbox clientOutbox [] [] ∧
    serverInbox ++ clientOutbox = [setting.command]
  ready : exchange.server.phase = .ready
  state : exchange.server.state = setting.state
  calls : exchange.server.calls = setting.calls
  turn : exchange.turn = .waiting .optionReply

/-- The setter has run. -/
inductive Replied : Prop
  /-- The reply is on its way. -/
  | coming (clientInbox serverOutbox : List Line) (reply : Line)
      (hlinked : exchange.Linked [] [] clientInbox serverOutbox)
      (hlines : clientInbox ++ serverOutbox = [reply])
      (hclosing : setting.outcome.closing = .ok reply) (hready : exchange.server.phase = .ready)
      (hturn : exchange.turn = .waiting .optionReply)
  /-- The client has heard it. -/
  | heard (hstep : exchange.InStep) (hturn : exchange.turn = .returned setting.told)
  /-- There is none, and the conversation is over. -/
  | missing (cause : Failure) (hclosing : setting.outcome.closing = .error cause)
      (hover : exchange.server.isOver = true) (hserver : exchange.server.wire.outlet.written = [])
      (hclient : exchange.client.wire.outlet.written = [])
      (hdraining : Draining exchange.client.wire.reader [] [])
      (hturn : exchange.turn = .waiting .optionReply ∨ exchange.turn = .returned setting.told)

/-- A request to set the option, from the assignment to the reply. -/
inductive Course : Prop
  | asked (hasked : setting.Asked exchange)
  | replied (hreplied : setting.Replied exchange)
      (hcalls : exchange.server.calls = setting.allCalls)

variable {setting exchange}

/-! ### Moves -/

/-- The reply brings the request to its end, and nothing behind it is read. -/
theorem advance_reply (ended : Bool) (later : List Line) (outlet : Outlet) (greeting : String)
    {reply : Line} (hclosing : setting.outcome.closing = .ok reply) :
    (Client.mk ⟨.facing ended (reply :: later), outlet⟩ greeting).advance
        (.waiting .optionReply) =
      (.returned setting.told, ⟨⟨.facing ended later, outlet⟩, greeting⟩) := by
  have hreply := Outcome.isClosing_of_closing hclosing
  rw [Client.advance_of_tells ended later outlet greeting _ hreply.1 hreply.tells,
    setting.told_of_closing hclosing]
  unfold Client.hear
  split_ifs <;> exact Client.advance_returned _ _

/-- A client with the reply in front of it returns and is in step again. -/
theorem inStep_of_reply {reply : Line} (hlinked : exchange.Linked [] [] [reply] [])
    (hclosing : setting.outcome.closing = .ok reply) (hready : exchange.server.phase = .ready)
    (hturn : exchange.turn = .waiting .optionReply) :
    (exchange.move blueprint .client).InStep ∧
      (exchange.move blueprint .client).turn = .returned setting.told := by
  obtain ⟨⟨wire, greeting⟩, turn, server, gone⟩ := exchange
  obtain ⟨rfl, hserver⟩ := hlinked
  simp only at hready hturn hserver
  subst hturn
  have hnext : (Client.mk (.ofLines [reply] []) greeting).advance (.waiting .optionReply) =
      (.returned setting.told, ⟨.ofLines [] [], greeting⟩) :=
    advance_reply false [] (.holding []) greeting hclosing
  refine ⟨⟨hready, ?_, hserver⟩, ?_⟩
  · simp only [Exchange.move, hnext]
  · simp only [Exchange.move, hnext]

/-- A client that finds no reply returns that the connection is closed, or waits for the end of its
stream. -/
theorem advance_missing {cause : Failure} (hclosing : setting.outcome.closing = .error cause)
    {reader : LineReader} (hdraining : Draining reader [] []) (outlet : Outlet)
    (greeting : String) :
    let result := (Client.mk ⟨reader, outlet⟩ greeting).advance (.waiting .optionReply)
    Draining result.2.wire.reader [] [] ∧ result.2.wire.outlet = outlet ∧
      (result.1 = .returned setting.told ∨
        reader.inlet.ended = false ∧ result.1 = .waiting .optionReply) := by
  have htold := setting.told_of_no_closing hclosing
  cases hdraining with
  | opened =>
    rw [Client.advance_waiting_nil]
    exact ⟨.opened [] [], rfl, .inr ⟨rfl, rfl⟩⟩
  | ended =>
    rw [Client.advance_waiting_end, htold]
    exact ⟨.spent, rfl, .inl rfl⟩
  | spent =>
    rw [Client.advance_waiting_spent, htold]
    exact ⟨.spent, rfl, .inl rfl⟩

theorem Replied.missing_client {cause : Failure}
    (hclosing : setting.outcome.closing = .error cause) (hover : exchange.server.isOver = true)
    (hserver : exchange.server.wire.outlet.written = [])
    (hclient : exchange.client.wire.outlet.written = [])
    (hdraining : Draining exchange.client.wire.reader [] [])
    (hturn : exchange.turn = .waiting .optionReply ∨ exchange.turn = .returned setting.told) :
    setting.Replied (exchange.move blueprint .client) := by
  obtain ⟨⟨⟨reader, outlet⟩, greeting⟩, turn, server, gone⟩ := exchange
  simp only at hover hserver hclient hdraining hturn
  rcases hturn with rfl | rfl
  · obtain ⟨hdrained, houtlet, hnext⟩ := advance_missing hclosing hdraining outlet greeting
    refine .missing cause hclosing hover hserver ?_ hdrained ?_
    · simp only [Exchange.move, houtlet, hclient]
    · exact hnext.symm.imp_left And.right
  · have hstays := Client.advance_returned ⟨⟨reader, outlet⟩, greeting⟩ setting.told
    refine .missing cause hclosing hover hserver ?_ ?_ (.inr ?_)
    · simp only [Exchange.move, hstays, hclient]
    · simp only [Exchange.move, hstays]
      exact hdraining
    · simp only [Exchange.move, hstays]

/-- At the end of its stream the client returns. -/
theorem returned_of_ended {cause : Failure} (hclosing : setting.outcome.closing = .error cause)
    (hdraining : Draining exchange.client.wire.reader [] [])
    (hended : exchange.client.wire.reader.inlet.ended = true)
    (hclient : exchange.client.wire.outlet.written = [])
    (hturn : exchange.turn = .waiting .optionReply ∨ exchange.turn = .returned setting.told) :
    (exchange.move blueprint .client).turn = .returned setting.told ∧
      (exchange.move blueprint .client).client.wire.outlet.written = [] := by
  obtain ⟨⟨⟨reader, outlet⟩, greeting⟩, turn, server, gone⟩ := exchange
  simp only at hdraining hended hclient hturn
  rcases hturn with rfl | rfl
  · obtain ⟨-, houtlet, hnext⟩ := advance_missing hclosing hdraining outlet greeting
    have hreturned := hnext.resolve_right fun hwaits ↦
      Bool.false_ne_true (hwaits.1.symm.trans hended)
    refine ⟨hreturned, ?_⟩
    simp only [Exchange.move, houtlet, hclient]
  · simp only [Exchange.move, Client.advance_returned]
    exact ⟨trivial, hclient⟩

theorem Replied.move (h : setting.Replied exchange) (next : Move) :
    setting.Replied (exchange.move blueprint next) := by
  cases h with
  | coming clientInbox serverOutbox reply hlinked hlines hclosing hready hturn =>
    cases next with
    | toServer count =>
      have hmoved := linked_toServer blueprint hlinked count
      rw [List.take_nil, List.drop_nil] at hmoved
      exact .coming _ _ reply hmoved hlines hclosing hready hturn
    | toClient count =>
      refine .coming _ _ reply (linked_toClient blueprint hlinked count) ?_ hclosing hready hturn
      rw [List.append_assoc, List.take_append_drop]
      exact hlines
    | server =>
      rw [move_server_of_nil blueprint hlinked]
      exact .coming _ _ reply hlinked hlines hclosing hready hturn
    | client =>
      rcases List.append_eq_singleton_iff.1 hlines with ⟨rfl, rfl⟩ | ⟨rfl, rfl⟩
      · rw [move_client_of_nil blueprint hlinked]
        exact .coming _ _ reply hlinked rfl hclosing hready hturn
      · obtain ⟨hstep, hreturned⟩ := inStep_of_reply hlinked hclosing hready hturn
        exact .heard hstep hreturned
    | drop =>
      rw [move_drop_of_open blueprint (Conversation.isOver_of_ready hready)]
      exact .coming _ _ reply hlinked hlines hclosing hready hturn
  | heard hstep hturn =>
    rw [hstep.move_eq]
    exact .heard hstep hturn
  | missing cause hclosing hover hserver hclient hdraining hturn =>
    cases next with
    | toServer count =>
      refine .missing cause hclosing hover hserver ?_ hdraining hturn
      simp only [Exchange.move, Wire.relieved, hclient, List.drop_nil]
    | toClient count =>
      refine .missing cause hclosing hover ?_ hclient ?_ hturn
      · simp only [Exchange.move, Wire.relieved, hserver, List.drop_nil]
      · simp only [Exchange.move, Client.receive, hserver, List.take_nil, receive_nothing]
        exact hdraining
    | server =>
      rw [Exchange.move, Conversation.advance_of_isOver blueprint hover]
      exact .missing cause hclosing hover hserver hclient hdraining hturn
    | client => exact .missing_client hclosing hover hserver hclient hdraining hturn
    | drop =>
      have hwritten : exchange.server.wire.outlet.written = ([] : List Line).map Line.octets :=
        hserver
      obtain ⟨hempty, hdrained⟩ := drop_of_draining blueprint hover hwritten hdraining
      refine .missing cause hclosing (isOver_move blueprint hover .drop) hempty ?_ hdrained ?_
      · simp only [Exchange.move, hover, if_true]
        exact hclient
      · simp only [Exchange.move, hover, if_true]
        exact hturn

/-- Nothing runs once the setter has run. -/
theorem Replied.calls_move (h : setting.Replied exchange) (next : Move) :
    (exchange.move blueprint next).server.calls = exchange.server.calls := by
  cases next with
  | server =>
    cases h with
    | coming clientInbox serverOutbox reply hlinked =>
      rw [move_server_of_nil blueprint hlinked]
    | heard hstep => rw [hstep.move_eq]
    | missing cause hclosing hover =>
      rw [Exchange.move, Conversation.advance_of_isOver blueprint hover]
  | drop =>
    rw [Exchange.move]
    split_ifs <;> rfl
  | _ => rfl

/-- A conversation with the assignment in front of it runs the setter. -/
theorem replied_of_command (hlinked : exchange.Linked [setting.command] [] [] [])
    (hready : exchange.server.phase = .ready) (hstate : exchange.server.state = setting.state)
    (hcalls : exchange.server.calls = setting.calls)
    (hturn : exchange.turn = .waiting .optionReply) :
    setting.Replied (exchange.move blueprint .server) ∧
      (exchange.move blueprint .server).server.calls = setting.allCalls := by
  obtain ⟨⟨clientWire, greeting⟩, turn, ⟨wire, state, phase, calls⟩, gone⟩ := exchange
  obtain ⟨rfl, rfl⟩ := hlinked
  simp only at hready hstate hcalls hturn
  subst hready hstate hcalls hturn
  have hafter := setting.advance_command []
  cases hclosing : setting.outcome.closing with
  | ok reply =>
    rw [hclosing] at hafter
    simp only [Exchange.move, hafter]
    exact ⟨.coming [] [reply] reply ⟨rfl, rfl⟩ rfl hclosing rfl rfl, rfl⟩
  | error cause =>
    rw [hclosing] at hafter
    simp only [Exchange.move, hafter]
    exact ⟨.missing cause hclosing rfl rfl rfl (.opened [] []) (.inl rfl), rfl⟩

theorem Course.move (h : setting.Course exchange) (next : Move) :
    setting.Course (exchange.move blueprint next) := by
  cases h with
  | replied hreplied hcalls =>
    exact .replied (hreplied.move next) ((hreplied.calls_move next).trans hcalls)
  | asked hasked =>
    obtain ⟨⟨serverInbox, clientOutbox, hlinked, hlines⟩, hready, hstate, hcalls, hturn⟩ := hasked
    cases next with
    | toServer count =>
      refine .asked ⟨⟨_, _, linked_toServer blueprint hlinked count, ?_⟩, hready, hstate, hcalls,
        hturn⟩
      rw [List.append_assoc, List.take_append_drop]
      exact hlines
    | toClient count =>
      have hmoved := linked_toClient blueprint hlinked count
      rw [List.take_nil, List.drop_nil] at hmoved
      exact .asked ⟨⟨_, _, hmoved, hlines⟩, hready, hstate, hcalls, hturn⟩
    | server =>
      rcases List.append_eq_singleton_iff.1 hlines with ⟨rfl, rfl⟩ | ⟨rfl, rfl⟩
      · rw [move_server_of_nil blueprint hlinked]
        exact .asked ⟨⟨_, _, hlinked, hlines⟩, hready, hstate, hcalls, hturn⟩
      · obtain ⟨hreplied, hall⟩ := replied_of_command hlinked hready hstate hcalls hturn
        exact .replied hreplied hall
    | client =>
      rw [move_client_of_nil blueprint hlinked]
      exact .asked ⟨⟨_, _, hlinked, hlines⟩, hready, hstate, hcalls, hturn⟩
    | drop =>
      rw [move_drop_of_open blueprint (Conversation.isOver_of_ready hready)]
      exact .asked ⟨⟨_, _, hlinked, hlines⟩, hready, hstate, hcalls, hturn⟩

theorem Course.moves (h : setting.Course exchange) (run : List Move) :
    setting.Course (exchange.moves blueprint run) := by
  induction run generalizing exchange with
  | nil => exact h
  | cons next later ih => exact ih (h.move next)

/-! ### Returning -/

/-- A request that has returned has returned what the setter came to, the setter was called once,
and the two sides are in step again unless the conversation is over. -/
theorem Course.of_returned (h : setting.Course exchange) {result : Except Failure Bytes}
    (hturn : exchange.turn = .returned result) :
    result = setting.told ∧ exchange.server.calls = setting.allCalls ∧
      (exchange.server.isOver = true ∨ exchange.InStep) := by
  have hwaits : exchange.turn ≠ .waiting .optionReply := by simp [hturn]
  cases h with
  | asked hasked => exact absurd hasked.turn hwaits
  | replied hreplied hcalls =>
    cases hreplied with
    | coming clientInbox serverOutbox reply hlinked hlines hclosing hready hwaiting =>
      exact absurd hwaiting hwaits
    | heard hstep hreturned =>
      exact ⟨Turn.returned.inj (hturn.symm.trans hreturned), hcalls, .inr hstep⟩
    | missing cause hclosing hover hserver hclient hdraining hreturned =>
      exact ⟨Turn.returned.inj (hturn.symm.trans (hreturned.resolve_left hwaits)), hcalls,
        .inl hover⟩

/-- A client that returns has had the reply in front of it, and nothing else, unless the
conversation is over. -/
theorem Course.reply_of_returned (h : setting.Course exchange)
    (hwaiting : exchange.turn = .waiting .optionReply) {result : Except Failure Bytes}
    (hturn : (exchange.move blueprint .client).turn = .returned result) :
    exchange.server.isOver = true ∨
      ∃ reply, setting.outcome.closing = .ok reply ∧ exchange.Linked [] [] [reply] [] ∧
        (exchange.move blueprint .client).Linked [] [] [] [] := by
  have hmoves : exchange.move blueprint .client ≠ exchange := by
    intro hstays
    rw [hstays, hwaiting] at hturn
    cases hturn
  cases h with
  | asked hasked =>
    obtain ⟨serverInbox, clientOutbox, hlinked, -⟩ := hasked.linked
    exact absurd (move_client_of_nil blueprint hlinked) hmoves
  | replied hreplied hcalls =>
    cases hreplied with
    | coming clientInbox serverOutbox reply hlinked hlines hclosing hready =>
      rcases List.append_eq_singleton_iff.1 hlines with ⟨rfl, rfl⟩ | ⟨rfl, rfl⟩
      · exact absurd (move_client_of_nil blueprint hlinked) hmoves
      · exact .inr ⟨reply, hclosing, hlinked,
          (inStep_of_reply hlinked hclosing hready hwaiting).1.linked⟩
    | heard hstep => exact absurd (hstep.move_eq blueprint .client) hmoves
    | missing cause hclosing hover => exact .inl hover

/-- A conversation that is given everything on its way to it runs the setter, if it has not yet. -/
theorem Course.serverTurn (h : setting.Course exchange) :
    setting.Replied (exchange.serverTurn blueprint) := by
  rw [serverTurn_eq_moves]
  cases h with
  | replied hreplied hcalls => exact (hreplied.move _).move .server
  | asked hasked =>
    obtain ⟨⟨serverInbox, clientOutbox, hlinked, hlines⟩, hready, hstate, hcalls, hturn⟩ := hasked
    have hcount : exchange.client.wire.outlet.written.length = clientOutbox.length := by
      rw [hlinked.client, written_ofLines, List.length_map]
    have hmoved := linked_toServer blueprint hlinked clientOutbox.length
    rw [List.take_length, List.drop_length, hlines] at hmoved
    rw [hcount]
    exact (replied_of_command hmoved hready hstate hcalls hturn).1

/-- A client that is given everything on its way to it returns. -/
theorem Replied.clientTurn (h : setting.Replied exchange) :
    exchange.clientTurn.turn = .returned setting.told ∧
      exchange.clientTurn.client.wire.outlet.written = [] := by
  cases h with
  | coming clientInbox serverOutbox reply hlinked hlines hclosing hready hturn =>
    have hopen : ¬exchange.server.isOver = true := by
      rw [Conversation.isOver_of_ready hready]
      exact Bool.false_ne_true
    have hcount : exchange.server.wire.outlet.written.length = serverOutbox.length := by
      rw [hlinked.server, written_ofLines, List.length_map]
    have hmoved := linked_toClient blueprint hlinked serverOutbox.length
    rw [List.take_length, List.drop_length, hlines] at hmoved
    obtain ⟨hstep, hreturned⟩ := inStep_of_reply hmoved hclosing hready hturn
    rw [clientTurn_of_not_isOver blueprint hopen, hcount]
    refine ⟨hreturned, ?_⟩
    rw [moves, List.foldl_cons, List.foldl_cons, List.foldl_nil, hstep.linked.client]
    rfl
  | heard hstep hturn =>
    have hopen : ¬exchange.server.isOver = true := by
      rw [Conversation.isOver_of_ready hstep.ready]
      exact Bool.false_ne_true
    rw [clientTurn_of_not_isOver blueprint hopen, moves, List.foldl_cons, List.foldl_cons,
      List.foldl_nil, hstep.move_eq, hstep.move_eq, hstep.linked.client]
    exact ⟨hturn, rfl⟩
  | missing cause hclosing hover hserver hclient hdraining hturn =>
    have hwritten : exchange.server.wire.outlet.written = ([] : List Line).map Line.octets :=
      hserver
    obtain ⟨-, hdrained⟩ := drop_of_draining blueprint hover hwritten hdraining
    rw [clientTurn_of_isOver blueprint hover, moves, List.foldl_cons, List.foldl_cons,
      List.foldl_nil]
    refine returned_of_ended hclosing hdrained ?_ ?_ ?_
    · rw [Exchange.move, if_pos hover]
      rfl
    · rw [Exchange.move, if_pos hover]
      exact hclient
    · rw [Exchange.move, if_pos hover]
      exact hturn

theorem Course.settle (h : setting.Course exchange) {rounds : Nat} (hrounds : 0 < rounds) :
    (exchange.settle blueprint rounds).turn = .returned setting.told := by
  obtain ⟨rounds, rfl⟩ := Nat.exists_eq_add_of_lt hrounds
  obtain ⟨hturn, hwritten⟩ := h.serverTurn.clientTurn
  rw [Nat.zero_add, Exchange.settle, Exchange.round, hwritten]
  exact hturn

/-- A request to set the option begins with the assignment on its way. -/
theorem asked_of_ask (setting : Setting blueprint) (hstep : exchange.InStep)
    (hstate : exchange.server.state = setting.state)
    (hcalls : exchange.server.calls = setting.calls) {key text : String}
    (hcompose : (Request.option key text).composed = .ok setting.command) :
    setting.Asked (exchange.ask (.option key text)) := by
  obtain ⟨⟨clientWire, greeting⟩, turn, ⟨wire, state, phase, calls⟩, gone⟩ := exchange
  obtain ⟨hready, ⟨rfl, rfl⟩⟩ := hstep
  have hask := Client.ask_holding greeting (.facing false []) [] (.option key text)
  rw [hcompose] at hask
  refine ⟨⟨[], [setting.command], ⟨?_, rfl⟩, rfl⟩, hready, hstate, hcalls, ?_⟩
  · exact congrArg (·.2.wire) hask
  · exact congrArg (·.1) hask

end Setting

/-- The forms in which an option may be set are split into its key and its value, and nothing else
is split. A request to set an option, on an exchange that is in step, comes through as it was
made: whatever the value holds, the setter of the conversation runs at most once, and it runs with
the key and with the value without the spaces in front. The request returns what the setter came
to, well if and only if the setter did. The reply it then had in front of it was a single line, and
none is left on its way, unless the conversation is over. From wherever a schedule has led, a
round makes it return. -/
theorem option_comes_through (blueprint : Blueprint σ) :
    (∀ text key value : String,
      Assignment.split text = some (key, value) ↔
        Assignment.IsKey key.toList ∧ value.toList.head? ≠ some ' ' ∧
          Assignment.Spelling key.toList value.toList text.toList) ∧
      (∀ text : String,
        Assignment.split text = none ↔
          (∀ first ∈ text.toList.head?, Assignment.isKeyCharacter first = false) ∨
            ∃ mark ∈ (text.toList.dropWhile Assignment.isKeyCharacter).head?,
              mark ≠ ' ' ∧ mark ≠ '=') ∧
      ∀ (exchange : Exchange σ) (setter : OptionSetter σ) (key text : String) (octets : Bytes),
        exchange.InStep → blueprint.setter = some setter → Assignment.IsKey key.toList →
        Line.encode "OPTION" (Utf8.encode (Assignment.render key text)) = .ok octets →
        ∀ run : List Move,
          let value := String.ofList (Assignment.skipSpaces text.toList)
          let final := (setter exchange.server.state key value).1
          let outcome := (setter exchange.server.state key value).2
          let calls := exchange.server.calls ++ [.option key value final outcome]
          let later := (exchange.ask (.option key text)).moves blueprint run
          (later.server.calls = exchange.server.calls ∨ later.server.calls = calls) ∧
            (∀ result, later.turn = .returned result →
              result = (Transcript.mk (final, outcome) [] 0).told ∧
                ((∃ data, result = .ok data) ↔ outcome = .ok ()) ∧
                later.server.calls = calls ∧
                (later.server.isOver = true ∨
                  later.server.phase = .ready ∧ later.inTransit = [])) ∧
            (∀ result, later.turn = .waiting .optionReply →
              (later.move blueprint .client).turn = .returned result →
              later.server.isOver = true ∨
                ∃ reply, outcome.closing = .ok reply ∧ later.Linked [] [] [reply] [] ∧
                  (later.move blueprint .client).Linked [] [] [] []) ∧
            ∀ rounds, 0 < rounds →
              ∃ result, (later.settle blueprint rounds).turn = .returned result := by
  refine ⟨fun text key value ↦ Assignment.split_eq_some_iff,
    fun text ↦ Assignment.split_eq_none_iff, ?_⟩
  intro exchange setter key text octets hstep hsetter hkey hencode run value final outcome calls
    later
  have hoption : upperCase "OPTION" = "OPTION" := by decide
  let setting : Setting blueprint :=
    { key := key
      value := value
      setter := setter
      state := exchange.server.state
      calls := exchange.server.calls
      command := ⟨upperCase "OPTION", Utf8.encode (Assignment.render key text)⟩
      installed := hsetter
      sendable := (Line.sendable_of_encode hencode).1
      verb := hoption
      assigned := ⟨_, Utf8.decode?_encode _, Assignment.split_render hkey text⟩ }
  have hasked : setting.Course (exchange.ask (.option key text)) :=
    .asked (setting.asked_of_ask hstep rfl rfl (Line.compose_of_encode hencode))
  have hlater : setting.Course later := hasked.moves run
  refine ⟨?_, fun result hturn ↦ ?_, fun result hwaiting hturn ↦
    hlater.reply_of_returned hwaiting hturn, fun rounds hrounds ↦ ⟨_, hlater.settle hrounds⟩⟩
  · cases hlater with
    | asked hasked => exact .inl hasked.calls
    | replied hreplied hcalls => exact .inr hcalls
  · obtain ⟨htold, hcalls, hsteps⟩ := hlater.of_returned hturn
    refine ⟨htold, ?_, hcalls, hsteps.imp_right fun hstep ↦
      ⟨hstep.ready, inTransit_of_linked hstep.linked⟩⟩
    rw [htold]
    simp only [setting.told_eq_ok_iff, exists_and_left, exists_eq, and_true]
    rfl

/-- A setter that keeps a value as the state, but no empty one. -/
def keepValue : OptionSetter String :=
  fun state _ value ↦
    if value = "" then (state, .error (.report .invalidOption)) else (value, .ok ())

def keeper : Blueprint String :=
  (Blueprint.plain "" "ready").withSetter keepValue

/-- A value with spaces and an equals sign in front and a line feed at its end. -/
theorem option_comes_through_of_equals :
    let exchange := (start keeper ⟨.brokenPipe, "gone"⟩).moves keeper [.toClient 1, .client]
    let later := (exchange.ask (.option "no-grab" "  == 5%\n")).moves keeper [.toServer 1]
    let settled := later.settle keeper 1
    exchange.InStep ∧ keeper.setter = some keepValue ∧ Assignment.IsKey "no-grab".toList ∧
      (∃ octets, Line.encode "OPTION"
        (Utf8.encode (Assignment.render "no-grab" "  == 5%\n")) = .ok octets) ∧
      (∃ data, settled.turn = .returned (.ok data)) ∧
      settled.server.calls = [.option "no-grab" "== 5%\n" "== 5%\n" (.ok ())] := by
  intro exchange later settled
  have hstep : exchange.InStep := by
    have hturn : exchange.turn = .returned (.ok []) := turn_of_outcome? (by decide +kernel)
    have hopen : exchange.server.isOver = false := by decide +kernel
    exact (inStep_of_connected keeper _ _ hturn).resolve_left (by rw [hopen]; decide)
  have hkey : Assignment.IsKey "no-grab".toList :=
    ⟨by decide, List.all_eq_true.1 (by decide)⟩
  have hencode : Line.encode "OPTION"
      (Utf8.encode (Assignment.render "no-grab" "  == 5%\n")) = .ok _ :=
    Line.encode_eq_ok_iff.2 ⟨by decide, by decide, rfl⟩
  have hcomes := (option_comes_through keeper).2.2 exchange keepValue "no-grab" "  == 5%\n" _
    hstep rfl hkey hencode
  obtain ⟨result, hresult⟩ := (hcomes [.toServer 1]).2.2.2 1 Nat.one_pos
  obtain ⟨rest, hrest⟩ := settle_eq_moves keeper 1 later
  have hreturned : ((exchange.ask (.option "no-grab" "  == 5%\n")).moves keeper
      ([.toServer 1] ++ rest)).turn = .returned result := by
    rw [moves_append, ← hrest]
    exact hresult
  obtain ⟨-, hgood, hcalls, -⟩ := (hcomes ([.toServer 1] ++ rest)).2.1 result hreturned
  rw [moves_append, ← hrest] at hcalls
  obtain ⟨data, rfl⟩ := hgood.2 rfl
  exact ⟨hstep, rfl, hkey, ⟨_, hencode⟩, ⟨data, hresult⟩, hcalls⟩

end Exchange

end LineProtocol
