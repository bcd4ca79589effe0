import LineProtocol.Proofs.Client.Forsaken
import LineProtocol.Proofs.Exchange.InStep
import LineProtocol.Proofs.Exchange.Underway

/-!
# The reply to one's own command

`Own` follows a command with no answers prepared from the request on. The command is on its way, or
the client has something to hear of what the command's program sent (`Remains`), while the
conversation waits or is over, or the request has returned what the program comes to, or it is
forsaken. Every move keeps to that (`Own.move`), and a read of the client that gives up as well
(`Own.expire`). Nothing that any other command sent comes in between, provided the two sides were
attuned when the request was made (`own_ask`).
-/

set_option autoImplicit false

namespace LineProtocol

namespace Exchange

variable {σ : Type}

/-! ### What remains of a reply -/

/-- What is still to hear of a command's reply by a client that has collected some of its data. -/
inductive Remains (program : Program (σ × Outcome)) (collected : Bytes) : List Line → Prop
  | closes (final : σ) (outcome : Outcome) (inner : List Line) (closing : Line)
      (hstage : program.stage.2 = .finished (final, outcome))
      (hclosing : outcome.closing = .ok closing) (hinner : ∀ line ∈ inner, line.IsInner)
      (hdata : program.stage.1.flatMap Line.data = collected ++ inner.flatMap Line.data) :
      Remains program collected (inner ++ [closing])
  | asks (inner : List Line) (inquiry : Line) (hinner : ∀ line ∈ inner, line.IsInner)
      (hinquiry : inquiry.IsInquiry) : Remains program collected (inner ++ [inquiry])
  | breaksOff (inner : List Line) (hinner : ∀ line ∈ inner, line.IsInner) :
      Remains program collected inner

/-- The request has returned what the program comes to without any answers. -/
def Told (program : Program (σ × Outcome)) (turn : Turn) : Prop :=
  ∃ transcript, Program.consult [] program [] = some transcript ∧
    turn = .returned transcript.told

/-- A client with no answers prepared hears what remains of a reply: it is told what the program
came to, or is forsaken, or waits for the rest. -/
def Heard (program : Program (σ × Outcome)) (reader : LineReader) (collected : Bytes)
    (outbox : List Line) : Prop :=
  ∀ outlet greeting,
    let result := (Client.mk ⟨reader, outlet⟩ greeting).advance (.waiting (.reply collected []))
    Told program result.1 ∨ result.1.Forsaken ∨
      ∃ more, result = (.waiting (.reply more []), ⟨⟨.facing false [], outlet⟩, greeting⟩) ∧
        (∃ inbox, reader = .facing false inbox) ∧ Remains program more outbox

variable {program : Program (σ × Outcome)} {collected : Bytes} {inbox outbox : List Line}

theorem told_of_closing {final : σ} {outcome : Outcome} {closing : Line}
    (hstage : program.stage.2 = .finished (final, outcome))
    (hclosing : outcome.closing = .ok closing)
    (hdata : program.stage.1.flatMap Line.data = collected) :
    Told program (.returned
      (if closing.verb = "OK" then .ok collected else .error (Client.reported closing))) := by
  have hconsults := Program.consult_eq [] [] program
  rw [hstage] at hconsults
  refine ⟨_, hconsults.2, ?_⟩
  rw [Transcript.told_of_closing hclosing, hdata]

/-- The first lines of a reply are heard and the rest is waited for. -/
theorem Heard.of_inner {outbox : List Line} (hinner : ∀ line ∈ inbox, line.IsInner)
    (hremains : Remains program (collected ++ inbox.flatMap Line.data) outbox) :
    Heard program (.facing false inbox) collected outbox := by
  intro outlet greeting result
  refine .inr (.inr ⟨_, ?_, ⟨inbox, rfl⟩, hremains⟩)
  exact Client.advance_inner_only outlet greeting (.reply collected []) hinner False.elim

/-- The closing line tells the client what the program came to. -/
theorem Heard.of_closing (ended : Bool) {final : σ} {outcome : Outcome} {inner : List Line}
    {closing : Line} (hstage : program.stage.2 = .finished (final, outcome))
    (hclosing : outcome.closing = .ok closing) (hinner : ∀ line ∈ inner, line.IsInner)
    (hdata : program.stage.1.flatMap Line.data = collected ++ inner.flatMap Line.data) :
    Heard program (.facing ended (inner ++ [closing])) collected [] := by
  intro outlet greeting result
  have hheard := Client.advance_inner ended [closing] outlet greeting (.reply collected []) hinner
    False.elim
  have hclosed := Client.advance_closing_reply ended [] outlet greeting
    (collected ++ inner.flatMap Line.data) [] (Outcome.isClosing_of_closing hclosing)
  have hresult : result.1 = _ := congrArg Prod.fst (hheard.trans hclosed)
  rw [hresult]
  exact .inl (told_of_closing hstage hclosing hdata)

/-- An inquiry makes the client cancel. -/
theorem Heard.of_inquiry (ended : Bool) {inner : List Line} {inquiry : Line}
    (hinner : ∀ line ∈ inner, line.IsInner) (hinquiry : inquiry.IsInquiry) :
    Heard program (.facing ended (inner ++ [inquiry])) collected [] := by
  intro outlet greeting result
  have hheard := Client.advance_inner ended [inquiry] outlet greeting (.reply collected []) hinner
    False.elim
  have hinquired := Client.advance_inquiry ended [] outlet greeting
    (collected ++ inner.flatMap Line.data) [] hinquiry
  have hresult : result = _ := hheard.trans hinquired
  rw [hresult]
  exact .inr (.inl ((Client.forsaken_answer_nil _ _ inquiry).advance _))

theorem Remains.heard {reader : LineReader} (h : Remains program collected (inbox ++ outbox))
    (hdraining : Draining reader inbox outbox) : Heard program reader collected outbox := by
  generalize hlines : inbox ++ outbox = left at h
  cases hdraining with
  | opened inbox outbox =>
    cases h with
    | closes final outcome inner closing hstage hclosing hinner hdata =>
      rcases split_last hlines.symm with ⟨rfl, rfl⟩ | ⟨rest, rfl, rfl⟩
      · exact .of_closing false hstage hclosing hinner hdata
      · obtain ⟨hcome, hrest⟩ := List.forall_mem_append.1 hinner
        rw [List.flatMap_append, ← List.append_assoc] at hdata
        exact .of_inner hcome (.closes final outcome rest closing hstage hclosing hrest hdata)
    | asks inner inquiry hinner hinquiry =>
      rcases split_last hlines.symm with ⟨rfl, rfl⟩ | ⟨rest, rfl, rfl⟩
      · exact .of_inquiry false hinner hinquiry
      · obtain ⟨hcome, hrest⟩ := List.forall_mem_append.1 hinner
        exact .of_inner hcome (.asks rest inquiry hrest hinquiry)
    | breaksOff inner hinner =>
      subst hlines
      obtain ⟨hcome, hrest⟩ := List.forall_mem_append.1 hinner
      exact .of_inner hcome (.breaksOff outbox hrest)
  | ended inbox =>
    rw [List.append_nil] at hlines
    subst hlines
    cases h with
    | closes final outcome inner closing hstage hclosing hinner hdata =>
      exact .of_closing true hstage hclosing hinner hdata
    | asks inner inquiry hinner hinquiry => exact .of_inquiry true hinner hinquiry
    | breaksOff inner hinner =>
      intro outlet greeting result
      have hresult : result = _ := Client.advance_inner_end outlet greeting hinner collected []
      rw [hresult]
      exact .inr (.inl Turn.forsaken_closed)
  | spent =>
    intro outlet greeting result
    have hresult : result = _ :=
      Client.advance_waiting_spent outlet greeting (.reply collected [])
    rw [hresult]
    exact .inr (.inl Turn.forsaken_closed)

/-- The client's read gives up, unless there is enough for the request to return. -/
def expire (exchange : Exchange σ) : Exchange σ :=
  { exchange with
    client := (exchange.client.expire exchange.turn).2
    turn := (exchange.client.expire exchange.turn).1 }

/-- A read that gives up leaves the client told or forsaken. -/
theorem Heard.expire {reader : LineReader} (h : Heard program reader collected outbox)
    (outlet : Outlet) (greeting : String) :
    let next := ((Client.mk ⟨reader, outlet⟩ greeting).expire (.waiting (.reply collected []))).1
    Told program next ∨ next.Forsaken := by
  intro next
  rcases h outlet greeting with ⟨transcript, hconsult, hturn⟩ | hforsaken | ⟨more, hwaiting, -⟩
  · exact .inl ⟨transcript, hconsult, Client.expire_of_returned hturn⟩
  · exact .inr (Turn.forsaken_expire hforsaken)
  · have hnext : next = _ := Client.expire_of_waiting outlet greeting hwaiting
    rw [hnext]
    exact .inr (Turn.forsaken_of_error fun _ h ↦ nomatch h)

/-! ### The course of a command -/

variable (blueprint : Blueprint σ) (command : Line) (state : σ) {exchange : Exchange σ}

/-- An exchange in which the client has run a command with no answers prepared, and nothing has
come between it and the reply. -/
inductive Own (exchange : Exchange σ) : Prop
  /-- The command is on its way. -/
  | asked (serverInbox clientOutbox : List Line)
      (hlinked : exchange.Linked serverInbox clientOutbox [] [])
      (hlines : serverInbox ++ clientOutbox = [command]) (hphase : exchange.server.phase = .ready)
      (hstate : exchange.server.state = state) (hturn : exchange.turn = .waiting (.reply [] []))
  /-- The conversation waits, and the client has something to hear. -/
  | attended (collected : Bytes) (clientInbox serverOutbox : List Line)
      (hlinked : exchange.Linked [] [] clientInbox serverOutbox)
      (hopen : exchange.server.isOver = false)
      (hturn : exchange.turn = .waiting (.reply collected []))
      (hremains : Remains ((Action.ofCommand blueprint command).program state) collected
        (clientInbox ++ serverOutbox))
  /-- The conversation is over, and the client has something to hear. -/
  | deserted (collected : Bytes) (inbox outbox : List Line)
      (hover : exchange.server.isOver = true)
      (hwritten : exchange.server.wire.outlet.written = outbox.map Line.octets)
      (hdraining : Draining exchange.client.wire.reader inbox outbox)
      (hturn : exchange.turn = .waiting (.reply collected []))
      (hremains : Remains ((Action.ofCommand blueprint command).program state) collected
        (inbox ++ outbox))
  | forsaken (hforsaken : exchange.turn.Forsaken)
  | told (htold : Told ((Action.ofCommand blueprint command).program state) exchange.turn)

variable {blueprint command state}

/-- A conversation that has taken the command leaves its reply to be heard. -/
theorem Own.of_replies {greeting : String} {gone : IoError} {after : Conversation σ}
    (h : Conversation.Replies [] ((Action.ofCommand blueprint command).program state) after) :
    Own blueprint command state
      ⟨⟨.ofLines [] [], greeting⟩, .waiting (.reply [] []), after, gone⟩ := by
  have hlines := ((Action.ofCommand blueprint command).program state).stage_lines
  cases h with
  | closes final outcome closing hstage hclosing hstate hphase hwire =>
    rw [hstage] at hlines
    have hremains : Remains ((Action.ofCommand blueprint command).program state) [] _ :=
      .closes final outcome _ closing hstage hclosing hlines rfl
    rcases hphase with hphase | hphase
    · exact .attended [] [] _ ⟨rfl, hwire⟩ (Conversation.isOver_of_ready hphase) rfl hremains
    · refine .deserted [] [] _ (Conversation.isOver_of_ended hphase) ?_ (.opened [] _) rfl hremains
      rw [hwire]
      rfl
  | fails final outcome cause hstage hclosing hphase hwire =>
    rw [hstage] at hlines
    refine .deserted [] [] _ (Conversation.isOver_of_ended hphase) ?_ (.opened [] _) rfl
      (.breaksOff _ hlines)
    rw [hwire]
    rfl
  | asks pending hstage hcollected hphase hwire =>
    rw [hstage] at hlines
    obtain ⟨inner, inquiry, hsent, hinner, hinquiry⟩ := hlines
    exact .attended [] [] (inner ++ [inquiry]) ⟨rfl, hsent ▸ hwire⟩
      (Conversation.isOver_of_asking hphase) rfl (.asks inner inquiry hinner hinquiry)

theorem Own.server (h : Own blueprint command state exchange) (hcommand : command.Sendable) :
    Own blueprint command state (exchange.move blueprint .server) := by
  cases h with
  | asked serverInbox clientOutbox hlinked hlines hphase hstate hturn =>
    rcases List.append_eq_singleton_iff.1 hlines with ⟨rfl, rfl⟩ | ⟨rfl, rfl⟩
    · rw [move_server_of_nil blueprint hlinked]
      exact .asked [] _ hlinked hlines hphase hstate hturn
    · obtain ⟨⟨clientWire, greeting⟩, turn, ⟨wire, found, phase, calls⟩, gone⟩ := exchange
      obtain ⟨rfl, rfl⟩ := hlinked
      simp only at hphase hstate hturn
      subst hphase hstate hturn
      by_cases hinforms : command.onlyInforms = true
      case pos =>
        have hafter := Conversation.takeCommands_of_informs [] found calls blueprint hcommand
          hinforms
        refine .attended [] [] [] ⟨rfl, ?_⟩ ?_ rfl (.breaksOff [] (List.forall_mem_nil _))
        · exact congrArg Conversation.wire hafter
        · exact congrArg Conversation.isOver hafter
      case neg =>
        exact .of_replies (Conversation.advance_of_command [] found calls blueprint hcommand
          (Bool.not_eq_true _ ▸ hinforms))
  | attended collected clientInbox serverOutbox hlinked hopen hturn hremains =>
    rw [move_server_of_nil blueprint hlinked]
    exact .attended collected clientInbox serverOutbox hlinked hopen hturn hremains
  | deserted collected inbox outbox hover hwritten hdraining hturn hremains =>
    have hstays : exchange.move blueprint .server = exchange := by
      rw [move, Conversation.advance_of_isOver blueprint hover]
    rw [hstays]
    exact .deserted collected inbox outbox hover hwritten hdraining hturn hremains
  | forsaken hforsaken => exact .forsaken hforsaken
  | told htold => exact .told htold

theorem Own.client (h : Own blueprint command state exchange) :
    Own blueprint command state (exchange.move blueprint .client) := by
  cases h with
  | asked serverInbox clientOutbox hlinked hlines hphase hstate hturn =>
    rw [move_client_of_nil blueprint hlinked]
    exact .asked serverInbox clientOutbox hlinked hlines hphase hstate hturn
  | attended collected clientInbox serverOutbox hlinked hopen hturn hremains =>
    obtain ⟨⟨clientWire, greeting⟩, turn, server, gone⟩ := exchange
    obtain ⟨rfl, hserver⟩ := hlinked
    simp only at hturn hserver
    subst hturn
    rcases hremains.heard (.opened clientInbox serverOutbox) (.holding []) greeting with
      htold | hforsaken | ⟨more, hwaiting, -, hmore⟩
    · exact .told htold
    · exact .forsaken hforsaken
    · exact .attended more [] serverOutbox ⟨congrArg (·.2.wire) hwaiting, hserver⟩ hopen
        (congrArg Prod.fst hwaiting) hmore
  | deserted collected inbox outbox hover hwritten hdraining hturn hremains =>
    obtain ⟨⟨⟨reader, outlet⟩, greeting⟩, turn, server, gone⟩ := exchange
    simp only at hturn hdraining
    subst hturn
    rcases hremains.heard hdraining outlet greeting with
      htold | hforsaken | ⟨more, hwaiting, -, hmore⟩
    · exact .told htold
    · exact .forsaken hforsaken
    · have hreader : ((Client.mk ⟨reader, outlet⟩ greeting).advance
          (.waiting (.reply collected []))).2.wire.reader = .facing false [] :=
        congrArg (·.2.wire.reader) hwaiting
      refine .deserted more [] outbox hover hwritten ?_ (congrArg Prod.fst hwaiting) hmore
      simp only [move, hreader]
      exact .opened [] outbox
  | forsaken hforsaken => exact .forsaken (hforsaken.advance _)
  | told htold =>
    obtain ⟨transcript, hconsult, hturn⟩ := htold
    refine .told ⟨transcript, hconsult, ?_⟩
    simp only [move, hturn, Client.advance_returned]

theorem Own.expire (h : Own blueprint command state exchange) :
    Own blueprint command state exchange.expire := by
  cases h with
  | asked serverInbox clientOutbox hlinked hlines hphase hstate hturn =>
    obtain ⟨⟨clientWire, greeting⟩, turn, server, gone⟩ := exchange
    obtain ⟨rfl, hserver⟩ := hlinked
    simp only at hturn
    subst hturn
    have hwaiting := Client.advance_waiting_nil (.holding clientOutbox) greeting (.reply [] [])
    have hnext : ((Client.mk (.ofLines [] clientOutbox) greeting).expire
        (.waiting (.reply [] []))).1 = _ :=
      Client.expire_of_waiting _ greeting hwaiting
    refine .forsaken ?_
    simp only [Exchange.expire, hnext]
    exact Turn.forsaken_of_error fun _ h ↦ nomatch h
  | attended collected clientInbox serverOutbox hlinked hopen hturn hremains =>
    obtain ⟨⟨clientWire, greeting⟩, turn, server, gone⟩ := exchange
    obtain ⟨rfl, hserver⟩ := hlinked
    simp only at hturn
    subst hturn
    rcases (hremains.heard (.opened clientInbox serverOutbox)).expire (.holding []) greeting with
      htold | hforsaken
    · exact .told htold
    · exact .forsaken hforsaken
  | deserted collected inbox outbox hover hwritten hdraining hturn hremains =>
    obtain ⟨⟨⟨reader, outlet⟩, greeting⟩, turn, server, gone⟩ := exchange
    simp only at hturn hdraining
    subst hturn
    rcases (hremains.heard hdraining).expire outlet greeting with htold | hforsaken
    · exact .told htold
    · exact .forsaken hforsaken
  | forsaken hforsaken => exact .forsaken (Turn.forsaken_expire (hforsaken.advance _))
  | told htold =>
    obtain ⟨transcript, hconsult, hturn⟩ := htold
    refine .told ⟨transcript, hconsult, Client.expire_of_returned ?_⟩
    rw [hturn, Client.advance_returned]

/-- Only a client that goes on comes to another turn. -/
theorem turn_move_of_ne {next : Move} (h : next ≠ .client) :
    (exchange.move blueprint next).turn = exchange.turn := by
  cases next with
  | client => exact absurd rfl h
  | drop =>
    rw [move]
    split_ifs <;> rfl
  | _ => rfl

theorem forsaken_move (blueprint : Blueprint σ) (h : exchange.turn.Forsaken) (next : Move) :
    (exchange.move blueprint next).turn.Forsaken := by
  cases next with
  | client => exact h.advance exchange.client
  | _ =>
    rw [turn_move_of_ne (by simp)]
    exact h

/-- Whatever move is made, nothing comes between a command and its reply. -/
theorem Own.move (h : Own blueprint command state exchange) (hcommand : command.Sendable)
    (next : Move) : Own blueprint command state (exchange.move blueprint next) := by
  have htold : next ≠ .client →
      Told ((Action.ofCommand blueprint command).program state) exchange.turn →
        Own blueprint command state (exchange.move blueprint next) := by
    intro hother htold
    exact .told (by rwa [turn_move_of_ne hother])
  cases next with
  | server => exact h.server hcommand
  | client => exact h.client
  | toServer count =>
    cases h with
    | asked serverInbox clientOutbox hlinked hlines hphase hstate hturn =>
      refine .asked _ _ (linked_toServer blueprint hlinked count) ?_ hphase hstate hturn
      rw [List.append_assoc, List.take_append_drop]
      exact hlines
    | attended collected clientInbox serverOutbox hlinked hopen hturn hremains =>
      have hmoved := linked_toServer blueprint hlinked count
      rw [List.take_nil, List.drop_nil] at hmoved
      exact .attended collected clientInbox serverOutbox hmoved hopen hturn hremains
    | deserted collected inbox outbox hover hwritten hdraining hturn hremains =>
      exact .deserted collected inbox outbox hover hwritten hdraining hturn hremains
    | forsaken hforsaken => exact .forsaken (forsaken_move blueprint hforsaken _)
    | told hresult => exact htold (by simp) hresult
  | toClient count =>
    cases h with
    | asked serverInbox clientOutbox hlinked hlines hphase hstate hturn =>
      have hmoved := linked_toClient blueprint hlinked count
      rw [List.take_nil, List.drop_nil] at hmoved
      exact .asked serverInbox clientOutbox hmoved hlines hphase hstate hturn
    | attended collected clientInbox serverOutbox hlinked hopen hturn hremains =>
      refine .attended collected _ _ (linked_toClient blueprint hlinked count) hopen hturn ?_
      rw [List.append_assoc, List.take_append_drop]
      exact hremains
    | deserted collected inbox outbox hover hwritten hdraining hturn hremains =>
      refine .deserted collected (inbox ++ outbox.take count) (outbox.drop count) hover ?_ ?_ hturn
        ?_
      · simp only [Exchange.move, Wire.relieved, hwritten, List.map_drop]
      · simp only [Exchange.move, Client.receive, hwritten]
        exact hdraining.receive count
      · rw [List.append_assoc, List.take_append_drop]
        exact hremains
    | forsaken hforsaken => exact .forsaken (forsaken_move blueprint hforsaken _)
    | told hresult => exact htold (by simp) hresult
  | drop =>
    cases h with
    | asked serverInbox clientOutbox hlinked hlines hphase hstate hturn =>
      rw [move_drop_of_open blueprint (Conversation.isOver_of_ready hphase)]
      exact .asked serverInbox clientOutbox hlinked hlines hphase hstate hturn
    | attended collected clientInbox serverOutbox hlinked hopen hturn hremains =>
      rw [move_drop_of_open blueprint hopen]
      exact .attended collected clientInbox serverOutbox hlinked hopen hturn hremains
    | deserted collected inbox outbox hover hwritten hdraining hturn hremains =>
      obtain ⟨hempty, hdrained⟩ := drop_of_draining blueprint hover hwritten hdraining
      refine .deserted collected (inbox ++ outbox) [] (isOver_move blueprint hover .drop) hempty
        hdrained ?_ ?_
      · rw [turn_move_of_ne (by simp), hturn]
      · rw [List.append_nil]
        exact hremains
    | forsaken hforsaken => exact .forsaken (forsaken_move blueprint hforsaken _)
    | told hresult => exact htold (by simp) hresult

/-- A request that has returned has returned what its program comes to, or is forsaken. -/
theorem Own.of_returned (h : Own blueprint command state exchange)
    {outcome : Except Failure Bytes} (hturn : exchange.turn = .returned outcome) :
    Told ((Action.ofCommand blueprint command).program state) exchange.turn ∨
      exchange.turn.Forsaken := by
  have hwaits : ∀ awaiting, exchange.turn ≠ .waiting awaiting := by simp [hturn]
  cases h with
  | told htold => exact .inl htold
  | forsaken hforsaken => exact .inr hforsaken
  | asked serverInbox clientOutbox hlinked hlines hphase hstate hwaiting =>
    exact absurd hwaiting (hwaits _)
  | attended collected clientInbox serverOutbox hlinked hopen hwaiting =>
    exact absurd hwaiting (hwaits _)
  | deserted collected inbox outbox hover hwritten hdraining hwaiting =>
    exact absurd hwaiting (hwaits _)

/-- A command that cannot be written is forsaken at once. -/
theorem forsaken_ask {verb : String} {parameters : Bytes} {cause : Failure}
    (h : (exchange.client.wire.outlet.sendLine verb parameters).1 = .error cause) :
    (exchange.ask (.command verb parameters [])).turn.Forsaken := by
  simp only [ask, Client.ask, Client.afterWrite, h]
  exact Turn.forsaken_of_error (Outlet.sendLine_ne_peer h)

/-- A command that is written between two sides that are attuned has its reply to itself. -/
theorem own_ask {terms : Terms} (h : exchange.Attuned terms) {previous : Except Failure Bytes}
    (hturn : exchange.turn = .returned previous) {verb : String} {parameters : Bytes}
    (hcommand : Line.compose verb parameters = .ok command) :
    Own blueprint command exchange.server.state (exchange.ask (.command verb parameters [])) := by
  rcases h with ⟨inbox, outbox, hparted⟩ |
    ⟨serverInbox, clientOutbox, clientInbox, serverOutbox, hlinked, htouch⟩
  · have hnone := hparted.parting.of_returned hturn
    cases hsent : (exchange.client.wire.outlet.sendLine verb parameters).1 with
    | error cause => exact .forsaken (forsaken_ask hsent)
    | ok done =>
      refine .deserted [] inbox outbox hparted.hover hparted.written ?_ ?_ ?_
      · simp only [Exchange.ask, Client.reader_ask]
        exact hparted.draining
      · simp only [ask, Client.ask, Client.afterWrite, hsent]
      · rw [hnone]
        exact .breaksOff [] (List.forall_mem_nil _)
  · obtain ⟨hready, hserver, hclient⟩ := htouch.of_returned hturn
    obtain ⟨⟨clientWire, greeting⟩, turn, ⟨wire, state, phase, calls⟩, gone⟩ := exchange
    obtain ⟨rfl, rfl⟩ := hlinked.of_append_eq_nil hserver hclient
    simp only at hready
    subst hready
    have hask := Client.ask_holding greeting (.facing false []) [] (.command verb parameters [])
    simp only [Request.composed, hcommand] at hask
    exact .asked [] [command] ⟨congrArg (·.2.wire) hask, rfl⟩ rfl rfl rfl (congrArg (·.1) hask)

end Exchange

end LineProtocol
