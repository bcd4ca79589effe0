import LineProtocol.Proofs.Exchange.InStep
import LineProtocol.Proofs.Exchange.Underway

/-!
# Transactions

An exchange that carries a transaction is under way with it, or the conversation has ended without
a closing line and has dropped its end (`Going`). Every move keeps it so (`Going.move`), and a
request that has returned tells what the handler came to. In each round the client either returns
or answers an inquiry, which leaves one less (`Going.round`), so as many rounds as there are
inquiries and one more bring any transaction to its end.
-/

set_option autoImplicit false

namespace LineProtocol

variable {σ : Type}

namespace Exchange

namespace Transaction

variable {blueprint : Blueprint σ} {transaction : Transaction blueprint} {exchange : Exchange σ}
  {remaining : Nat}

/-! ### Exchanges -/

/-- The conversation has ended without a closing line and has dropped its end. -/
structure Lost (transaction : Transaction blueprint) (exchange : Exchange σ) : Prop where
  hover : exchange.server.isOver = true
  calls : exchange.server.calls = transaction.allCalls
  told : transaction.transcript.told = .error .closed
  server : exchange.server.wire.outlet.written = []
  client : exchange.client.wire.outlet.written = []
  turn : exchange.turn = .returned (.error .closed) ∨
    ∃ collected current inner, exchange.turn = .waiting (.reply collected current) ∧
      exchange.client.wire.reader = .facing true inner ∧ ∀ line ∈ inner, line.IsInner

/-- An exchange with the transaction under way, or at its end. -/
def Going (transaction : Transaction blueprint) (exchange : Exchange σ)
    (remaining : Nat) : Prop :=
  transaction.Lost exchange ∨
    ∃ serverInbox clientOutbox clientInbox serverOutbox,
      exchange.Linked serverInbox clientOutbox clientInbox serverOutbox ∧
      transaction.Underway exchange.server.state exchange.server.phase exchange.server.calls
        exchange.turn remaining (serverInbox ++ clientOutbox) (clientInbox ++ serverOutbox)

/-- A client whose connection is lost returns that it is closed. -/
theorem Lost.client_move (h : transaction.Lost exchange) :
    transaction.Lost (exchange.move blueprint .client) ∧
      (exchange.move blueprint .client).turn = .returned (.error .closed) := by
  obtain ⟨⟨⟨reader, outlet⟩, greeting⟩, turn, server, gone⟩ := exchange
  obtain ⟨hover, hcalls, htold, hserver, hclient, hturn⟩ := h
  rcases hturn with hturn | ⟨collected, current, inner, hturn, hreader, hinner⟩
  · simp only at hturn
    subst hturn
    simp only [Exchange.move, Client.advance_returned]
    exact ⟨⟨hover, hcalls, htold, hserver, hclient, .inl rfl⟩, trivial⟩
  · simp only at hturn hreader
    subst hturn hreader
    simp only [Exchange.move, Client.advance_inner_end outlet greeting hinner]
    exact ⟨⟨hover, hcalls, htold, hserver, hclient, .inl rfl⟩, trivial⟩

theorem Lost.move (h : transaction.Lost exchange) (next : Move) :
    transaction.Lost (exchange.move blueprint next) := by
  cases next with
  | toServer count =>
    refine ⟨h.hover, h.calls, h.told, h.server, ?_, h.turn⟩
    simp only [Exchange.move, Wire.relieved, h.client, List.drop_nil]
  | toClient count =>
    refine ⟨h.hover, h.calls, h.told, ?_, h.client, ?_⟩
    · simp only [Exchange.move, Wire.relieved, h.server, List.drop_nil]
    · simp only [Exchange.move, Client.receive, h.server, List.take_nil, receive_nothing]
      exact h.turn
  | server =>
    have hstays : exchange.move blueprint .server = exchange := by
      rw [Exchange.move, Conversation.advance_of_isOver blueprint h.hover]
    rw [hstays]
    exact h
  | client => exact h.client_move.1
  | drop =>
    simp only [Exchange.move, h.hover, if_true, arriving, h.server, Client.receive,
      receive_nothing]
    refine ⟨h.hover, h.calls, h.told, rfl, h.client, ?_⟩
    rcases h.turn with hturn | ⟨collected, current, inner, hturn, hreader, hinner⟩
    · exact .inl hturn
    · refine .inr ⟨collected, current, inner, hturn, ?_, hinner⟩
      simp only [Client.broken, Client.finish, Wire.broken, Wire.finish, hreader]
      rfl

/-- A conversation that has ended and drops its end leaves the transaction lost. -/
theorem Underway.drop {clientInbox clientOutbox serverInbox serverOutbox : List Line}
    (hlinked : exchange.Linked serverInbox clientOutbox clientInbox serverOutbox)
    (h : transaction.Underway exchange.server.state exchange.server.phase exchange.server.calls
      exchange.turn remaining (serverInbox ++ clientOutbox) (clientInbox ++ serverOutbox))
    (hover : exchange.server.isOver = true) :
    transaction.Lost (exchange.move blueprint .drop) := by
  obtain ⟨⟨clientWire, greeting⟩, turn, ⟨wire, state, phase, calls⟩, gone⟩ := exchange
  obtain ⟨rfl, rfl⟩ := hlinked
  simp only [Exchange.move, hover, if_true]
  generalize htoServer : serverInbox ++ clientOutbox = toServer at h
  generalize htoClient : clientInbox ++ serverOutbox = toClient at h
  cases h with
  | failed remaining collected current inner cause hphase hcalls hturn hinner htold =>
    obtain ⟨rfl, rfl⟩ := List.append_eq_nil_iff.1 htoServer
    subst htoClient
    refine ⟨hover, hcalls, htold, rfl, rfl, .inr ⟨collected, current, _, hturn, ?_, hinner⟩⟩
    simp only [Client.receive, arriving, written_ofLines, receive_ofLines]
    rfl
  | _ => simp_all [Conversation.isOver, Conversation.result?]

/-- Every move keeps a transaction going. -/
theorem Going.move (h : transaction.Going exchange remaining) (next : Move) :
    ∃ fewer, transaction.Going (exchange.move blueprint next) fewer ∧ fewer ≤ remaining := by
  rcases h with hlost | ⟨serverInbox, clientOutbox, clientInbox, serverOutbox, hlinked, hunderway⟩
  · exact ⟨remaining, .inl (hlost.move next), Nat.le_refl _⟩
  cases next with
  | toServer count =>
    refine ⟨remaining, .inr ⟨_, _, _, _, linked_toServer blueprint hlinked count, ?_⟩,
      Nat.le_refl _⟩
    rw [List.append_assoc, List.take_append_drop]
    exact hunderway
  | toClient count =>
    refine ⟨remaining, .inr ⟨_, _, _, _, linked_toClient blueprint hlinked count, ?_⟩,
      Nat.le_refl _⟩
    rw [List.append_assoc, List.take_append_drop]
    exact hunderway
  | server =>
    obtain ⟨⟨clientWire, greeting⟩, turn, ⟨wire, state, phase, calls⟩, gone⟩ := exchange
    obtain ⟨rfl, rfl⟩ := hlinked
    obtain ⟨sent, hwire, hafter⟩ := hunderway.server serverOutbox
    refine ⟨remaining, .inr ⟨[], clientOutbox, clientInbox, serverOutbox ++ sent, ⟨rfl, hwire⟩,
      ?_⟩, Nat.le_refl _⟩
    rw [← List.append_assoc]
    exact hafter
  | client =>
    obtain ⟨⟨clientWire, greeting⟩, turn, ⟨wire, state, phase, calls⟩, gone⟩ := exchange
    obtain ⟨rfl, rfl⟩ := hlinked
    obtain ⟨next, sent, heard, fewer, hadvance, hafter, hfewer, -⟩ :=
      hunderway.client clientOutbox greeting
    refine ⟨fewer, .inr ⟨serverInbox, clientOutbox ++ sent, [], serverOutbox, ⟨?_, rfl⟩, ?_⟩,
      hfewer⟩
    · simp only [Exchange.move, hadvance]
    · simp only [Exchange.move, hadvance]
      rw [← List.append_assoc]
      exact hafter
  | drop =>
    by_cases hover : exchange.server.isOver = true
    · exact ⟨remaining, .inl (Underway.drop hlinked hunderway hover), Nat.le_refl _⟩
    · rw [Exchange.move, if_neg hover]
      exact ⟨remaining, .inr ⟨_, _, _, _, hlinked, hunderway⟩, Nat.le_refl _⟩

theorem Going.moves (h : transaction.Going exchange remaining) (run : List Move) :
    ∃ fewer, transaction.Going (exchange.moves blueprint run) fewer ∧ fewer ≤ remaining := by
  induction run generalizing exchange remaining with
  | nil => exact ⟨remaining, h, Nat.le_refl _⟩
  | cons next later ih =>
    obtain ⟨middle, hmiddle, hle⟩ := h.move next
    obtain ⟨fewer, hfewer, hless⟩ := ih hmiddle
    exact ⟨fewer, hfewer, Nat.le_trans hless hle⟩

/-- A request that has returned has returned what its handler came to, and the handler was called
once. -/
theorem Going.of_returned (h : transaction.Going exchange remaining)
    {outcome : Except Failure Bytes} (hturn : exchange.turn = .returned outcome) :
    outcome = transaction.transcript.told ∧ exchange.server.calls = transaction.allCalls := by
  rcases h with hlost | ⟨serverInbox, clientOutbox, clientInbox, serverOutbox, -, hunderway⟩
  · refine ⟨?_, hlost.calls⟩
    rcases hlost.turn with hreturned | ⟨collected, current, inner, hwaiting, -⟩
    · rw [hlost.told]
      exact Turn.returned.inj (hturn.symm.trans hreturned)
    · exact nomatch hturn.symm.trans hwaiting
  · generalize serverInbox ++ clientOutbox = toServer at hunderway
    generalize clientInbox ++ serverOutbox = toClient at hunderway
    cases hunderway with
    | returned remaining hphase hcalls hreturned =>
      exact ⟨Turn.returned.inj (hturn.symm.trans hreturned), hcalls⟩
    | _ => simp_all

/-- In a round the request returns, or the client answers an inquiry. -/
theorem Going.round (h : transaction.Going exchange remaining) :
    ((exchange.round blueprint).turn = .returned transaction.transcript.told ∧
        (exchange.round blueprint).client.wire.outlet.written = []) ∨
      ∃ fewer, transaction.Going (exchange.round blueprint) fewer ∧ fewer < remaining ∧
        (exchange.round blueprint).client.wire.outlet.written ≠ [] := by
  have hlost : ∀ {later : Exchange σ}, transaction.Lost (later.move blueprint .drop) →
      later.server.isOver = true →
      later.clientTurn.turn = .returned transaction.transcript.told ∧
        later.clientTurn.client.wire.outlet.written = [] := by
    intro later hlost hover
    obtain ⟨hreturned, hturn⟩ := hlost.client_move
    rw [clientTurn_of_isOver blueprint hover, hlost.told]
    exact ⟨hturn, hreturned.client⟩
  rcases h with h | ⟨serverInbox, clientOutbox, clientInbox, serverOutbox, hlinked, hunderway⟩
  · have hserver : transaction.Lost (exchange.serverTurn blueprint) := by
      rw [serverTurn_eq_moves]
      exact (h.move (.toServer exchange.client.wire.outlet.written.length)).move .server
    exact .inl (hlost (hserver.move .drop) hserver.hover)
  obtain ⟨⟨clientWire, greeting⟩, turn, ⟨wire, state, phase, calls⟩, gone⟩ := exchange
  obtain ⟨rfl, rfl⟩ := hlinked
  rw [Exchange.round, serverTurn_ofLines]
  have hall : transaction.Underway state phase calls turn remaining
      ((serverInbox ++ clientOutbox) ++ []) (clientInbox ++ serverOutbox) := by
    rwa [List.append_nil]
  obtain ⟨sent, hwire, hafter⟩ := hall.server serverOutbox
  generalize Conversation.advance blueprint
    ⟨.ofLines (serverInbox ++ clientOutbox) serverOutbox, state, phase, calls⟩ = after
    at hwire hafter ⊢
  by_cases hover : after.isOver = true
  · rw [List.append_assoc] at hafter
    exact .inl (hlost (Underway.drop ⟨rfl, hwire⟩ hafter hover) hover)
  · obtain ⟨wire, state, phase, calls⟩ := after
    simp only at hwire hafter hover
    subst hwire
    have halive : ∀ result, phase ≠ .ended result := by
      rintro result rfl
      exact hover rfl
    rw [List.append_assoc, ← List.append_nil (clientInbox ++ (serverOutbox ++ sent))] at hafter
    obtain ⟨next, reply, heard, fewer, hadvance, hnext, hfewer, hprogress⟩ :=
      hafter.client [] greeting
    rw [clientTurn_ofLines halive, hadvance]
    rcases hprogress rfl rfl halive with hreturned | ⟨hsent, hless⟩
    · have hreply : reply = [] := hnext.nothing_to_server hreturned
      refine .inl ⟨hreturned, ?_⟩
      rw [hreply]
      rfl
    · refine .inr ⟨fewer, .inr ⟨[], reply, [], [], ⟨rfl, rfl⟩, hnext⟩, hless, ?_⟩
      simpa [Wire.ofLines, Outlet.holding] using hsent

/-- As many rounds as there are inquiries to answer and one more bring a transaction to its end. -/
theorem Going.settle (h : transaction.Going exchange remaining) {rounds : Nat}
    (hrounds : remaining < rounds) :
    (exchange.settle blueprint rounds).turn = .returned transaction.transcript.told := by
  induction rounds generalizing exchange remaining with
  | zero => exact absurd hrounds (Nat.not_lt_zero _)
  | succ rounds ih =>
    rw [Exchange.settle]
    rcases h.round with ⟨hreturned, hwritten⟩ | ⟨fewer, hnext, hfewer, hwritten⟩
    · rw [hwritten]
      exact hreturned
    · have hmore : (exchange.round blueprint).client.wire.outlet.written.isEmpty = false := by
        simpa using hwritten
      simp only [hmore, Bool.false_eq_true, if_false]
      exact ih hnext (by omega)

end Transaction

/-! ### Requests -/

/-- A transaction begins with its command on its way. -/
theorem Transaction.going_of_ask {blueprint : Blueprint σ} (transaction : Transaction blueprint)
    {exchange : Exchange σ} (hstep : exchange.InStep)
    (hstate : exchange.server.state = transaction.state)
    (hcalls : exchange.server.calls = transaction.calls) {verb : String}
    (hcompose : Line.compose verb (Utf8.encode transaction.parameters) = .ok transaction.line) :
    transaction.Going
      (exchange.ask (.command verb (Utf8.encode transaction.parameters) transaction.answers))
      transaction.transcript.inquiries := by
  obtain ⟨⟨clientWire, greeting⟩, turn, ⟨wire, state, phase, calls⟩, gone⟩ := exchange
  obtain ⟨hready, ⟨rfl, rfl⟩⟩ := hstep
  have hask : (Client.mk (.ofLines [] []) greeting).ask
      (.command verb (Utf8.encode transaction.parameters) transaction.answers) =
        (.waiting (.reply [] transaction.answers),
          ⟨.ofLines [] [transaction.line], greeting⟩) := by
    have hsent := Outlet.sendLine_holding [] verb (Utf8.encode transaction.parameters)
    rw [hcompose] at hsent
    simp only [Client.ask, Wire.ofLines]
    rw [hsent]
    rfl
  refine .inr ⟨[], [transaction.line], [], [], ?_, ?_⟩
  · simp only [Exchange.ask, hask]
    exact ⟨rfl, rfl⟩
  · simp only [Exchange.ask, hask]
    exact .asked hready hstate hcalls rfl

/-- A request that the reader does not skip, for a command that is not one of the conversation's
own, on an exchange that is in step, as it is once the client has connected (`inStep_of_connected`)
and between requests (`Coherent.inStep`). Whatever its handler comes to when its inquiries are
answered from the prepared answers, under every schedule the handler is called once and with the
very text that was sent, and the request returns nothing else than what the handler came to; and
from wherever a schedule has led, as many rounds as there are inquiries, and one more, make it
return. A fault is told with its numbers, its name and as much of its message as there is room
for. -/
theorem transact_returns (blueprint : Blueprint σ) (exchange : Exchange σ) (verb text : String)
    (answers : Answers) (command : Command σ) (octets : Bytes)
    (transcript : Transcript (σ × Outcome)) (hstep : exchange.InStep)
    (hregistered : blueprint.commands.find? (upperCase verb) = some command)
    (hcustom : upperCase verb ∉ Conversation.builtins)
    (hencode : Line.encode verb (Utf8.encode text) = .ok octets)
    (htells : Line.informs verb (Utf8.encode text) = false) (hanswers : answers.Dependable)
    (hconsult : Program.consult answers (command.handler exchange.server.state text) [] =
      some transcript) (run : List Move) :
    let later := (exchange.ask (.command verb (Utf8.encode text) answers)).moves blueprint run
    let calls := exchange.server.calls ++
      [.command command.verb text transcript.result.1 transcript.result.2]
    (∀ outcome, later.turn = .returned outcome →
        outcome = transcript.told ∧ later.server.calls = calls) ∧
      (∀ rounds, transcript.inquiries < rounds →
        (later.settle blueprint rounds).turn = .returned transcript.told ∧
          (later.settle blueprint rounds).server.calls = calls) ∧
      ∀ fault written, transcript.result.2 = .error (.report fault) → fault.line = .ok written →
        '<' ∉ fault.name.toList →
        ∃ heard : Fault, transcript.told = .error (.peer heard) ∧
          heard.agrees { fault with message := heard.message } = true ∧
          heard.message.toList <+: fault.message.toList ∧
          ∀ longer, longer <+: fault.message.toList →
            heard.message.toList.length < longer.length →
            ∃ length limit, fault.lineWith longer = .error (.lineTooLong length limit) := by
  intro later calls
  let transaction : Transaction blueprint :=
    { verb := upperCase verb
      parameters := text
      answers := answers
      command := command
      state := exchange.server.state
      calls := exchange.server.calls
      transcript := transcript
      registered := hregistered
      custom := hcustom
      sendable := (Line.sendable_of_encode hencode).1
      tells := (Line.onlyInforms_of_encode hencode).trans htells
      dependable := hanswers
      consulted := hconsult }
  have hasked := transaction.going_of_ask hstep rfl rfl (Line.compose_of_encode hencode)
  obtain ⟨remaining, hlater, hremaining⟩ := hasked.moves run
  refine ⟨fun outcome hturn ↦ hlater.of_returned hturn, fun rounds hrounds ↦ ?_,
    fun fault written hreport hline hname ↦ Transcript.told_of_report hreport hline hname⟩
  have hturn := hlater.settle (Nat.lt_of_le_of_lt hremaining hrounds)
  obtain ⟨rest, hrest⟩ := settle_eq_moves blueprint rounds later
  obtain ⟨fewer, hsettled, -⟩ := hlater.moves rest
  rw [← hrest] at hsettled
  exact ⟨hturn, (hsettled.of_returned hturn).2⟩

/-- A handler that asks for a key and sends it back. -/
def returnKey : Handler Unit :=
  fun _ _ ↦ .inquire "KEY please" fun answer ↦
    match answer with
    | .ok key => .data key fun _ ↦ .done ((), .ok ())
    | .error rejection => .done ((), .error rejection)

def doorkeeper : Blueprint Unit :=
  (Blueprint.plain () "ready").withCommand "UNLOCK" returnKey

/-- A key that comes in two parts, with an interruption between them. -/
def partedKey : Answers :=
  [("KEY", .source ⟨[.chunk [0x61], .failure ⟨.interrupted, "again"⟩, .chunk [0x0A]], true⟩)]

/-- A client that has connected is given its key back. -/
theorem transact_returns_of_inquiry :
    let exchange := (start doorkeeper ⟨.brokenPipe, "gone"⟩).moves doorkeeper
      [.toClient 1, .client]
    let transcript := Transcript.mk ((), .ok ()) [0x61, 0x0A] 1
    exchange.InStep ∧
      doorkeeper.commands.find? (upperCase "unlock") = some ⟨"UNLOCK", returnKey⟩ ∧
      upperCase "unlock" ∉ Conversation.builtins ∧
      Line.informs "unlock" (Utf8.encode "door") = false ∧ partedKey.Dependable ∧
      Program.consult partedKey (returnKey exchange.server.state "door") [] = some transcript ∧
      (((exchange.ask (.command "unlock" (Utf8.encode "door") partedKey)).moves doorkeeper
        [.toServer 1, .server]).settle doorkeeper 2).turn = .returned (.ok [0x61, 0x0A]) := by
  intro exchange transcript
  have hstep : exchange.InStep := by
    have hturn : exchange.turn = .returned (.ok []) := turn_of_outcome? (by decide +kernel)
    have hopen : exchange.server.isOver = false := by decide +kernel
    rcases inStep_of_connected doorkeeper _ _ hturn with hover | hstep
    · exact absurd hover (by rw [hopen]; decide)
    · exact hstep
  have hanswers : partedKey.Dependable := by
    intro keyword inlet hfind
    by_cases hkey : keyword = "KEY"
    · subst hkey
      cases hfind
      simp [Inlet.Dependable, Arrival.Dependable]
    · have hother : (keyword == "KEY") = false := beq_eq_false_iff_ne.2 hkey
      simp [partedKey, Answers.find?, List.lookup_cons, hother] at hfind
  have hregistered : doorkeeper.commands.find? (upperCase "unlock") =
      some ⟨"UNLOCK", returnKey⟩ := rfl
  have hcustom : upperCase "unlock" ∉ Conversation.builtins := by decide
  have hconsult : Program.consult partedKey (returnKey exchange.server.state "door") [] =
      some transcript := rfl
  have hreturns := transact_returns doorkeeper exchange "unlock" "door" partedKey
    ⟨"UNLOCK", returnKey⟩ _ transcript hstep hregistered hcustom rfl rfl hanswers hconsult
    [.toServer 1, .server]
  exact ⟨hstep, hregistered, hcustom, rfl, hanswers, hconsult, (hreturns.2.1 2 (by decide)).1⟩

end Exchange

end LineProtocol
