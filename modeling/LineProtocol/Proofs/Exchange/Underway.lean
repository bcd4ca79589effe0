import LineProtocol.Proofs.Exchange.Consultation
import LineProtocol.Proofs.Exchange.Schedule
import LineProtocol.Proofs.Server.Replies

/-!
# A transaction under way

A transaction is a command with a registered handler and with answers prepared for its inquiries.
`Program.consult` says what the handler comes to with these answers, and `Transcript.told` what the
client is told of it.

`Underway` follows a transaction through its stages. Each of them says what the handler has still
to come to, so that the data collected by the client and the data still to come are together the
data of the transcript. Both sides keep to it (`Underway.server`, `Underway.client`), and a client
that has nothing more to hear has returned or has answered an inquiry (`Onward`).
-/

set_option autoImplicit false

namespace LineProtocol

variable {σ : Type}

/-- What a request returns whose handler has come to a result: the data that was sent, or the fault
that was reported as its line tells it. Without a closing line the connection is closed. -/
def Transcript.told (transcript : Transcript (σ × Outcome)) : Except Failure Bytes :=
  match transcript.result.2 with
  | .ok () => .ok transcript.data
  | .error (.report fault) =>
    match fault.line with
    | .ok _ => .error (Client.reported ⟨"ERR", Utf8.encode fault.shortened.encode⟩)
    | .error _ => .error .closed
  | .error (.fatal _) => .error .closed

/-- A closing line tells what its handler has come to. -/
theorem Transcript.told_of_closing {transcript : Transcript (σ × Outcome)} {line : Line}
    (h : transcript.result.2.closing = .ok line) :
    transcript.told =
      if line.verb = "OK" then .ok transcript.data else .error (Client.reported line) := by
  obtain ⟨⟨state, outcome⟩, data, inquiries⟩ := transcript
  cases outcome with
  | ok done =>
    have hline : line = ⟨upperCase "OK", []⟩ := (Line.sendable_of_compose h).2
    have hverb : upperCase "OK" = "OK" := by decide
    rw [hline, if_pos hverb]
    rfl
  | error rejection =>
    cases rejection with
    | fatal cause => exact nomatch h
    | report fault =>
      have hfits : fault.composed = .ok line := h
      have hline : line = ⟨upperCase "ERR", Utf8.encode fault.shortened.encode⟩ :=
        (Line.sendable_of_compose hfits).2
      have hupper : upperCase "ERR" = "ERR" := by decide
      have hother : ¬"ERR" = "OK" := by decide
      rw [hupper] at hline
      have hverb : ¬line.verb = "OK" := by
        rw [hline]
        exact hother
      have hwritten : fault.line = .ok line.octets := by
        rw [fault.line_eq, hfits]
        rfl
      rw [if_neg hverb, hline]
      simp only [told, hwritten]

theorem Transcript.told_of_no_closing {transcript : Transcript (σ × Outcome)} {cause : Failure}
    (h : transcript.result.2.closing = .error cause) : transcript.told = .error .closed := by
  obtain ⟨⟨state, outcome⟩, data, inquiries⟩ := transcript
  cases outcome with
  | ok done => exact nomatch h
  | error rejection =>
    cases rejection with
    | fatal cause => rfl
    | report fault =>
      have hfails : fault.composed = .error cause := h
      have hwritten : fault.line = .error cause := by
        rw [fault.line_eq, hfails]
        rfl
      simp only [told, hwritten]

/-- A fault with a name that can be told apart is told with its numbers, its name and as much of its
message as there is room for. -/
theorem Transcript.told_of_report {transcript : Transcript (σ × Outcome)} {fault : Fault}
    {octets : Bytes} (hresult : transcript.result.2 = .error (.report fault))
    (hline : fault.line = .ok octets) (hname : '<' ∉ fault.name.toList) :
    ∃ heard : Fault, transcript.told = .error (.peer heard) ∧
      heard.agrees { fault with message := heard.message } = true ∧
      heard.message.toList <+: fault.message.toList ∧
      ∀ longer, longer <+: fault.message.toList → heard.message.toList.length < longer.length →
        ∃ length limit, fault.lineWith longer = .error (.lineTooLong length limit) := by
  have hdecode : Fault.decode (Line.mk "ERR" (Utf8.encode fault.shortened.encode)).textLossy =
      .ok fault.shortened.heard := by
    rw [Line.textLossy_encode]
    exact Fault.decode_shortened fault hname
  have hreported := Client.reported_of_decode hdecode
  refine ⟨fault.shortened.heard, ?_, Fault.agrees_heard fault.shortened,
    Fault.shortened_isPrefix fault, ?_⟩
  · rw [told, hresult]
    simp only [hline, hreported]
  · intro longer hbegins hlonger
    exact Fault.lineTooLong_of_longer fault hbegins hlonger

namespace Exchange

/-- A command with a registered handler, the answers prepared for it, the state and the calls that
its handler finds, and what the handler comes to. -/
structure Transaction (blueprint : Blueprint σ) where
  /-- The verb in upper case. -/
  verb : String
  parameters : String
  answers : Answers
  command : Command σ
  state : σ
  calls : List (Call σ)
  transcript : Transcript (σ × Outcome)
  registered : blueprint.commands.find? verb = some command
  custom : verb ∉ Conversation.builtins
  sendable : (Line.mk verb (Utf8.encode parameters)).Sendable
  tells : (Line.mk verb (Utf8.encode parameters)).onlyInforms = false
  dependable : answers.Dependable
  consulted : Program.consult answers (command.handler state parameters) [] = some transcript

namespace Transaction

variable {blueprint : Blueprint σ} (transaction : Transaction blueprint)

/-- The line of the command. -/
def line : Line :=
  ⟨transaction.verb, Utf8.encode transaction.parameters⟩

/-- The calls once the handler has run. -/
def allCalls : List (Call σ) :=
  transaction.calls ++ [.command transaction.command.verb transaction.parameters
    transaction.transcript.result.1 transaction.transcript.result.2]

/-- The transaction comes to collected data and what is still to come. -/
structure Continues (collected : Bytes) (later : Transcript (σ × Outcome)) : Prop where
  result : transaction.transcript.result = later.result
  data : transaction.transcript.data = collected ++ later.data

/-- The conversation, the client's request and the lines on their way during a transaction, with
the number of inquiries that the client has still to answer. -/
inductive Underway (state : σ) (phase : Phase σ) (calls : List (Call σ)) (turn : Turn) :
    Nat → List Line → List Line → Prop
  /-- The command is on its way. -/
  | asked (hphase : phase = .ready) (hstate : state = transaction.state)
      (hcalls : calls = transaction.calls)
      (hturn : turn = .waiting (.reply [] transaction.answers)) :
      Underway state phase calls turn transaction.transcript.inquiries [transaction.line] []
  /-- An inquiry is on its way, and there is an answer to it. -/
  | inquired (next : Except Rejection Bytes → Program (σ × Outcome)) (collected : Bytes)
      (current : Answers) (asked : List String) (inner : List Line) (inquiry : Line)
      (payload : Bytes) (later : Transcript (σ × Outcome))
      (hphase : phase =
        .asking ⟨transaction.command.verb, transaction.parameters, [], next⟩)
      (hcalls : calls = transaction.calls) (hturn : turn = .waiting (.reply collected current))
      (hcurrent : transaction.answers.Current asked current)
      (hinner : ∀ line ∈ inner, line.IsInner) (hinquiry : inquiry.IsInquiry)
      (hcontent : transaction.answers.content asked (Client.keyword inquiry) = some payload)
      (hlater : Program.consult transaction.answers (next (.ok payload))
        (Client.keyword inquiry :: asked) = some later)
      (hcontinues : transaction.Continues (collected ++ inner.flatMap Line.data) later) :
      Underway state phase calls turn (later.inquiries + 1) [] (inner ++ [inquiry])
  /-- An answer is on its way. -/
  | answered (next : Except Rejection Bytes → Program (σ × Outcome)) (got collected : Bytes)
      (current : Answers) (asked : List String) (data : List Line) (final : Line)
      (later : Transcript (σ × Outcome))
      (hphase : phase =
        .asking ⟨transaction.command.verb, transaction.parameters, got, next⟩)
      (hcalls : calls = transaction.calls) (hturn : turn = .waiting (.reply collected current))
      (hcurrent : transaction.answers.Current asked current)
      (hdata : ∀ line ∈ data, line.IsData) (hfinal : final.Sendable) (hend : final.verb = "END")
      (hlater : Program.consult transaction.answers
        (next (.ok (got ++ data.flatMap Line.parameters))) asked = some later)
      (hcontinues : transaction.Continues collected later) :
      Underway state phase calls turn later.inquiries (data ++ [final]) []
  /-- The closing line is on its way. -/
  | closing (remaining : Nat) (collected : Bytes) (current : Answers) (inner : List Line)
      (line : Line) (hphase : phase = .ready) (hcalls : calls = transaction.allCalls)
      (hturn : turn = .waiting (.reply collected current))
      (hinner : ∀ line ∈ inner, line.IsInner)
      (hclosing : transaction.transcript.result.2.closing = .ok line)
      (hdata : transaction.transcript.data = collected ++ inner.flatMap Line.data) :
      Underway state phase calls turn remaining [] (inner ++ [line])
  /-- The conversation has ended without a closing line. -/
  | failed (remaining : Nat) (collected : Bytes) (current : Answers) (inner : List Line)
      (cause : Failure) (hphase : phase = .ended (.error cause))
      (hcalls : calls = transaction.allCalls) (hturn : turn = .waiting (.reply collected current))
      (hinner : ∀ line ∈ inner, line.IsInner)
      (htold : transaction.transcript.told = .error .closed) :
      Underway state phase calls turn remaining [] inner
  /-- The request has returned. -/
  | returned (remaining : Nat) (hphase : phase = .ready) (hcalls : calls = transaction.allCalls)
      (hturn : turn = .returned transaction.transcript.told) :
      Underway state phase calls turn remaining [] []

variable {transaction} {state : σ} {phase : Phase σ} {calls : List (Call σ)} {turn : Turn}
  {remaining : Nat} {inbox outbox toServer toClient : List Line}

/-! ### The conversation goes on -/

/-- A handler that has come to its next stage has the rest of the transaction before it. -/
theorem Underway.of_staged {collected : Bytes} {current : Answers} {asked : List String}
    {program : Program (σ × Outcome)} {later : Transcript (σ × Outcome)}
    (hcurrent : transaction.answers.Current asked current)
    (hlater : Program.consult transaction.answers program asked = some later)
    (hcontinues : transaction.Continues collected later) (state : σ) (before : List Line) :
    let after := Conversation.staged before state transaction.calls transaction.command.verb
      transaction.parameters program.stage
    ∃ sent, after.wire = .ofLines [] (before ++ sent) ∧
      transaction.Underway after.state after.phase after.calls
        (.waiting (.reply collected current)) later.inquiries [] sent := by
  intro after
  have hconsults := Program.consult_eq transaction.answers asked program
  rcases hstage : program.stage with ⟨lines, ⟨final, outcome⟩ | next⟩
  case finished =>
    rw [hstage] at hconsults
    obtain ⟨hinner, hresult⟩ := hconsults
    obtain rfl := Option.some.inj (hlater.symm.trans hresult)
    have hcalls : transaction.calls ++
        [.command transaction.command.verb transaction.parameters final outcome] =
          transaction.allCalls := by
      rw [allCalls, hcontinues.result]
    have hafter : after = Conversation.closed (before ++ lines) final transaction.allCalls
        outcome.closing := by
      simp only [after, hstage, Conversation.staged, hcalls]
    have houtcome : transaction.transcript.result.2 = outcome := by
      rw [hcontinues.result]
    rw [hafter]
    cases hclosing : outcome.closing with
    | ok line =>
      refine ⟨lines ++ [line], ?_, .closing _ collected current lines line rfl rfl rfl hinner
        (houtcome ▸ hclosing) hcontinues.data⟩
      rw [← List.append_assoc]
      rfl
    | error cause =>
      refine ⟨lines, rfl, .failed _ collected current lines cause rfl rfl rfl hinner ?_⟩
      rw [← houtcome] at hclosing
      exact Transcript.told_of_no_closing hclosing
  case asking =>
    rw [hstage] at hconsults
    obtain ⟨inner, inquiry, rfl, hinner, hinquiry, hresult⟩ := hconsults
    have hafter : after = ⟨.ofLines [] (before ++ (inner ++ [inquiry])), state,
        .asking ⟨transaction.command.verb, transaction.parameters, [], next⟩,
        transaction.calls⟩ := by
      simp only [after, hstage, Conversation.staged]
    rw [hresult] at hlater
    obtain ⟨payload, hcontent, hlater⟩ := Option.bind_eq_some_iff.1 hlater
    obtain ⟨rest, hrest, rfl⟩ := Option.map_eq_some_iff.1 hlater
    rw [hafter]
    refine ⟨inner ++ [inquiry], rfl, .inquired next collected current asked inner inquiry payload
      rest rfl rfl rfl hcurrent hinner hinquiry hcontent hrest ⟨hcontinues.result, ?_⟩⟩
    rw [hcontinues.data, List.append_assoc]
    rfl

theorem line_verb_ne (transaction : Transaction blueprint) (verb : String)
    (h : verb ∈ Conversation.builtins) : transaction.line.verb ≠ verb := by
  rintro rfl
  exact transaction.custom h

/-- The conversation takes the command and runs its handler. -/
theorem advance_line (state : σ) (before : List Line) (calls : List (Call σ)) :
    (Conversation.mk (.ofLines [transaction.line] before) state .ready calls).advance blueprint =
      .staged before state calls transaction.command.verb transaction.parameters
        (transaction.command.handler state transaction.parameters).stage := by
  have hdispatch : (Conversation.mk (.ofLines [] before) state .ready calls).dispatch blueprint
      transaction.line =
        .staged before state calls transaction.command.verb transaction.parameters
          (transaction.command.handler state transaction.parameters).stage := by
    have htext : transaction.line.text? = some transaction.parameters :=
      Utf8.decode?_encode transaction.parameters
    have hfind : blueprint.commands.find? transaction.line.verb = some transaction.command :=
      transaction.registered
    have hnop := transaction.line_verb_ne "NOP" (by decide)
    have hbye := transaction.line_verb_ne "BYE" (by decide)
    have hreset := transaction.line_verb_ne "RESET" (by decide)
    have hoption := transaction.line_verb_ne "OPTION" (by decide)
    have hhelp := transaction.line_verb_ne "HELP" (by decide)
    rw [Conversation.dispatch, htext]
    simp only [hnop, hbye, hreset, hoption, hhelp, if_false, hfind]
    exact Conversation.perform_ofLines before state .ready calls _ _
  have hline : transaction.line.Sendable := transaction.sendable
  exact Conversation.advance_eq_dispatch before state calls blueprint hline transaction.tells
    hdispatch (Conversation.staged_waits before state calls _ _ _)

/-- What a conversation has in front of it brings the transaction on. -/
theorem Underway.server
    (h : transaction.Underway state phase calls turn remaining (inbox ++ outbox) toClient)
    (before : List Line) :
    let after := (Conversation.mk (.ofLines inbox before) state phase calls).advance blueprint
    ∃ sent, after.wire = .ofLines [] (before ++ sent) ∧
      transaction.Underway after.state after.phase after.calls turn remaining outbox
        (toClient ++ sent) := by
  intro after
  by_cases hinbox : inbox = []
  · subst hinbox
    refine ⟨[], ?_, ?_⟩
    · simp only [after, Conversation.advance_nil, List.append_nil]
    · rw [List.nil_append] at h
      simpa only [after, Conversation.advance_nil, List.append_nil] using h
  generalize hlines : inbox ++ outbox = toServer at h
  cases h with
  | asked hphase hstate hcalls hturn =>
    subst hphase hstate hcalls hturn
    have hsplit : [] ++ [transaction.line] = inbox ++ outbox := hlines.symm
    obtain ⟨rfl, rfl⟩ : inbox = [transaction.line] ∧ outbox = [] := by
      rcases split_last hsplit with hsplit | ⟨rest, hfront, -⟩
      · exact hsplit
      · exact absurd (List.append_eq_nil_iff.1 hfront.symm).1 hinbox
    simp only [after, advance_line]
    exact Underway.of_staged (Answers.current_nil transaction.dependable) transaction.consulted
      ⟨rfl, rfl⟩ transaction.state before
  | answered next got collected current asked data final later hphase hcalls hturn hcurrent hdata
      hfinal hend hlater hcontinues =>
    subst hphase hcalls hturn
    rcases split_last hlines.symm with ⟨rfl, rfl⟩ | ⟨rest, rfl, rfl⟩
    · simp only [after]
      rw [Conversation.advance_of_end before state transaction.calls blueprint _ hdata hfinal
        hend]
      exact Underway.of_staged hcurrent hlater hcontinues state before
    · obtain ⟨hcome, hrest⟩ := List.forall_mem_append.1 hdata
      refine ⟨[], ?_, ?_⟩
      · simp only [after]
        rw [Conversation.advance_of_data before state transaction.calls blueprint _ hcome,
          List.append_nil]
      · simp only [after]
        rw [Conversation.advance_of_data before state transaction.calls blueprint _ hcome]
        rw [List.flatMap_append, ← List.append_assoc] at hlater
        exact .answered next _ collected current asked rest final later rfl rfl rfl hcurrent
          hrest hfinal hend hlater hcontinues
  | _ => exact absurd (List.append_eq_nil_iff.1 hlines).1 hinbox

/-! ### The client goes on -/

/-- Without lines to either side the request has returned, or the conversation has ended. -/
theorem Underway.returned_of_nil
    (h : transaction.Underway state phase calls turn remaining toServer toClient)
    (hserver : toServer = []) (hclient : toClient = [])
    (halive : ∀ result, phase ≠ .ended result) :
    turn = .returned transaction.transcript.told := by
  cases h with
  | returned remaining hphase hcalls hturn => exact hturn
  | failed remaining collected current inner cause hphase => exact absurd hphase (halive _)
  | _ => simp at hserver hclient

theorem Underway.nothing_to_server
    (h : transaction.Underway state phase calls turn remaining toServer toClient)
    {outcome : Except Failure Bytes} (hturn : turn = .returned outcome) : toServer = [] := by
  cases h with
  | asked hphase hstate hcalls hwaiting => exact nomatch hturn.symm.trans hwaiting
  | answered next got collected current asked data final later hphase hcalls hwaiting =>
    exact nomatch hturn.symm.trans hwaiting
  | _ => rfl

/-- What the lines in front of a client bring a transaction to. If there were no others, the request
returns or there is one inquiry less to answer. -/
def Onward (transaction : Transaction blueprint) (state : σ) (phase : Phase σ)
    (calls : List (Call σ)) (turn : Turn) (remaining : Nat)
    (toServer inbox outbox : List Line) : Prop :=
  ∀ before greeting, ∃ next sent heard fewer,
    (Client.mk (.ofLines inbox before) greeting).advance turn =
      (next, ⟨.ofLines [] (before ++ sent), heard⟩) ∧
    transaction.Underway state phase calls next fewer (toServer ++ sent) outbox ∧
    fewer ≤ remaining ∧
    (toServer = [] → outbox = [] → (∀ result, phase ≠ .ended result) →
      next = .returned transaction.transcript.told ∨ sent ≠ [] ∧ fewer < remaining)

theorem Onward.of_nil
    (h : transaction.Underway state phase calls turn remaining toServer outbox) :
    transaction.Onward state phase calls turn remaining toServer [] outbox := by
  intro before greeting
  refine ⟨turn, [], greeting, remaining, ?_, ?_, Nat.le_refl _, ?_⟩
  · rw [List.append_nil]
    exact Client.advance_nil (.holding before) greeting turn
  · rwa [List.append_nil]
  · intro hserver hclient halive
    exact .inl (h.returned_of_nil hserver hclient halive)

/-- The lines before the last one of a reply only bring data. -/
theorem Onward.of_inner {collected : Bytes} {current : Answers}
    (hinner : ∀ line ∈ inbox, line.IsInner)
    (hnext : transaction.Underway state phase calls
      (.waiting (.reply (collected ++ inbox.flatMap Line.data) current)) remaining toServer outbox)
    (hmore : outbox = [] → ∃ result, phase = .ended result) :
    transaction.Onward state phase calls (.waiting (.reply collected current)) remaining toServer
      inbox outbox := by
  intro before greeting
  refine ⟨.waiting (.reply (collected ++ inbox.flatMap Line.data) current), [], greeting,
    remaining, ?_, ?_, Nat.le_refl _, ?_⟩
  · rw [List.append_nil]
    exact Client.advance_inner_only (.holding before) greeting (.reply collected current) hinner
      False.elim
  · rwa [List.append_nil]
  · intro _ hempty halive
    obtain ⟨result, hended⟩ := hmore hempty
    exact absurd hended (halive result)

/-- An inquiry is answered with the content that the answers have for it. -/
theorem Onward.of_inquiry {next : Except Rejection Bytes → Program (σ × Outcome)}
    {collected payload : Bytes} {current : Answers} {asked : List String} {inner : List Line}
    {inquiry : Line} {later : Transcript (σ × Outcome)}
    (hphase : phase = .asking ⟨transaction.command.verb, transaction.parameters, [], next⟩)
    (hcalls : calls = transaction.calls) (hcurrent : transaction.answers.Current asked current)
    (hinner : ∀ line ∈ inner, line.IsInner) (hinquiry : inquiry.IsInquiry)
    (hcontent : transaction.answers.content asked (Client.keyword inquiry) = some payload)
    (hlater : Program.consult transaction.answers (next (.ok payload))
      (Client.keyword inquiry :: asked) = some later)
    (hcontinues : transaction.Continues (collected ++ inner.flatMap Line.data) later) :
    transaction.Onward state phase calls (.waiting (.reply collected current))
      (later.inquiries + 1) [] (inner ++ [inquiry]) [] := by
  intro before greeting
  obtain ⟨data, left, hanswer, hdata, hsent, hleft⟩ :=
    Client.answer_current greeting (.facing false []) before
      (collected ++ inner.flatMap Line.data) hcurrent hcontent
  have hheard := Client.advance_inner false [inquiry] (.holding before) greeting
    (.reply collected current) hinner False.elim
  have hinquired := Client.advance_inquiry false [] (.holding before) greeting
    (collected ++ inner.flatMap Line.data) current hinquiry
  rw [hanswer, Client.advance_waiting_nil] at hinquired
  refine ⟨.waiting (.reply (collected ++ inner.flatMap Line.data) left), data ++ [Line.mk "END" []],
    greeting, later.inquiries, hheard.trans hinquired, ?_, Nat.le_succ _, ?_⟩
  · refine .answered next [] (collected ++ inner.flatMap Line.data) left _ data ⟨"END", []⟩ later
      hphase hcalls rfl hleft hdata Client.isFinal_end.1 rfl ?_ hcontinues
    rw [List.nil_append, hsent]
    exact hlater
  · intro _ _ _
    exact .inr ⟨by simp, Nat.lt_succ_self _⟩

/-- The closing line makes the request return. -/
theorem Onward.of_closing {collected : Bytes} {current : Answers} {inner : List Line} {line : Line}
    (hphase : phase = .ready) (hcalls : calls = transaction.allCalls)
    (hinner : ∀ line ∈ inner, line.IsInner)
    (hclosing : transaction.transcript.result.2.closing = .ok line)
    (hdata : transaction.transcript.data = collected ++ inner.flatMap Line.data) :
    transaction.Onward state phase calls (.waiting (.reply collected current)) remaining []
      (inner ++ [line]) [] := by
  intro before greeting
  have hheard := Client.advance_inner false [line] (.holding before) greeting
    (.reply collected current) hinner False.elim
  have hclosed := Client.advance_closing_reply false [] (.holding before) greeting
    (collected ++ inner.flatMap Line.data) current (Outcome.isClosing_of_closing hclosing)
  have htold : transaction.transcript.told =
      if line.verb = "OK" then .ok (collected ++ inner.flatMap Line.data)
      else .error (Client.reported line) := by
    rw [Transcript.told_of_closing hclosing, hdata]
  rw [← htold] at hclosed
  refine ⟨.returned transaction.transcript.told, [], greeting, remaining, ?_,
    .returned remaining hphase hcalls rfl, Nat.le_refl _, fun _ _ _ ↦ .inl rfl⟩
  rw [List.append_nil]
  exact hheard.trans hclosed

/-- What a client has in front of it brings the transaction on. -/
theorem Underway.client
    (h : transaction.Underway state phase calls turn remaining toServer (inbox ++ outbox)) :
    transaction.Onward state phase calls turn remaining toServer inbox outbox := by
  by_cases hinbox : inbox = []
  · subst hinbox
    exact .of_nil h
  generalize hlines : inbox ++ outbox = toClient at h
  cases h with
  | inquired next collected current asked inner inquiry payload later hphase hcalls hturn hcurrent
      hinner hinquiry hcontent hlater hcontinues =>
    subst hturn
    rcases split_last hlines.symm with ⟨rfl, rfl⟩ | ⟨rest, rfl, rfl⟩
    · exact .of_inquiry hphase hcalls hcurrent hinner hinquiry hcontent hlater hcontinues
    · obtain ⟨hcome, hrest⟩ := List.forall_mem_append.1 hinner
      rw [List.flatMap_append, ← List.append_assoc] at hcontinues
      exact .of_inner hcome (.inquired next _ current asked rest inquiry payload later hphase hcalls
        rfl hcurrent hrest hinquiry hcontent hlater hcontinues) fun hempty ↦ by simp at hempty
  | closing remaining collected current inner line hphase hcalls hturn hinner hclosing hdata =>
    subst hturn
    rcases split_last hlines.symm with ⟨rfl, rfl⟩ | ⟨rest, rfl, rfl⟩
    · exact .of_closing hphase hcalls hinner hclosing hdata
    · obtain ⟨hcome, hrest⟩ := List.forall_mem_append.1 hinner
      rw [List.flatMap_append, ← List.append_assoc] at hdata
      exact .of_inner hcome (.closing remaining _ current rest line hphase hcalls rfl hrest
        hclosing hdata) fun hempty ↦ by simp at hempty
  | failed remaining collected current inner cause hphase hcalls hturn hinner htold =>
    subst hturn hlines
    obtain ⟨hcome, hrest⟩ := List.forall_mem_append.1 hinner
    exact .of_inner hcome (.failed remaining _ current outbox cause hphase hcalls rfl hrest htold)
      fun _ ↦ ⟨_, hphase⟩
  | _ => exact absurd (List.append_eq_nil_iff.1 hlines).1 hinbox

end Transaction

end Exchange

end LineProtocol
