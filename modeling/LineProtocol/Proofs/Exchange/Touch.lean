import LineProtocol.Proofs.Client.Hearing
import LineProtocol.Proofs.Exchange.Schedule
import LineProtocol.Proofs.Server.Replies

/-!
# Client and conversation in touch

`InTouch` is what a conversation, a client and the lines on their way between them can look like
together. There is at most one command and one reply or answer under way, and whoever waits for
its last line waits for the right one: a client with a request of one line for a reply of one
line, a client that has cancelled for the end of the reply, a conversation that asks for the end
of the answer. Two of the cases are without a way out: a command that the conversation passed
over, and an inquiry that a client has passed over because it had cancelled. In neither does the
request ever return.

How much of this can come up depends on what is asked of the two sides, and the `Terms` say so.
Once a conversation is over it may still have left something to hear (`Parting`).

Each side keeps the two in touch by itself (`InTouch.server`, `InTouch.client`). There is one way to
lose touch: a client that resets the state takes a line of a long reply for all of it (`Misled`).
-/

set_option autoImplicit false

namespace LineProtocol

/-- What the client may request, and what the handlers may do. -/
structure Terms where
  /-- The requests that may be made. -/
  Allows : Request → Prop
  /-- Whether there may be more to the reply to a reset than the line that closes it. -/
  longResets : Prop
  /-- Whether a handler may ask again once it was refused an answer. -/
  insists : Prop

namespace Terms

/-- Anything may be requested and done. -/
def anything : Terms :=
  ⟨fun _ ↦ True, True, True⟩

/-- Anything may be requested and handlers may insist, but the reply to a reset is one line. -/
def shortResets : Terms :=
  ⟨fun _ ↦ True, False, True⟩

variable {σ : Type} (terms : Terms)

/-- A blueprint whose handlers keep to the terms. -/
structure Met (blueprint : Blueprint σ) : Prop where
  resets : terms.Allows .reset → terms.longResets ∨ blueprint.commands.find? "RESET" = none
  refusals : terms.insists ∨ blueprint.Resigns

/-- Whether a client that waits so may be sent more than the line that closes a reply. -/
def TakesMore : Awaiting → Prop
  | .reply _ _ | .cancelReply _ => True
  | .resetReply => terms.longResets
  | .greeting | .optionReply => False

/-- A client that has taken a line of the reply to a reset for all of it. -/
def Misled (turn : Turn) : Prop :=
  terms.longResets ∧
    ∃ verb, turn = .returned (.error (.invalidResponse ("not an OK response: " ++ verb)))

variable {terms} {awaiting : Awaiting}

theorem takesMore_after (inner : List Line) :
    terms.TakesMore (awaiting.after inner) ↔ terms.TakesMore awaiting := by
  cases awaiting <;> rfl

theorem takesMore_of_settles {final : Line} (h : Client.Settles final awaiting) :
    terms.TakesMore awaiting := by
  cases h <;> trivial

/-- A command whose reply is long is waited for by a client that takes it. -/
theorem takesMore_or_terse {blueprint : Blueprint σ} (h : terms.Met blueprint) {request : Request}
    (hallowed : terms.Allows request) {command : Line} (hcommand : request.composed = .ok command) :
    terms.TakesMore request.awaiting ∨ blueprint.Terse command := by
  cases request with
  | command verb parameters answers => exact .inl trivial
  | option key value =>
    obtain ⟨-, rfl⟩ := Line.sendable_of_compose hcommand
    have hverb : upperCase "OPTION" = "OPTION" := by decide
    exact .inr (.inl hverb)
  | reset =>
    obtain ⟨-, rfl⟩ := Line.sendable_of_compose hcommand
    have hverb : upperCase "RESET" = "RESET" := by decide
    exact (h.resets hallowed).imp_right fun hnone ↦ .inr ⟨hverb, hnone⟩

end Terms

namespace Exchange

variable {σ : Type}

section Relations

variable (terms : Terms)

/-- The conversation, the client's request and the lines on their way to either side, together. -/
inductive InTouch (phase : Phase σ) (turn : Turn) : List Line → List Line → Prop
  /-- No request is under way. -/
  | idle (outcome : Except Failure Bytes) (hphase : phase = .ready)
      (hturn : turn = .returned outcome) : InTouch phase turn [] []
  /-- A command is on its way. -/
  | asked (request : Request) (command : Line) (hphase : phase = .ready)
      (hturn : turn = .waiting request.awaiting) (hallowed : terms.Allows request)
      (hcommand : request.composed = .ok command) : InTouch phase turn [command] []
  /-- A command was passed over, and no reply will come. -/
  | ignored (request : Request) (command : Line) (hphase : phase = .ready)
      (hturn : turn = .waiting request.awaiting) (hallowed : terms.Allows request)
      (hcommand : request.composed = .ok command) (hinforms : command.onlyInforms = true) :
      InTouch phase turn [] []
  /-- A reply is on its way. -/
  | replied (awaiting : Awaiting) (inner : List Line) (closing : Line) (hphase : phase = .ready)
      (hturn : turn = .waiting awaiting) (hinner : ∀ line ∈ inner, line.IsInner)
      (hclosing : closing.IsClosing) (hterse : terms.TakesMore awaiting ∨ inner = []) :
      InTouch phase turn [] (inner ++ [closing])
  /-- An inquiry is on its way. -/
  | inquired (awaiting : Awaiting) (pending : Pending σ) (inner : List Line) (inquiry : Line)
      (hphase : phase = .asking pending) (hturn : turn = .waiting awaiting)
      (hinner : ∀ line ∈ inner, line.IsInner) (hinquiry : inquiry.IsInquiry)
      (htakes : terms.TakesMore awaiting)
      (hyields : terms.insists ∨
        Program.Yields pending.next ∧ ∀ reason, awaiting ≠ .cancelReply reason) :
      InTouch phase turn [] (inner ++ [inquiry])
  /-- An answer is on its way. -/
  | answered (awaiting : Awaiting) (pending : Pending σ) (data : List Line) (final : Line)
      (hphase : phase = .asking pending) (hturn : turn = .waiting awaiting)
      (hdata : ∀ line ∈ data, line.IsData) (hsettles : Client.Settles final awaiting)
      (hyields : terms.insists ∨ Program.Yields pending.next) :
      InTouch phase turn (data ++ [final]) []
  /-- An inquiry was passed over, and no answer will come. -/
  | stuck (reason : Failure) (pending : Pending σ) (hphase : phase = .asking pending)
      (hturn : turn = .waiting (.cancelReply reason)) (hinsists : terms.insists) :
      InTouch phase turn [] []

/-- What a conversation that is over has left to hear for a client. -/
inductive Parting (turn : Turn) : List Line → Prop
  /-- No line will close the reply. -/
  | silent (inner : List Line) (hinner : ∀ line ∈ inner, line.IsInner)
      (hterse : inner = [] ∨ ∃ awaiting, turn = .waiting awaiting ∧ terms.TakesMore awaiting) :
      Parting turn inner
  /-- The last reply is on its way. -/
  | closing (awaiting : Awaiting) (inner : List Line) (closing : Line)
      (hturn : turn = .waiting awaiting) (hinner : ∀ line ∈ inner, line.IsInner)
      (hclosing : closing.IsClosing) (hterse : terms.TakesMore awaiting ∨ inner = []) :
      Parting turn (inner ++ [closing])

/-- A conversation that is over or in touch. -/
def Stands (server : Conversation σ) (turn : Turn) (toServer toClient : List Line) : Prop :=
  server.isOver = true ∧ Parting terms turn toClient ∨
    InTouch terms server.phase turn toServer toClient

end Relations

variable {terms : Terms} {phase : Phase σ} {turn : Turn}
  {inbox outbox toServer toClient : List Line}

theorem InTouch.isOver {server : Conversation σ}
    (h : InTouch terms server.phase turn toServer toClient) : server.isOver = false := by
  have hphase : server.phase = .ready ∨ ∃ pending, server.phase = .asking pending := by
    cases h <;> first | exact .inl ‹_› | exact .inr ⟨_, ‹_›⟩
  rcases hphase with hready | ⟨pending, hasking⟩
  · exact Conversation.isOver_of_ready hready
  · exact Conversation.isOver_of_asking hasking

/-! ### The conversation goes on -/

/-- A conversation that has run a program has replied, asked or ended. -/
theorem stands_of_replies {awaiting : Awaiting} {before : List Line}
    {program : Program (σ × Outcome)} {after : Conversation σ}
    (h : Conversation.Replies before program after)
    (hterse : terms.TakesMore awaiting ∨ ∃ result, program.stage = ([], .finished result))
    (hyields : terms.insists ∨ ∀ next, program.stage.2 = .asking next →
      Program.Yields next ∧ ∀ reason, awaiting ≠ .cancelReply reason) :
    ∃ sent, after.wire = .ofLines [] (before ++ sent) ∧
      Stands terms after (.waiting awaiting) [] sent := by
  have hlines := program.stage_lines
  have hshort : terms.TakesMore awaiting ∨ program.stage.1 = [] := by
    rcases hterse with htakes | ⟨result, hstage⟩
    · exact .inl htakes
    · exact .inr (congrArg Prod.fst hstage)
  cases h with
  | closes final outcome closing hstage hclosing hstate hphase hwire =>
    rw [hstage] at hlines
    have hcloses := Outcome.isClosing_of_closing hclosing
    refine ⟨_, hwire, ?_⟩
    rcases hphase with hphase | hphase
    · exact .inr (.replied awaiting _ closing hphase rfl hlines hcloses hshort)
    · exact .inl ⟨Conversation.isOver_of_ended hphase,
        .closing awaiting _ closing rfl hlines hcloses hshort⟩
  | fails final outcome cause hstage hclosing hphase hwire =>
    rw [hstage] at hlines
    exact ⟨_, hwire, .inl ⟨Conversation.isOver_of_ended hphase, .silent _ hlines
      (hshort.symm.imp_right fun htakes ↦ ⟨awaiting, rfl, htakes⟩)⟩⟩
  | asks pending hstage hcollected hphase hwire =>
    rw [hstage] at hlines
    obtain ⟨inner, inquiry, hsent, hinner, hinquiry⟩ := hlines
    refine ⟨inner ++ [inquiry], hsent ▸ hwire, .inr (.inquired awaiting pending inner inquiry hphase
      rfl hinner hinquiry ?_ (hyields.imp_right fun h ↦ h pending.next hstage))⟩
    exact hshort.resolve_right fun hnone ↦ by simp [hnone] at hsent

/-- What a conversation has in front of it brings it to its end or leaves it in touch. -/
theorem InTouch.server {blueprint : Blueprint σ} (hmet : terms.Met blueprint)
    (h : InTouch terms phase turn (inbox ++ outbox) toClient) (state : σ) (before : List Line)
    (calls : List (Call σ)) :
    let after := (Conversation.mk (.ofLines inbox before) state phase calls).advance blueprint
    ∃ sent, after.wire = .ofLines [] (before ++ sent) ∧
      Stands terms after turn outbox (toClient ++ sent) := by
  intro after
  by_cases hinbox : inbox = []
  · subst hinbox
    refine ⟨[], ?_, .inr ?_⟩
    · simp only [after, Conversation.advance_nil, List.append_nil]
    · rw [List.nil_append] at h
      simpa only [after, Conversation.advance_nil, List.append_nil] using h
  generalize hlines : inbox ++ outbox = toServer at h
  cases h with
  | asked request command hphase hturn hallowed hcommand =>
    subst hphase hturn
    obtain ⟨rfl, rfl⟩ : inbox = [command] ∧ outbox = [] :=
      (List.append_eq_singleton_iff.1 hlines).resolve_left fun h ↦ hinbox h.1
    have hsendable := Request.sendable_of_composed hcommand
    by_cases hinforms : command.onlyInforms = true
    case pos =>
      have hafter : after = ⟨.ofLines [] before, state, .ready, calls⟩ :=
        Conversation.takeCommands_of_informs before state calls blueprint hsendable hinforms
      rw [hafter]
      refine ⟨[], ?_, .inr (.ignored request command rfl rfl hallowed hcommand hinforms)⟩
      rw [List.append_nil]
    case neg =>
      refine stands_of_replies (Conversation.advance_of_command before state calls blueprint
        hsendable (Bool.not_eq_true _ ▸ hinforms)) ?_ ?_
      · exact (Terms.takesMore_or_terse hmet hallowed hcommand).imp_right fun hterse ↦
          Action.stage_of_terse hterse state
      · refine hmet.refusals.imp_right fun hresigns next hstage ↦ ?_
        refine ⟨(Action.resigns_program hresigns command state).yields hstage, ?_⟩
        cases request <;> exact fun reason hcancel ↦ nomatch hcancel
  | answered awaiting pending data final hphase hturn hdata hsettles hyields =>
    subst hphase hturn
    rcases split_last hlines.symm with ⟨rfl, rfl⟩ | ⟨rest, rfl, rfl⟩
    · have htakes : terms.TakesMore awaiting := Terms.takesMore_of_settles hsettles
      have hfinal := hsettles.isFinal.1
      cases hsettles with
      | complete collected answers =>
        have hafter := Conversation.advance_of_end before state calls blueprint pending hdata
          hfinal rfl
        have hreplies := Conversation.replies_staged before state calls pending.verb
          pending.parameters
          (pending.next (.ok (pending.collected ++ data.flatMap Line.parameters)))
        rw [← hafter] at hreplies
        refine stands_of_replies hreplies (.inl htakes)
          (hyields.imp_right fun hyields next hstage ↦ ?_)
        exact ⟨(hyields.answered _).yields hstage, fun reason hcancel ↦ nomatch hcancel⟩
      | refusal reason =>
        have hafter := Conversation.advance_of_cancel before state calls blueprint pending hdata
          hfinal rfl
        have hreplies := Conversation.replies_staged before state calls pending.verb
          pending.parameters (pending.next (.error (.report Program.canceled)))
        rw [← hafter] at hreplies
        refine stands_of_replies hreplies (.inl htakes)
          (hyields.imp_right fun hyields next hstage ↦ ?_)
        obtain ⟨result, hrefused⟩ := hyields.refused
        exact nomatch hrefused.symm.trans hstage
    · obtain ⟨hcome, hrest⟩ := List.forall_mem_append.1 hdata
      refine ⟨[], ?_, .inr ?_⟩
      · simp only [after]
        rw [Conversation.advance_of_data before state calls blueprint pending hcome,
          List.append_nil]
      · simp only [after]
        rw [Conversation.advance_of_data before state calls blueprint pending hcome]
        exact .answered awaiting _ rest final rfl rfl hrest hsettles hyields
  | _ => exact absurd (List.append_eq_nil_iff.1 hlines).1 hinbox

/-! ### The client goes on -/

/-- Lines from the middle of a reply are heard, unless they mislead the client. -/
theorem advance_inner_or_misled (ended : Bool) (later : List Line) (outlet : Outlet)
    (greeting : String) {awaiting : Awaiting} {inner : List Line}
    (hinner : ∀ line ∈ inner, line.IsInner) (hterse : terms.TakesMore awaiting ∨ inner = []) :
    terms.Misled ((Client.mk ⟨.facing ended (inner ++ later), outlet⟩ greeting).advance
        (.waiting awaiting)).1 ∨
      (Client.mk ⟨.facing ended (inner ++ later), outlet⟩ greeting).advance (.waiting awaiting) =
        (Client.mk ⟨.facing ended later, outlet⟩ greeting).advance
          (.waiting (awaiting.after inner)) := by
  rcases hterse with htakes | rfl
  · cases awaiting with
    | resetReply =>
      rcases Client.advance_reset_inner ended later outlet greeting hinner with
        hheard | ⟨verb, left, hmisled⟩
      · exact .inr hheard
      · refine .inl ⟨htakes, verb, ?_⟩
        rw [hmisled]
    | reply collected answers =>
      exact .inr (Client.advance_inner ended later outlet greeting _ hinner False.elim)
    | cancelReply reason =>
      exact .inr (Client.advance_inner ended later outlet greeting _ hinner False.elim)
    | _ => exact htakes.elim
  · exact .inr (Client.advance_inner ended later outlet greeting awaiting hinner fun _ ↦ rfl)

/-- The lines in front of a client leave it in touch, unless they mislead it. -/
def KeepsTouch (terms : Terms) (phase : Phase σ) (turn : Turn)
    (toServer inbox outbox : List Line) : Prop :=
  ∀ before greeting,
    terms.Misled ((Client.mk (.ofLines inbox before) greeting).advance turn).1 ∨
      ∃ next sent heard,
        (Client.mk (.ofLines inbox before) greeting).advance turn =
          (next, ⟨.ofLines [] (before ++ sent), heard⟩) ∧
        InTouch terms phase next (toServer ++ sent) outbox

theorem KeepsTouch.of_nil (h : InTouch terms phase turn toServer outbox) :
    KeepsTouch terms phase turn toServer [] outbox := by
  intro before greeting
  refine .inr ⟨turn, [], greeting, ?_, ?_⟩
  · rw [List.append_nil]
    exact Client.advance_nil (.holding before) greeting turn
  · rwa [List.append_nil]

/-- The lines before the last one of a reply leave a client waiting. -/
theorem KeepsTouch.of_inner {awaiting : Awaiting} (hinner : ∀ line ∈ inbox, line.IsInner)
    (hterse : terms.TakesMore awaiting ∨ inbox = [])
    (hnext : InTouch terms phase (.waiting (awaiting.after inbox)) toServer outbox) :
    KeepsTouch terms phase (.waiting awaiting) toServer inbox outbox := by
  intro before greeting
  have hheard := advance_inner_or_misled false [] (.holding before) greeting hinner hterse
  rw [List.append_nil, Client.advance_waiting_nil] at hheard
  refine hheard.imp_right fun hheard ↦
    ⟨.waiting (awaiting.after inbox), [], greeting, ?_, ?_⟩
  · rw [List.append_nil]
    exact hheard
  · rwa [List.append_nil]

/-- The closing line makes the request return. -/
theorem KeepsTouch.of_closing {awaiting : Awaiting} {inner : List Line} {closing : Line}
    (hphase : phase = .ready) (hinner : ∀ line ∈ inner, line.IsInner)
    (hclosing : closing.IsClosing) (hterse : terms.TakesMore awaiting ∨ inner = []) :
    KeepsTouch terms phase (.waiting awaiting) [] (inner ++ [closing]) [] := by
  intro before greeting
  obtain ⟨outcome, heard, hadvance⟩ := Client.advance_closing false [] (.holding before) greeting
    (awaiting.after inner) hclosing
  refine (advance_inner_or_misled false [closing] (.holding before) greeting hinner
    hterse).imp_right fun hheard ↦ ⟨.returned outcome, [], heard, ?_, .idle outcome hphase rfl⟩
  rw [List.append_nil]
  exact hheard.trans hadvance

/-- An inquiry is answered or called off, unless it misleads the client or is passed over. -/
theorem KeepsTouch.of_inquiry {awaiting : Awaiting} {pending : Pending σ} {inner : List Line}
    {inquiry : Line} (hphase : phase = .asking pending) (hinner : ∀ line ∈ inner, line.IsInner)
    (hinquiry : inquiry.IsInquiry) (htakes : terms.TakesMore awaiting)
    (hyields : terms.insists ∨
      Program.Yields pending.next ∧ ∀ reason, awaiting ≠ .cancelReply reason) :
    KeepsTouch terms phase (.waiting awaiting) [] (inner ++ [inquiry]) [] := by
  intro before greeting
  rcases advance_inner_or_misled false [inquiry] (.holding before) greeting hinner (.inl htakes)
    with hmisled | hheard
  · exact .inl hmisled
  cases awaiting with
  | reply collected answers =>
    obtain ⟨data, final, next, hanswer, hdata, hsettles⟩ :=
      Client.answer_replies greeting (.facing false []) before
        (collected ++ inner.flatMap Line.data) answers inquiry
    have hinquired := Client.advance_inquiry false [] (.holding before) greeting
      (collected ++ inner.flatMap Line.data) answers hinquiry
    rw [hanswer, Client.advance_waiting_nil] at hinquired
    exact .inr ⟨.waiting next, data ++ [final], greeting, hheard.trans hinquired,
      .answered next pending data final hphase rfl hdata hsettles
        (hyields.imp_right And.left)⟩
  | cancelReply reason =>
    have hinquired := Client.advance_inquiry_cancelled false [] (.holding before) greeting
      reason hinquiry
    rw [Client.advance_waiting_nil] at hinquired
    have hinsists : terms.insists :=
      hyields.resolve_right fun h ↦ h.2 reason rfl
    refine .inr ⟨.waiting (.cancelReply reason), [], greeting, ?_,
      .stuck reason pending hphase rfl hinsists⟩
    rw [List.append_nil]
    exact hheard.trans hinquired
  | resetReply =>
    have hinquired := Client.advance_reset_of_tells false [] (.holding before) greeting hinquiry.1
      hinquiry.tells (by rw [hinquiry.2]; decide) (by rw [hinquiry.2]; decide)
    exact .inl ⟨htakes, inquiry.verb, congrArg Prod.fst (hheard.trans hinquired)⟩
  | _ => exact htakes.elim

/-- What a client has in front of it leaves it in touch, unless it misleads the client. -/
theorem InTouch.client (h : InTouch terms phase turn toServer (inbox ++ outbox)) :
    KeepsTouch terms phase turn toServer inbox outbox := by
  by_cases hinbox : inbox = []
  · subst hinbox
    exact .of_nil h
  generalize hlines : inbox ++ outbox = toClient at h
  cases h with
  | replied awaiting inner closing hphase hturn hinner hclosing hterse =>
    subst hturn
    rcases split_last hlines.symm with ⟨rfl, rfl⟩ | ⟨rest, rfl, rfl⟩
    · exact .of_closing hphase hinner hclosing hterse
    · obtain ⟨hcome, hrest⟩ := List.forall_mem_append.1 hinner
      have hparts : terms.TakesMore awaiting ∨ inbox = [] ∧ rest = [] :=
        hterse.imp_right List.append_eq_nil_iff.1
      refine .of_inner hcome (hparts.imp_right And.left) (.replied (awaiting.after inbox) rest
        closing hphase rfl hrest hclosing ?_)
      exact (hparts.imp_left (Terms.takesMore_after inbox).2).imp_right And.right
  | inquired awaiting pending inner inquiry hphase hturn hinner hinquiry htakes hyields =>
    subst hturn
    rcases split_last hlines.symm with ⟨rfl, rfl⟩ | ⟨rest, rfl, rfl⟩
    · exact .of_inquiry hphase hinner hinquiry htakes hyields
    · obtain ⟨hcome, hrest⟩ := List.forall_mem_append.1 hinner
      refine .of_inner hcome (.inl htakes) (.inquired (awaiting.after inbox) pending rest inquiry
        hphase rfl hrest hinquiry ((Terms.takesMore_after inbox).2 htakes) ?_)
      refine hyields.imp_right fun hyields ↦ ⟨hyields.1, fun reason hcancel ↦ ?_⟩
      exact hyields.2 reason (Awaiting.eq_cancelReply_of_after hcancel)
  | _ => exact absurd (List.append_eq_nil_iff.1 hlines).1 hinbox

/-! ### A conversation that is over -/

/-- A client's stream once nothing more will be written to it, by the lines in front of the client
and those still on their way. -/
inductive Draining : LineReader → List Line → List Line → Prop
  | opened (inbox outbox : List Line) : Draining (.facing false inbox) inbox outbox
  | ended (inbox : List Line) : Draining (.facing true inbox) inbox []
  /-- The end of the stream was read. -/
  | spent : Draining ⟨[], true, ⟨[], true⟩⟩ [] []

theorem Parting.nothing (turn : Turn) : Parting terms turn [] :=
  .silent [] (List.forall_mem_nil _) (.inl rfl)

/-- A client whose conversation is over hears what is left, unless that misleads it. -/
def KeepsParting (terms : Terms) (turn : Turn) (reader : LineReader) (outbox : List Line) : Prop :=
  ∀ outlet greeting,
    let (next, client) := (Client.mk ⟨reader, outlet⟩ greeting).advance turn
    terms.Misled next ∨
      ∃ inbox, Draining client.wire.reader inbox outbox ∧ Parting terms next (inbox ++ outbox)

/-- A client that waits in vain finds the end of its stream once that has come. -/
theorem KeepsParting.of_silent {reader : LineReader} {awaiting : Awaiting}
    (hdraining : Draining reader inbox outbox) (hinner : ∀ line ∈ inbox ++ outbox, line.IsInner)
    (hterse : terms.TakesMore awaiting ∨ inbox ++ outbox = []) :
    KeepsParting terms (.waiting awaiting) reader outbox := by
  intro outlet greeting
  obtain ⟨hcome, hrest⟩ := List.forall_mem_append.1 hinner
  have hparts : terms.TakesMore awaiting ∨ inbox = [] ∧ outbox = [] :=
    hterse.imp_right List.append_eq_nil_iff.1
  cases hdraining with
  | opened inbox outbox =>
    have hheard := advance_inner_or_misled false [] outlet greeting hcome
      (hparts.imp_right And.left)
    rw [List.append_nil, Client.advance_waiting_nil] at hheard
    refine hheard.imp_right fun hheard ↦ ?_
    rw [hheard]
    refine ⟨[], .opened [] outbox, .silent outbox hrest ?_⟩
    rcases hparts with htakes | ⟨-, hnone⟩
    · exact .inr ⟨_, rfl, (Terms.takesMore_after inbox).2 htakes⟩
    · exact .inl hnone
  | ended inbox =>
    have hheard := advance_inner_or_misled true [] outlet greeting hcome
      (hparts.imp_right And.left)
    rw [List.append_nil, Client.advance_waiting_end] at hheard
    refine hheard.imp_right fun hheard ↦ ?_
    rw [hheard]
    exact ⟨[], .spent, .nothing _⟩
  | spent =>
    rw [Client.advance_waiting_spent]
    exact .inr ⟨[], .spent, .nothing _⟩

theorem Parting.client {reader : LineReader} (h : Parting terms turn (inbox ++ outbox))
    (hdraining : Draining reader inbox outbox) : KeepsParting terms turn reader outbox := by
  generalize hlines : inbox ++ outbox = left at h
  cases h with
  | silent inner hinner hterse =>
    subst hlines
    cases turn with
    | returned outcome =>
      intro outlet greeting
      obtain ⟨rfl, rfl⟩ : inbox = [] ∧ outbox = [] :=
        List.append_eq_nil_iff.1 (hterse.resolve_right fun ⟨_, hwaiting, _⟩ ↦ nomatch hwaiting)
      rw [Client.advance_returned]
      exact .inr ⟨[], hdraining, .nothing _⟩
    | waiting awaiting =>
      refine .of_silent hdraining hinner (hterse.symm.imp_left fun ⟨_, hwaiting, htakes⟩ ↦ ?_)
      rwa [Turn.waiting.inj hwaiting]
  | closing awaiting inner closing hturn hinner hclosing hterse =>
    subst hturn
    intro outlet greeting
    rcases split_last hlines.symm with ⟨rfl, rfl⟩ | ⟨rest, rfl, rfl⟩
    · have hheard : ∀ ended, Draining (.facing ended []) [] [] →
          let (next, client) := (Client.mk ⟨.facing ended (inner ++ [closing]), outlet⟩
            greeting).advance (.waiting awaiting)
          terms.Misled next ∨ ∃ inbox, Draining client.wire.reader inbox [] ∧
            Parting terms next (inbox ++ []) := by
        intro ended hdrained
        obtain ⟨outcome, heard, hadvance⟩ := Client.advance_closing ended [] outlet greeting
          (awaiting.after inner) hclosing
        refine (advance_inner_or_misled ended [closing] outlet greeting hinner hterse).imp_right
          fun hheard ↦ ?_
        rw [hheard, hadvance]
        exact ⟨[], hdrained, .nothing _⟩
      generalize hinbox : inner ++ [closing] = inbox at hdraining
      cases hdraining with
      | opened => exact hinbox ▸ hheard false (.opened [] [])
      | ended => exact hinbox ▸ hheard true (.ended [])
      | spent => simp at hinbox
    · obtain ⟨hcome, hrest⟩ := List.forall_mem_append.1 hinner
      have hparts : terms.TakesMore awaiting ∨ inbox = [] ∧ rest = [] :=
        hterse.imp_right List.append_eq_nil_iff.1
      generalize houtbox : rest ++ [closing] = outbox at hdraining
      cases hdraining with
      | opened =>
        have hheard := advance_inner_or_misled false [] outlet greeting hcome
          (hparts.imp_right And.left)
        rw [List.append_nil, Client.advance_waiting_nil] at hheard
        refine hheard.imp_right fun hheard ↦ ?_
        rw [hheard]
        refine ⟨[], .opened [] outbox, ?_⟩
        rw [← houtbox]
        exact .closing _ rest closing rfl hrest hclosing
          ((hparts.imp_left (Terms.takesMore_after inbox).2).imp_right And.right)
      | _ => simp at houtbox

/-- A conversation that is over, and a client that has yet to hear what it left. -/
structure Parted (terms : Terms) (exchange : Exchange σ) (inbox outbox : List Line) : Prop where
  hover : exchange.server.isOver = true
  written : exchange.server.wire.outlet.written = outbox.map Line.octets
  draining : Draining exchange.client.wire.reader inbox outbox
  parting : Parting terms exchange.turn (inbox ++ outbox)

end Exchange

end LineProtocol
