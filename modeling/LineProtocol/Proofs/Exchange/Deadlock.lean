import LineProtocol.Proofs.Exchange.InStep

/-!
# Deadlocks

Client and conversation are deadlocked when both wait for something to read and there is nothing
left for either. Between a client that runs commands and a conversation that heeds them there is
one way into a deadlock: the client has cancelled an inquiry and waits for the end of the reply,
and the handler has gone on and asked again, which such a client does not hear
(`refused_of_deadlocked`). No handler that asks for nothing more once it was refused comes to that.
-/

set_option autoImplicit false

namespace LineProtocol

/-- A command that the conversation does not pass over. -/
def Request.IsHeeded : Request → Prop
  | .command verb parameters _ =>
    ∀ line, Line.compose verb parameters = .ok line → line.onlyInforms = false
  | .option _ _ | .reset => False

/-- Commands that are heeded, and handlers that insist or do not. -/
def Terms.heeded (insists : Prop) : Terms :=
  ⟨Request.IsHeeded, False, insists⟩

namespace Exchange

variable {σ : Type} {exchange : Exchange σ} (blueprint : Blueprint σ)

/-- Both sides wait to read, and not one octet is left that either could be given. -/
def Deadlocked (exchange : Exchange σ) : Prop :=
  exchange.server.isOver = false ∧ exchange.outcome? = none ∧ exchange.inTransit = []

instance (exchange : Exchange σ) : Decidable exchange.Deadlocked :=
  inferInstanceAs (Decidable (_ ∧ _ ∧ _))

/-- There are no lines if there is nothing on its way. -/
theorem Linked.eq_nil_of_inTransit {serverInbox clientOutbox clientInbox serverOutbox : List Line}
    (h : exchange.Linked serverInbox clientOutbox clientInbox serverOutbox)
    (hnone : exchange.inTransit = []) :
    serverInbox = [] ∧ clientOutbox = [] ∧ clientInbox = [] ∧ serverOutbox = [] := by
  have hwritten : ∀ lines, (Outlet.holding lines).octets = [] → lines = [] := by
    intro lines hlines
    refine List.eq_nil_iff_forall_not_mem.2 fun line hmem ↦ line.octets_ne_nil ?_
    exact List.flatten_eq_nil_iff.1 hlines _ (List.mem_map_of_mem hmem)
  have hunread : ∀ lines, (LineReader.facing false lines).inlet.unread = [] → lines = [] := by
    intro lines hlines
    refine List.eq_nil_iff_forall_not_mem.2 fun line hmem ↦ line.octets_ne_nil ?_
    exact List.flatMap_eq_nil_iff.1 hlines (.chunk line.octets)
      (List.mem_map_of_mem (f := fun line : Line ↦ Arrival.chunk line.octets) hmem)
  rw [inTransit, h.client, h.server] at hnone
  simp only [List.append_eq_nil_iff] at hnone
  obtain ⟨⟨⟨⟨⟨hclientOutbox, hserverInbox⟩, -⟩, hserverOutbox⟩, hclientInbox⟩, -⟩ := hnone
  exact ⟨hunread _ hserverInbox, hwritten _ hclientOutbox, hunread _ hclientInbox,
    hwritten _ hserverOutbox⟩

/-- Without lines on their way an exchange stays as it is. -/
theorem move_of_linked_nil (h : exchange.Linked [] [] [] [])
    (hopen : exchange.server.isOver = false) (next : Move) :
    exchange.move blueprint next = exchange := by
  cases next with
  | server => exact move_server_of_nil blueprint h
  | client => exact move_client_of_nil blueprint h
  | drop => exact move_drop_of_open blueprint hopen
  | toServer count =>
    obtain ⟨⟨clientWire, greeting⟩, turn, ⟨wire, state, phase, calls⟩, gone⟩ := exchange
    obtain ⟨rfl, rfl⟩ := h
    simp only [move, Conversation.receive, written_ofLines, List.map_nil, List.take_nil,
      receive_nothing, relieved_ofLines, List.drop_nil]
  | toClient count =>
    obtain ⟨⟨clientWire, greeting⟩, turn, ⟨wire, state, phase, calls⟩, gone⟩ := exchange
    obtain ⟨rfl, rfl⟩ := h
    simp only [move, Client.receive, written_ofLines, List.map_nil, List.take_nil,
      receive_nothing, relieved_ofLines, List.drop_nil]

theorem moves_of_linked_nil (h : exchange.Linked [] [] [] [])
    (hopen : exchange.server.isOver = false) (run : List Move) :
    exchange.moves blueprint run = exchange := by
  induction run with
  | nil => rfl
  | cons next later ih =>
    rw [moves, List.foldl_cons, move_of_linked_nil blueprint h hopen]
    exact ih

/-- With nothing on its way a client waits in vain only if its cancellation was not the last
word. -/
theorem InTouch.of_silence {insists : Prop} {phase : Phase σ} {turn : Turn}
    {toServer toClient : List Line}
    (h : InTouch (Terms.heeded insists) phase turn toServer toClient)
    (hserver : toServer = []) (hclient : toClient = [])
    (hwaits : ∀ outcome, turn ≠ .returned outcome) :
    insists ∧ ∃ reason pending, turn = .waiting (.cancelReply reason) ∧
      phase = .asking pending := by
  cases h with
  | idle outcome hphase hturn => exact absurd hturn (hwaits outcome)
  | stuck reason pending hphase hturn hinsists => exact ⟨hinsists, reason, pending, hturn, hphase⟩
  | ignored request command hphase hturn hheeded hcommand hinforms =>
    cases request with
    | command verb parameters answers =>
      exact absurd (hinforms.symm.trans (hheeded command hcommand)) (by decide)
    | _ => exact hheeded.elim
  | _ => simp at hserver hclient

/-- Client and conversation are deadlocked only if the client has cancelled an inquiry and the
handler has asked again, and then for ever. If every handler asks for nothing more once it was
refused they never are. -/
theorem refused_of_deadlocked (blueprint : Blueprint σ) (gone : IoError) (events : List Event)
    (hheeded : ∀ request, .request request ∈ events → request.IsHeeded)
    (hdeadlocked : ((start blueprint gone).after blueprint events).Deadlocked) :
    let exchange := (start blueprint gone).after blueprint events
    ¬blueprint.Resigns ∧
      (∃ reason pending, exchange.turn = .waiting (.cancelReply reason) ∧
        exchange.server.phase = .asking pending) ∧
      ∀ run, exchange.moves blueprint run = exchange := by
  intro exchange
  obtain ⟨hopen, hwaits, hnone⟩ := hdeadlocked
  have hattuned : exchange.Attuned (Terms.heeded (¬blueprint.Resigns)) :=
    attuned_after blueprint ⟨False.elim, (em blueprint.Resigns).symm⟩
      (attuned_start blueprint _ gone) hheeded fun _ _ hmisled ↦ hmisled.1
  rcases hattuned with ⟨inbox, outbox, hparted⟩ |
    ⟨serverInbox, clientOutbox, clientInbox, serverOutbox, hlinked, htouch⟩
  · exact absurd (hparted.hover.symm.trans hopen) (by decide)
  obtain ⟨rfl, rfl, rfl, rfl⟩ := hlinked.eq_nil_of_inTransit hnone
  have hwaiting : ∀ outcome, exchange.turn ≠ .returned outcome := by
    intro outcome hturn
    rw [outcome?, show ((start blueprint gone).after blueprint events).turn = _ from hturn]
      at hwaits
    exact nomatch hwaits
  obtain ⟨hinsists, hcancelled⟩ := htouch.of_silence rfl rfl hwaiting
  exact ⟨hinsists, hcancelled, moves_of_linked_nil blueprint hlinked hopen⟩

/-- A handler that asks for two keys, whatever becomes of the first. -/
def insisting : Blueprint Unit :=
  (Blueprint.plain () "ready").withCommand "ASK" fun _ _ ↦
    .inquire "A" fun _ ↦ .inquire "B" fun _ ↦ .done ((), .ok ())

/-- A command with no answer prepared, up to where the second inquiry has been passed over. -/
def askedTwice : List Event :=
  [.move (.toClient 1), .move .client, .request (.command "ask" [] []), .move (.toServer 1),
    .move .server, .move (.toClient 1), .move .client, .move (.toServer 1), .move .server,
    .move (.toClient 1), .move .client]

theorem isHeeded_of_mem_askedTwice {request : Request} (h : .request request ∈ askedTwice) :
    request.IsHeeded := by
  have hrequest : request = .command "ask" [] [] := by simpa [askedTwice] using h
  subst hrequest
  intro line hline
  obtain ⟨-, rfl⟩ := Line.sendable_of_compose hline
  decide

/-- A handler that insists brings about a deadlock. -/
theorem deadlocked_of_askedTwice :
    (∀ request, .request request ∈ askedTwice → request.IsHeeded) ∧
      ((start insisting ⟨.brokenPipe, "gone"⟩).after insisting askedTwice).Deadlocked :=
  ⟨fun _ hmem ↦ isHeeded_of_mem_askedTwice hmem, by decide +kernel⟩

/-- There is no way out of it, and the handler is to blame. -/
theorem refused_of_askedTwice :
    let exchange := (start insisting ⟨.brokenPipe, "gone"⟩).after insisting askedTwice
    (∀ request, .request request ∈ askedTwice → request.IsHeeded) ∧ exchange.Deadlocked ∧
      ¬insisting.Resigns ∧
      (∃ reason pending, exchange.turn = .waiting (.cancelReply reason) ∧
        exchange.server.phase = .asking pending) ∧
      ∀ run, exchange.moves insisting run = exchange := by
  intro exchange
  have hheeded : ∀ request, .request request ∈ askedTwice → request.IsHeeded :=
    fun _ hmem ↦ isHeeded_of_mem_askedTwice hmem
  have hdeadlocked : exchange.Deadlocked := by decide +kernel
  exact ⟨hheeded, hdeadlocked, refused_of_deadlocked insisting ⟨.brokenPipe, "gone"⟩ askedTwice
    hheeded hdeadlocked⟩

end Exchange

end LineProtocol
