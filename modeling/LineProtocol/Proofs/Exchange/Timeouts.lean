import LineProtocol.Proofs.Exchange.OwnReply

/-!
# Reads that give up

In a history there may be reads of the client that give up. Such a read ends its request with a
failure, and the reply is left unread when it comes: the next request takes it for its own
(`late_of_timeout`). Up to the first read that gives up nothing of the kind happens, and a command
returns what its own program has come to (`told_of_own_command`).
-/

set_option autoImplicit false

namespace LineProtocol

/-- Whether a request runs a command. -/
def Request.IsCommand : Request → Prop
  | .command _ _ _ => True
  | .option _ _ | .reset => False

/-- Commands only, whatever the handlers do. -/
def Terms.commands : Terms :=
  ⟨Request.IsCommand, False, True⟩

namespace Exchange

variable {σ : Type}

/-- An event, or a read of the client that gives up. -/
inductive Occurrence where
  | event (event : Event)
  | timeout

/-- The exchange after an occurrence. -/
def occur (blueprint : Blueprint σ) (exchange : Exchange σ) : Occurrence → Exchange σ
  | .event event => exchange.step blueprint event
  | .timeout => exchange.expire

/-- The exchange after a history in which reads give up now and then. -/
def through (blueprint : Blueprint σ) (exchange : Exchange σ) (history : List Occurrence) :
    Exchange σ :=
  history.foldl (occur blueprint) exchange

variable (blueprint : Blueprint σ) (exchange : Exchange σ)

/-- What every move keeps, and every read that gives up, is kept until the next request. -/
theorem through_of_keeps (kept : Exchange σ → Prop) {later : List Occurrence}
    (hmove : ∀ exchange next, kept exchange → kept (exchange.move blueprint next))
    (hexpire : ∀ exchange, kept exchange → kept exchange.expire)
    (hlater : ∀ request, .event (.request request) ∉ later) (h : kept exchange) :
    kept (exchange.through blueprint later) := by
  induction later generalizing exchange with
  | nil => exact h
  | cons occurrence later ih =>
    refine ih _ (fun request hmem ↦ hlater request (List.mem_cons_of_mem _ hmem)) ?_
    match occurrence with
    | .timeout => exact hexpire exchange h
    | .event (.move next) => exact hmove exchange next h
    | .event (.request request) => exact absurd List.mem_cons_self (hlater request)

/-- Without reads that give up a history is one of events. -/
theorem through_of_punctual {history : List Occurrence} (h : .timeout ∉ history) :
    ∃ events, history = events.map .event ∧
      exchange.through blueprint history = exchange.after blueprint events := by
  induction history generalizing exchange with
  | nil => exact ⟨[], rfl, rfl⟩
  | cons occurrence later ih =>
    match occurrence with
    | .timeout => exact absurd List.mem_cons_self h
    | .event event =>
      obtain ⟨events, rfl, hsame⟩ := ih (exchange.step blueprint event)
        fun hmem ↦ h (List.mem_cons_of_mem _ hmem)
      exact ⟨event :: events, rfl, hsame⟩

/-- As long as no earlier read has given up, a command without answers that returns data or a fault
returns what its own program has come to. That holds whatever moves are made, and also if reads
give up from then on. -/
theorem told_of_own_command (blueprint : Blueprint σ) (gone : IoError)
    (earlier later : List Occurrence) (verb : String) (parameters : Bytes)
    (previous outcome : Except Failure Bytes) (hpunctual : .timeout ∉ earlier)
    (hcommands : ∀ request, .event (.request request) ∈ earlier → request.IsCommand)
    (hprevious : ((start blueprint gone).through blueprint earlier).turn = .returned previous)
    (hlater : ∀ request, .event (.request request) ∉ later)
    (hreturned : (((start blueprint gone).through blueprint earlier).through blueprint
      (.event (.request (.command verb parameters [])) :: later)).turn = .returned outcome)
    (hheard : (∃ data, outcome = .ok data) ∨ ∃ fault, outcome = .error (.peer fault)) :
    ∃ command transcript, Line.compose verb parameters = .ok command ∧
      Program.consult [] ((Action.ofCommand blueprint command).program
        ((start blueprint gone).through blueprint earlier).server.state) [] = some transcript ∧
      outcome = transcript.told := by
  obtain ⟨events, rfl, hsame⟩ :=
    through_of_punctual blueprint (start blueprint gone) hpunctual
  rw [hsame] at hprevious hreturned ⊢
  have hattuned : ((start blueprint gone).after blueprint events).Attuned Terms.commands :=
    attuned_after blueprint ⟨False.elim, .inl trivial⟩ (attuned_start blueprint _ gone)
      (fun request hmem ↦ hcommands request (List.mem_map_of_mem hmem))
      fun _ _ hmisled ↦ hmisled.1
  generalize (start blueprint gone).after blueprint events = before
    at hprevious hreturned hattuned ⊢
  have hasked : before.occur blueprint (.event (.request (.command verb parameters []))) =
      before.ask (.command verb parameters []) := by
    rw [occur, step, hprevious]
  rw [through, List.foldl_cons, hasked, ← through] at hreturned
  cases hcommand : Line.compose verb parameters with
  | error cause =>
    have hsent : (before.client.wire.outlet.sendLine verb parameters).1 = .error cause := by
      rw [Outlet.sendLine, Line.encode_eq_map_compose, hcommand]
      rfl
    have hforsaken := through_of_keeps blueprint _ (fun exchange ↦ exchange.turn.Forsaken)
      (fun _ next h ↦ forsaken_move blueprint h next)
      (fun _ h ↦ Turn.forsaken_expire (h.advance _)) hlater (forsaken_ask hsent)
    rw [hreturned] at hforsaken
    exact absurd hheard hforsaken.not_told
  | ok command =>
    have hsendable := (Line.sendable_of_compose hcommand).1
    have hown := through_of_keeps blueprint _ (Own blueprint command before.server.state)
      (fun _ next h ↦ h.move hsendable next) (fun _ h ↦ h.expire) hlater
      (own_ask hattuned hprevious hcommand)
    rcases hown.of_returned hreturned with ⟨transcript, hconsult, hturn⟩ | hforsaken
    · exact ⟨command, transcript, rfl, hconsult, Turn.returned.inj (hreturned.symm.trans hturn)⟩
    · rw [hreturned] at hforsaken
      exact absurd hheard hforsaken.not_told

/-- A blueprint with a command that sends back what it is given. -/
def echoing : Blueprint Unit :=
  (Blueprint.plain () "ready").withCommand "ECHO" fun _ parameters ↦
    .data (Utf8.encode parameters) fun _ ↦ .done ((), .ok ())

/-- The client takes notice of the greeting. -/
def connecting : List Occurrence :=
  [.event (.move (.toClient 1)), .event (.move .client)]

/-- A command is carried out and its reply handed over. -/
def replying : List Occurrence :=
  [.event (.move (.toServer 1)), .event (.move .server), .event (.move (.toClient 2))]

/-- A command that is replied to in time returns its own data. -/
theorem told_of_echo :
    let before := (start echoing ⟨.brokenPipe, "gone"⟩).through echoing connecting
    let exchange := before.through echoing
      (.event (.request (.command "echo" (Utf8.encode "own") [])) :: (replying ++ [.timeout]))
    before.turn = .returned (.ok []) ∧
      exchange.turn = .returned (.ok (Utf8.encode "own")) ∧
      ∃ command transcript, Line.compose "echo" (Utf8.encode "own") = .ok command ∧
        Program.consult [] ((Action.ofCommand echoing command).program before.server.state) [] =
          some transcript ∧
        .ok (Utf8.encode "own") = transcript.told := by
  intro before exchange
  have hprevious : before.turn = .returned (.ok []) := turn_of_outcome? (by decide +kernel)
  have hreturned : exchange.turn = .returned (.ok (Utf8.encode "own")) :=
    turn_of_outcome? (by decide +kernel)
  refine ⟨hprevious, hreturned, told_of_own_command echoing ⟨.brokenPipe, "gone"⟩ connecting
    (replying ++ [.timeout]) "echo" (Utf8.encode "own") _ _ ?_ ?_ hprevious ?_ hreturned
    (.inl ⟨_, rfl⟩)⟩
  · simp [connecting]
  · simp [connecting]
  · simp [replying]

/-- A command whose read gave up is replied to all the same, and the next command takes that reply
for its own. -/
theorem late_of_timeout :
    let exchange := (start echoing ⟨.brokenPipe, "gone"⟩).through echoing
      (connecting ++ .event (.request (.command "echo" (Utf8.encode "late") [])) :: .timeout ::
        replying ++ [.event (.request (.command "echo" (Utf8.encode "own") [])),
          .event (.move .client)])
    exchange.outcome? = some (.ok (Utf8.encode "late")) ∧
      Line.compose "echo" (Utf8.encode "own") = .ok ⟨"ECHO", Utf8.encode "own"⟩ ∧
      Program.consult [] ((Action.ofCommand echoing ⟨"ECHO", Utf8.encode "own"⟩).program ()) [] =
        some ⟨((), .ok ()), Utf8.encode "own", 0⟩ := by
  refine ⟨by decide +kernel, by decide +kernel, ?_⟩
  rfl

end Exchange

end LineProtocol
