import LineProtocol.Proofs.Line.Delivery
import LineProtocol.Proofs.Reading.Lines
import LineProtocol.Proofs.Server.Action
import LineProtocol.Proofs.Server.Replies

/-!
# The chronicle of a conversation

What a conversation does on a stream whose writes succeed can be told command by command. An
`Episode` is a command with what it brings about: the lines that lead up to the closing one, the
closing line or the failure that ends the conversation in its place, the handler or option setter
that ran, and the state it left. `Effect` says what runs on a command and with what, and
`Chronicle` follows a wire and a state from one episode to the next.

There, what a handler program sends and what it comes to depend on nothing but the lines it reads.
`Program.narrate` tells both, and a run comes to just that (`run_narrated`). A program that does not
have to wait writes data, comments, status lines and inquiries only (`narrate_of_ended`), and so
every command that is taken makes an episode (`dispatch_obliging`). `serve_chronicle` tells a whole
conversation: the greeting and its episodes, one after the other.
-/

set_option autoImplicit false

namespace LineProtocol

/-! ### Input that ends -/

namespace Program

/-- On a stream that ends every inquiry gets an outcome. -/
theorem gather_of_ended {reader : LineReader} (collected : Bytes)
    (h : reader.inlet.ended = true) :
    ∃ outcome rest, gather collected reader = (.answered outcome, rest) ∧
      rest.inlet.ended = true := by
  have hread := LineReader.readLine_of_ended h
  fun_induction gather collected reader with
  | case1 collected reader rest hline =>
    rw [hline] at hread
    exact absurd rfl hread.1
  | case2 collected reader cause rest hline =>
    rw [hline] at hread
    exact ⟨_, rest, rfl, hread.2⟩
  | case3 collected reader line rest hline hdata ih =>
    rw [hline] at hread
    exact ih hread.2 (LineReader.readLine_of_ended hread.2)
  | case4 collected reader line rest hline =>
    rw [hline] at hread
    exact ⟨_, rest, rfl, hread.2⟩
  | case5 collected reader line rest hline =>
    rw [hline] at hread
    exact ⟨_, rest, rfl, hread.2⟩
  | case6 collected reader line rest hline =>
    rw [hline] at hread
    exact ⟨_, rest, rfl, hread.2⟩

/-! ### Handler programs -/

variable {α : Type}

/-- What a run comes to if all that it sends is taken. -/
structure Narration (α : Type) where
  run : Run α
  lines : List Line
  reader : LineReader

/-- The narration of a program that has sent some lines before. -/
def Narration.ledBy (lines : List Line) (later : Narration α) : Narration α :=
  { later with lines := lines ++ later.lines }

/-- Tells what a program sends and what it comes to, given what there is to read. -/
def narrate : Program α → LineReader → Narration α
  | .done result, reader => ⟨.finished result, [], reader⟩
  | .data payload next, reader =>
    ((next (.ok ())).narrate reader).ledBy (Line.ofPayload payload)
  | .comment text next, reader =>
    let composed := Line.compose "#" (Utf8.encode text)
    ((next (composed.map fun _ ↦ ())).narrate reader).ledBy (Line.sent composed)
  | .status keyword text next, reader =>
    let composed := Line.compose "S"
      (Utf8.encode (if text = "" then keyword else keyword ++ " " ++ text))
    ((next (composed.map fun _ ↦ ())).narrate reader).ledBy (Line.sent composed)
  | .inquire keyword next, reader =>
    match Line.compose "INQUIRE" (Utf8.encode keyword) with
    | .error cause => (next (.error (.ofFailure cause))).narrate reader
    | .ok line =>
      match gather [] reader with
      | (.answered outcome, rest) => ((next outcome).narrate rest).ledBy [line]
      | (.waiting collected, rest) => ⟨.suspended collected next, [line], rest⟩

/-- A run that comes to a narration, with the outlet it leaves. -/
def Narration.Told (narration : Narration α) (program : Program α) (wire : Wire)
    (outlet : Outlet) : Prop :=
  program.run wire = (narration.run, ⟨narration.reader, outlet⟩) ∧
    wire.outlet.Delivered narration.lines outlet

/-- A run whose first step has sent some lines. -/
theorem Narration.Told.after_sending {program later : Program α} {narration : Narration α}
    {wire : Wire} {between outlet : Outlet} {sent : List Line}
    (hrun : program.run wire = later.run { wire with outlet := between })
    (hsent : wire.outlet.Delivered sent between)
    (h : narration.Told later { wire with outlet := between } outlet) :
    (narration.ledBy sent).Told program wire outlet :=
  ⟨hrun.trans h.1, hsent.trans h.2⟩

/-- On an outlet that takes what is written every run comes to its narration. -/
theorem run_narrated (program : Program α) (wire : Wire) (hobliging : wire.outlet.Obliging) :
    ∃ outlet, (program.narrate wire.reader).Told program wire outlet := by
  induction program generalizing wire with
  | done result => exact ⟨wire.outlet, rfl, hobliging.delivered⟩
  | data payload next ih =>
    obtain ⟨between, hsend, hsent⟩ := Outlet.sendData_obliging payload hobliging
    obtain ⟨outlet, htold⟩ := ih (.ok ()) ⟨wire.reader, between⟩ hsent.obliging
    have hrun : (data payload next).run wire =
        (next (.ok ())).run { wire with outlet := between } := by rw [run, hsend]
    exact ⟨outlet, htold.after_sending hrun hsent⟩
  | comment text next ih =>
    obtain ⟨between, hsend, hsent⟩ := Outlet.sendLine_obliging "#" (Utf8.encode text) hobliging
    obtain ⟨outlet, htold⟩ := ih _ ⟨wire.reader, between⟩ hsent.obliging
    have hrun : (comment text next).run wire = (next ((Line.compose "#"
        (Utf8.encode text)).map fun _ ↦ ())).run { wire with outlet := between } := by
      rw [run, Outlet.sendComment, hsend]
    exact ⟨outlet, htold.after_sending hrun hsent⟩
  | status keyword text next ih =>
    obtain ⟨between, hsend, hsent⟩ := Outlet.sendLine_obliging "S"
      (Utf8.encode (if text = "" then keyword else keyword ++ " " ++ text)) hobliging
    obtain ⟨outlet, htold⟩ := ih _ ⟨wire.reader, between⟩ hsent.obliging
    have hrun : (status keyword text next).run wire = (next ((Line.compose "S" (Utf8.encode
        (if text = "" then keyword else keyword ++ " " ++ text))).map fun _ ↦ ())).run
          { wire with outlet := between } := by
      rw [run, Outlet.sendStatus, hsend]
    exact ⟨outlet, htold.after_sending hrun hsent⟩
  | inquire keyword next ih =>
    obtain ⟨between, hsend, hsent⟩ :=
      Outlet.sendLine_obliging "INQUIRE" (Utf8.encode keyword) hobliging
    rw [narrate]
    cases hcomposed : Line.compose "INQUIRE" (Utf8.encode keyword) with
    | error cause =>
      rw [hcomposed] at hsend hsent
      obtain ⟨outlet, htold⟩ :=
        ih (.error (.ofFailure cause)) ⟨wire.reader, between⟩ hsent.obliging
      have hrun : (inquire keyword next).run wire =
          (next (.error (.ofFailure cause))).run { wire with outlet := between } := by
        rw [run, hsend]
        rfl
      exact ⟨outlet, htold.after_sending hrun hsent⟩
    | ok line =>
      rw [hcomposed] at hsend hsent
      have hrun : (inquire keyword next).run wire =
          match gather [] wire.reader with
          | (.answered outcome, reader) => (next outcome).run ⟨reader, between⟩
          | (.waiting collected, reader) => (.suspended collected next, ⟨reader, between⟩) := by
        rw [run, hsend]
        rfl
      rcases hgather : gather [] wire.reader with ⟨outcome | collected, rest⟩
      · obtain ⟨outlet, hlater, htold⟩ := ih outcome ⟨rest, between⟩ hsent.obliging
        rw [hgather] at hrun
        exact ⟨outlet, hrun.trans hlater, hsent.trans htold⟩
      · rw [hgather] at hrun
        exact ⟨between, hrun, hsent⟩

theorem isLead_of_sent {verb : String} {parameters : Bytes}
    (hverb : upperCase verb = "D" ∨ upperCase verb = "#" ∨ upperCase verb = "S") :
    ∀ line ∈ Line.sent (Line.compose verb parameters), line.IsLead := by
  cases h : Line.compose verb parameters with
  | error cause => exact List.forall_mem_nil _
  | ok line => exact List.forall_mem_singleton.2 (.inl (Line.isInner_of_compose hverb h))

/-- Whatever a program does with its failures, on input that ends it ends, and it never writes a
closing line. -/
theorem narrate_of_ended (program : Program α) {reader : LineReader}
    (hended : reader.inlet.ended = true) :
    ∃ result lead rest, program.narrate reader = ⟨.finished result, lead, rest⟩ ∧
      (∀ line ∈ lead, line.IsLead) ∧ rest.inlet.ended = true := by
  induction program generalizing reader with
  | done result => exact ⟨result, [], reader, rfl, List.forall_mem_nil _, hended⟩
  | data payload next ih =>
    obtain ⟨result, lead, rest, hlater, hlead, hrest⟩ := ih (.ok ()) hended
    refine ⟨result, _, rest, congrArg (Narration.ledBy _) hlater, ?_, hrest⟩
    exact List.forall_mem_append.2
      ⟨fun line hmem ↦ .inl (Line.isData_of_mem_ofPayload hmem).isInner, hlead⟩
  | comment text next ih =>
    have hverb : upperCase "#" = "#" := by decide
    obtain ⟨result, lead, rest, hlater, hlead, hrest⟩ := ih _ hended
    refine ⟨result, _, rest, congrArg (Narration.ledBy _) hlater, ?_, hrest⟩
    exact List.forall_mem_append.2 ⟨isLead_of_sent (.inr (.inl hverb)), hlead⟩
  | status keyword text next ih =>
    have hverb : upperCase "S" = "S" := by decide
    obtain ⟨result, lead, rest, hlater, hlead, hrest⟩ := ih _ hended
    refine ⟨result, _, rest, congrArg (Narration.ledBy _) hlater, ?_, hrest⟩
    exact List.forall_mem_append.2 ⟨isLead_of_sent (.inr (.inr hverb)), hlead⟩
  | inquire keyword next ih =>
    rw [narrate]
    cases hcomposed : Line.compose "INQUIRE" (Utf8.encode keyword) with
    | error cause => exact ih _ hended
    | ok line =>
      obtain ⟨outcome, after, hgather, hafter⟩ := gather_of_ended [] hended
      obtain ⟨result, lead, rest, hlater, hlead, hrest⟩ := ih outcome hafter
      simp only [hgather]
      refine ⟨result, _, rest, congrArg (Narration.ledBy _) hlater, ?_, hrest⟩
      exact List.forall_mem_append.2
        ⟨List.forall_mem_singleton.2 (.inr (Line.isInquiry_of_compose hcomposed)), hlead⟩

/-- What a run comes to that does not have to wait, and what it has written by then. -/
structure Completes (program : Program α) (wire : Wire) (result : α) (lead : List Line)
    (after : Wire) : Prop where
  run : program.run wire = (.finished result, after)
  delivered : wire.outlet.Delivered lead after.outlet
  lead : ∀ line ∈ lead, line.IsLead
  ended : after.reader.inlet.ended = true

/-- On input that ends and an outlet that takes what is written, every run is completed. -/
theorem run_obliging (program : Program α) (wire : Wire) (hended : wire.reader.inlet.ended = true)
    (hobliging : wire.outlet.Obliging) :
    ∃ result lead after, program.Completes wire result lead after := by
  obtain ⟨result, lead, rest, htells, hlead, hrest⟩ := program.narrate_of_ended hended
  obtain ⟨outlet, hrun, hsent⟩ := program.run_narrated wire hobliging
  rw [htells] at hrun hsent
  exact ⟨result, lead, ⟨rest, outlet⟩, hrun, hsent, hlead, hrest⟩

end Program

/-! ### Episodes -/

/-- A command that was taken, with what it brought about. -/
structure Episode (σ : Type) where
  command : Line
  /-- The lines that lead up to the closing one. -/
  lead : List Line
  /-- The closing line, or the failure that ends the conversation in its place. -/
  closing : Except Failure Line
  /-- The handler or option setter that ran. -/
  calls : List (Call σ)
  /-- The state that the command leaves. -/
  state : σ

namespace Episode

variable {σ : Type}

/-- All that the command writes. -/
def lines (episode : Episode σ) : List Line :=
  episode.lead ++ Line.sent episode.closing

/-- Whether the client says goodbye. -/
def isFarewell (episode : Episode σ) : Bool :=
  episode.command.verb == "BYE" && episode.command.text?.isSome

/-- How the conversation ends with the command, if it does. -/
def result? (episode : Episode σ) : Option (Except Failure Unit) :=
  match episode.closing with
  | .error cause => some (.error cause)
  | .ok _ => if episode.isFarewell then some (.ok ()) else none

end Episode

variable {σ : Type}

/-- What runs on a command that finds a state and a wire: the calls made, the state left, and
the reader left. -/
inductive Effect (blueprint : Blueprint σ) (state : σ) (wire : Wire) (command : Line) :
    List (Call σ) → σ → LineReader → Prop
  | nothing (h : Action.Ignores blueprint command) :
    Effect blueprint state wire command [] state wire.reader
  /-- A reset without a handler puts the blank state in place. -/
  | blank (parameters : String) (htext : command.text? = some parameters)
      (hverb : command.verb = "RESET") (hfind : blueprint.commands.find? "RESET" = none) :
    Effect blueprint state wire command [] blueprint.blank wire.reader
  | option (parameters key value : String) (setter : OptionSetter σ)
      (htext : command.text? = some parameters) (hverb : command.verb = "OPTION")
      (hsplit : Assignment.split parameters = some (key, value))
      (hsetter : blueprint.setter = some setter) :
    Effect blueprint state wire command
      [.option key value (setter state key value).1 (setter state key value).2]
      (setter state key value).1 wire.reader
  /-- A handler is given the state and the parameters, or none for a reset. -/
  | handler (parameters given : String) (performed : Command σ) (final : σ) (outcome : Outcome)
      (after : Wire) (htext : command.text? = some parameters)
      (hverb : command.verb ∉ ["NOP", "BYE", "HELP", "OPTION"])
      (hfind : blueprint.commands.find? command.verb = some performed)
      (hgiven : given = if command.verb = "RESET" then "" else parameters)
      (hrun : (performed.handler state given).run wire = (.finished (final, outcome), after)) :
    Effect blueprint state wire command [.command performed.verb given final outcome] final
      after.reader

/-- The next line is a command, and it makes the episode and leaves a wire. -/
structure Takes (blueprint : Blueprint σ) (state : σ) (wire : Wire) (episode : Episode σ)
    (later : Wire) : Prop where
  reads : ∃ reader, wire.reader.readLine = (.value episode.command, reader) ∧
    Effect blueprint state ⟨reader, wire.outlet⟩ episode.command episode.calls episode.state
      later.reader
  writes : later.outlet.octets = wire.outlet.octets ++ episode.lines.flatMap Line.octets
  lead : ∀ line ∈ episode.lead, line.IsLead
  closing : ∀ line, episode.closing = .ok line → line.IsClosing
  /-- A goodbye is acknowledged and nothing else. -/
  farewell : episode.isFarewell = true → episode.lead = [] ∧ episode.closing = .ok ⟨"OK", []⟩

theorem Takes.result_of_farewell {blueprint : Blueprint σ} {state : σ} {wire later : Wire}
    {episode : Episode σ} (h : Takes blueprint state wire episode later)
    (hbye : episode.isFarewell = true) : episode.result? = some (.ok ()) := by
  rw [Episode.result?, (h.farewell hbye).2]
  exact if_pos hbye

/-- The episodes of a conversation from a state and a wire to its result and the wire it leaves. -/
inductive Chronicle (blueprint : Blueprint σ) :
    σ → Wire → List (Episode σ) → Except Failure Unit → Wire → Prop
  /-- The next command cannot be read. -/
  | fails {state : σ} {wire : Wire} {cause : Failure} {reader : LineReader}
      (h : wire.reader.readLine = (.error cause, reader)) :
    Chronicle blueprint state wire [] (.error cause) { wire with reader := reader }
  | ends {state : σ} {wire later : Wire} {episode : Episode σ} {result : Except Failure Unit}
      (h : Takes blueprint state wire episode later) (hresult : episode.result? = some result) :
    Chronicle blueprint state wire [episode] result later
  | goesOn {state : σ} {wire later final : Wire} {episode : Episode σ}
      {episodes : List (Episode σ)} {result : Except Failure Unit}
      (h : Takes blueprint state wire episode later) (hresult : episode.result? = none)
      (hlater : Chronicle blueprint episode.state later episodes result final) :
    Chronicle blueprint state wire (episode :: episodes) result final

namespace Chronicle

variable {blueprint : Blueprint σ} {state : σ} {wire final : Wire} {episodes : List (Episode σ)}
  {result : Except Failure Unit}

/-- What a conversation writes is what its episodes write, in order. -/
theorem writes (h : Chronicle blueprint state wire episodes result final) :
    final.outlet.octets =
      wire.outlet.octets ++ (episodes.flatMap Episode.lines).flatMap Line.octets := by
  induction h with
  | fails h => exact (List.append_nil _).symm
  | ends h hresult =>
    rw [List.flatMap_singleton]
    exact h.writes
  | goesOn h hresult hlater ih =>
    rw [ih, h.writes, List.flatMap_cons, List.flatMap_append, List.append_assoc]

/-- Only the last episode ends the conversation, and it ends well with a goodbye. -/
theorem result_of_append {earlier : List (Episode σ)} {last : Episode σ}
    (h : Chronicle blueprint state wire (earlier ++ [last]) result final) :
    (∀ episode ∈ earlier, episode.result? = none) ∧
      (∀ ending, last.result? = some ending → result = ending) ∧
        (last.isFarewell = true → result = .ok ()) := by
  generalize hepisodes : earlier ++ [last] = episodes at h
  induction h generalizing earlier with
  | fails h => exact absurd hepisodes (by simp)
  | ends h hresult =>
    obtain ⟨rfl, rfl⟩ : earlier = [] ∧ last = _ := by
      simpa using List.append_eq_cons_iff.1 hepisodes
    refine ⟨List.forall_mem_nil _, fun ending hending ↦ ?_, fun hbye ↦ ?_⟩
    · exact Option.some.inj (hresult.symm.trans hending)
    · exact Option.some.inj (hresult.symm.trans (h.result_of_farewell hbye))
  | @goesOn state wire later final episode episodes result h hresult hlater ih =>
    cases earlier with
    | nil =>
      obtain ⟨rfl, rfl⟩ := List.cons.inj hepisodes
      refine ⟨List.forall_mem_nil _, fun ending hending ↦ ?_, fun hbye ↦ ?_⟩
      · exact absurd (hresult.symm.trans hending) (by simp)
      · exact absurd (hresult.symm.trans (h.result_of_farewell hbye)) (by simp)
    | cons first earlier =>
      obtain ⟨rfl, hrest⟩ := List.cons.inj hepisodes
      obtain ⟨hearlier, hlast⟩ := ih hrest
      exact ⟨List.forall_mem_cons.2 ⟨hresult, hearlier⟩, hlast⟩

end Chronicle

/-! ### Commands -/

/-- What runs on a command is the program of its action. -/
theorem effect_of_action {blueprint : Blueprint σ} {state final : σ} {wire after : Wire}
    {command : Line} {outcome : Outcome}
    (h : ((Action.ofCommand blueprint command).program state).run wire =
      (.finished (final, outcome), after)) :
    Effect blueprint state wire command
      ((Action.ofCommand blueprint command).calls final outcome) final after.reader := by
  have hsuits := Action.suits_ofCommand blueprint command
  generalize Action.ofCommand blueprint command = action at h hsuits
  cases hsuits with
  | idle hidle hignores =>
    obtain ⟨found, outlet, hrun⟩ := Action.run_of_isIdle hidle state wire
    cases h.symm.trans hrun
    rw [Action.calls_of_isIdle hidle]
    exact .nothing hignores
  | leave parameters htext hverb =>
    cases h
    exact .nothing (.inr ⟨parameters, htext, .inl (by simp [hverb])⟩)
  | restore parameters htext hverb hfind =>
    cases h
    exact .blank parameters htext hverb hfind
  | assign parameters key value setter htext hverb hsplit hsetter =>
    obtain ⟨hset, rfl⟩ := Prod.mk.inj h
    obtain ⟨rfl, rfl⟩ := Prod.mk.inj (Program.Run.finished.inj hset)
    exact .option parameters key value setter htext hverb hsplit hsetter
  | perform parameters given performed htext hverb hfind hgiven =>
    exact .handler parameters given performed final outcome after htext hverb hfind hgiven h

namespace Conversation

variable (blueprint : Blueprint σ) (conversation : Conversation σ)

/-- A command is closed with a line, or the conversation ends because it cannot be. -/
theorem close_obliging (outcome : Outcome) (h : conversation.wire.outlet.Obliging) :
    ∃ outlet, conversation.wire.outlet.Delivered (Line.sent outcome.closing) outlet ∧
      conversation.close outcome =
        { conversation with
          wire := { conversation.wire with outlet := outlet }
          phase := match outcome.closing with
            | .ok _ => .ready
            | .error cause => .ended (.error cause) } := by
  cases outcome with
  | ok done =>
    obtain ⟨outlet, hsend, hsent⟩ := Outlet.sendLine_obliging "OK" [] h
    refine ⟨outlet, hsent, ?_⟩
    rw [close, acknowledge, afterWrite, hsend]
    cases hclosing : Line.compose "OK" [] <;> simp only [Outcome.closing, hclosing, Except.map]
  | error rejection =>
    cases rejection with
    | fatal cause => exact ⟨conversation.wire.outlet, h.delivered, rfl⟩
    | report fault =>
      obtain ⟨outlet, hsend, hsent⟩ := Outlet.sendFault_obliging fault h
      refine ⟨outlet, hsent, ?_⟩
      rw [close, reject, afterWrite, hsend]
      cases hclosing : fault.composed <;> simp only [Outcome.closing, hclosing, Except.map]

/-- A conversation in front of a command, the episode that the command makes, and the conversation
afterwards. -/
structure Makes (blueprint : Blueprint σ) (conversation : Conversation σ) (episode : Episode σ)
    (after : Conversation σ) : Prop where
  effect : Effect blueprint conversation.state conversation.wire episode.command episode.calls
    episode.state after.wire.reader
  delivered : conversation.wire.outlet.Delivered episode.lines after.wire.outlet
  lead : ∀ line ∈ episode.lead, line.IsLead
  closing : ∀ line, episode.closing = .ok line → line.IsClosing
  farewell : episode.isFarewell = true → episode.lead = [] ∧ episode.closing = .ok ⟨"OK", []⟩
  ended : after.wire.reader.inlet.ended = true
  state : after.state = episode.state
  calls : after.calls = conversation.calls ++ episode.calls
  phase : after.phase = match episode.result? with
    | none => .ready
    | some result => .ended result

/-- Every command that is taken makes an episode. -/
theorem dispatch_obliging (command : Line) (hended : conversation.wire.reader.inlet.ended = true)
    (hobliging : conversation.wire.outlet.Obliging) :
    ∃ episode : Episode σ, episode.command = command ∧
      Makes blueprint conversation episode (conversation.dispatch blueprint command) := by
  obtain ⟨⟨final, outcome⟩, lead, wire, hcompletes⟩ :=
    ((Action.ofCommand blueprint command).program conversation.state).run_obliging
      conversation.wire hended hobliging
  have heffect := effect_of_action hcompletes.run
  by_cases hleave : Action.ofCommand blueprint command = .leave
  case pos =>
    have hfarewell : (command.verb == "BYE" && command.text?.isSome) = true := by
      simpa using Action.ofCommand_eq_leave_iff.1 hleave
    rw [hleave] at hcompletes heffect
    cases hcompletes.run
    obtain ⟨outlet, hsend, hsent⟩ := Outlet.sendLine_obliging "OK" [] hobliging
    have hclosing : Line.compose "OK" [] = .ok ⟨"OK", []⟩ := rfl
    have hleft : conversation.leave = { conversation with
        wire := { conversation.wire with outlet := outlet }, phase := .ended (.ok ()) } := by
      rw [leave, hsend]
    refine ⟨⟨command, [], .ok ⟨"OK", []⟩, [], conversation.state⟩, rfl, ?_⟩
    rw [dispatch_of_leave hleave, hleft]
    refine ⟨heffect, hsent, List.forall_mem_nil _, ?_, fun _ ↦ ⟨rfl, rfl⟩, hended, rfl,
      (List.append_nil _).symm, ?_⟩
    · rintro line hline
      rw [← Except.ok.inj hline]
      exact Line.isClosing_of_compose_ok hclosing
    · simp only [Episode.result?, Episode.isFarewell, hfarewell, if_true]
  case neg =>
    have hfarewell : (command.verb == "BYE" && command.text?.isSome) = false := by
      simpa using fun hbye ↦ mt Action.ofCommand_eq_leave_iff.2 hleave hbye
    refine ⟨⟨command, lead, outcome.closing,
      (Action.ofCommand blueprint command).calls final outcome, final⟩, rfl, ?_⟩
    rw [dispatch_of_finished conversation hleave hcompletes.run]
    generalize (Action.ofCommand blueprint command).calls final outcome = calls at heffect
    obtain ⟨outlet, hsent, hclosed⟩ := close_obliging
      ⟨wire, final, conversation.phase, conversation.calls ++ calls⟩ outcome
      hcompletes.delivered.obliging
    rw [hclosed]
    refine ⟨heffect, hcompletes.delivered.trans hsent, hcompletes.lead,
      fun line ↦ Outcome.isClosing_of_closing, ?_, hcompletes.ended, rfl, rfl, ?_⟩
    · intro hbye
      exact absurd (hfarewell.symm.trans hbye) (by decide)
    · simp only [Episode.result?, Episode.isFarewell, hfarewell]
      cases outcome.closing <;> rfl

/-! ### Whole conversations -/

/-- A conversation takes commands until it ends. -/
theorem takeCommands_obliging
    (hended : conversation.wire.reader.inlet.ended = true)
    (hobliging : conversation.wire.outlet.Obliging) (hready : conversation.phase = .ready) :
    ∃ episodes result,
      Chronicle blueprint conversation.state conversation.wire episodes result
        (conversation.takeCommands blueprint).wire ∧
      (conversation.takeCommands blueprint).phase = .ended result ∧
      (conversation.takeCommands blueprint).calls =
        conversation.calls ++ episodes.flatMap Episode.calls := by
  fun_induction takeCommands blueprint conversation with
  | case1 conversation hphase line reader hread ih =>
    have hrest : reader.inlet.ended = true := by
      have hkept := (LineReader.readLine_of_ended hended).2
      rwa [hread] at hkept
    obtain ⟨episode, rfl, hmakes⟩ := dispatch_obliging blueprint
      { conversation with wire := { conversation.wire with reader := reader } } line hrest hobliging
    generalize dispatch blueprint
      { conversation with wire := { conversation.wire with reader := reader } } episode.command =
        after at hmakes ih ⊢
    have htakes : Takes blueprint conversation.state conversation.wire episode after.wire :=
      ⟨⟨reader, hread, hmakes.effect⟩, hmakes.delivered.octets, hmakes.lead, hmakes.closing,
        hmakes.farewell⟩
    have hphase := hmakes.phase
    cases hresult : episode.result? with
    | some result =>
      rw [hresult] at hphase
      have hover : after.takeCommands blueprint = after :=
        takeCommands_of_waits blueprint (.inl (isOver_of_ended hphase))
      rw [hover]
      refine ⟨[episode], result, .ends htakes hresult, hphase, ?_⟩
      rw [List.flatMap_singleton]
      exact hmakes.calls
    | none =>
      rw [hresult] at hphase
      obtain ⟨episodes, result, hchronicle, hended', hcalls⟩ :=
        ih hmakes.ended hmakes.delivered.obliging hphase
      rw [hmakes.state] at hchronicle
      refine ⟨episode :: episodes, result, .goesOn htakes hresult hchronicle, hended', ?_⟩
      rw [hcalls, hmakes.calls, List.flatMap_cons, List.append_assoc]
  | case2 conversation hphase cause reader hread =>
    exact ⟨[], .error cause, .fails hread, rfl, (List.append_nil _).symm⟩
  | case3 conversation hphase reader hread =>
    have hkept := (LineReader.readLine_of_ended hended).1
    rw [hread] at hkept
    exact absurd rfl hkept
  | case4 conversation hphase => exact absurd hready hphase

/-- A whole conversation on a stream that ends and whose writes succeed. It writes its greeting, if
that fits a line, and then the lines of its episodes in the order of the commands: for each command
the lines that lead up to the closing one and the closing one, an `OK` or an `ERR`. The handlers and
setters that run are those of the episodes. Only the last episode can lack the closing line or be a
goodbye, and it gives the result: the failure to close, or a good end. -/
theorem serve_chronicle (blueprint : Blueprint σ) (inlet : Inlet) (outlet : Outlet)
    (hended : inlet.ended = true) (hobliging : outlet.Obliging) :
    let final := serve blueprint (.ofHalves inlet outlet)
    (∀ cause, Line.encode "OK" (Utf8.encode blueprint.greeting) = .error cause →
      final.phase = .ended (.error cause) ∧ final.calls = [] ∧
        final.wire.outlet.octets = outlet.octets) ∧
    ∀ greeting, Line.encode "OK" (Utf8.encode blueprint.greeting) = .ok greeting →
      ∃ opened episodes result,
        outlet.octets ++ greeting = opened.octets ∧
        Chronicle blueprint blueprint.start ⟨.ofInlet inlet, opened⟩ episodes result final.wire ∧
        final.phase = .ended result ∧ final.calls = episodes.flatMap Episode.calls ∧
        final.wire.outlet.octets = outlet.octets ++ greeting ++
          (episodes.flatMap Episode.lines).flatMap Line.octets ∧
        ∀ earlier last, episodes = earlier ++ [last] →
          (∀ episode ∈ earlier, episode.result? = none) ∧
            (∀ ending, last.result? = some ending → result = ending) ∧
              (last.isFarewell = true → result = .ok ()) := by
  intro final
  obtain ⟨opened, hsend, hsent⟩ :=
    Outlet.sendLine_obliging "OK" (Utf8.encode blueprint.greeting) hobliging
  have hserve : final = (Conversation.afterWrite
      ⟨.ofHalves inlet outlet, blueprint.start, .ready, []⟩
      ((Line.compose "OK" (Utf8.encode blueprint.greeting)).map fun _ ↦ (), opened)).advance
        blueprint := by
    rw [← hsend]
    rfl
  refine ⟨fun cause hencode ↦ ?_, fun greeting hencode ↦ ?_⟩
  · have hcomposed : Line.compose "OK" (Utf8.encode blueprint.greeting) = .error cause := by
      rw [Line.compose, hencode]
      rfl
    rw [hcomposed] at hsent hserve
    have hover : advance blueprint
        ⟨⟨.ofInlet inlet, opened⟩, blueprint.start, .ended (.error cause), []⟩ = _ :=
      advance_of_isOver blueprint rfl
    rw [hserve.trans hover]
    exact ⟨rfl, rfl, hsent.octets.trans (List.append_nil _)⟩
  · rw [Line.compose_of_encode hencode] at hsent hserve
    obtain ⟨episodes, result, hchronicle, hresult, hcalls⟩ := takeCommands_obliging blueprint
      ⟨⟨.ofInlet inlet, opened⟩, blueprint.start, .ready, []⟩ hended hsent.obliging rfl
    have hopened : opened.octets = outlet.octets ++ greeting := by
      rw [hsent.octets, Line.sent, List.flatMap_singleton, ← (Line.sendable_of_encode hencode).2]
    have hfinal : final = takeCommands blueprint
        ⟨⟨.ofInlet inlet, opened⟩, blueprint.start, .ready, []⟩ := hserve
    rw [hfinal]
    refine ⟨opened, episodes, result, hopened.symm, hchronicle, hresult, hcalls, ?_, ?_⟩
    · rw [hchronicle.writes, hopened]
    · rintro earlier last rfl
      exact hchronicle.result_of_append

/-- A handler that asks for a key twice, whatever it is told, and then counts itself. -/
def persistent : Blueprint Nat :=
  (Blueprint.plain 0 "ready").withCommand "ask" fun count _ ↦
    .inquire "KEY" fun _ ↦ .inquire "KEY" fun _ ↦ .data [0x61] fun _ ↦ .done (count + 1, .ok ())

/-- The outlet that takes three octets at a time and interrupts two of its calls. -/
def reluctant : Outlet :=
  { Outlet.fresh with cap := some 3, interruptions := [0, 5] }

/-- The client gives no answer to the second inquiry but another command, which is lost, and a last
command after that. -/
theorem serve_chronicle_of_swallowed_command :
    let inlet : Inlet :=
      ⟨[.chunk (Utf8.encode "ASK\nEND\nNOP\nA"), .chunk (Utf8.encode "SK\n")], true⟩
    let final := serve persistent (.ofHalves inlet reluctant)
    inlet.ended = true ∧ reluctant.Obliging ∧
      ∃ opened episodes result,
        reluctant.octets ++ Utf8.encode "OK ready\n" = opened.octets ∧
        Chronicle persistent persistent.start ⟨.ofInlet inlet, opened⟩ episodes result
          final.wire ∧
        final.phase = .ended result ∧ final.calls = episodes.flatMap Episode.calls := by
  intro inlet final
  have hobliging : reluctant.Obliging := ⟨rfl, by decide, rfl⟩
  have hencode : Line.encode "OK" (Utf8.encode persistent.greeting) =
      .ok (Utf8.encode "OK ready\n") := by decide +kernel
  obtain ⟨opened, episodes, result, hopened, hchronicle, hresult, hcalls, -⟩ :=
    (serve_chronicle persistent inlet reluctant rfl hobliging).2 _ hencode
  exact ⟨rfl, hobliging, opened, episodes, result, hopened, hchronicle, hresult, hcalls⟩

end Conversation

end LineProtocol
