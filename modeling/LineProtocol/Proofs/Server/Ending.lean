import LineProtocol.Proofs.Server.Chronicle

/-!
# Why a conversation ends

A conversation takes one command after the other until it ends: `Comes` relates it to every
conversation that it comes to be in front of a further command. What can end it there is said by
`Concludes`: the next line cannot be read, the client says goodbye, or a handler or option setter
has failed for good.

On a stream that takes what is written there is one thing more, `Overruns`: the reply has a line
that is too long. That can be a comment of `HELP`, if a verb or a line of help has no room on one,
or the closing line of a command, if the name of its fault leaves no room for the numbers. The
replies that are the conversation's own always have room, so these are all the endings there are:
`concludes_or_overruns_of_serve`.
-/

set_option autoImplicit false

namespace LineProtocol

variable {σ : Type}

/-- How the handler or option setter ended. -/
def Call.outcome : Call σ → Outcome
  | .command _ _ _ outcome | .option _ _ _ outcome => outcome

/-- Whether the command is a goodbye that can be read. -/
def Line.IsFarewell (command : Line) : Prop :=
  command.verb = "BYE" ∧ command.text?.isSome = true

namespace Conversation

/-! ### From command to command -/

/-- The conversation comes to be the other by taking commands. -/
inductive Comes (blueprint : Blueprint σ) : Conversation σ → Conversation σ → Prop
  | here (conversation : Conversation σ) : Comes blueprint conversation conversation
  | takes {conversation last : Conversation σ} {command : Line} {reader : LineReader}
      (hready : conversation.phase = .ready)
      (hread : conversation.wire.reader.readLine = (.value command, reader))
      (hlater : Comes blueprint
        ({ conversation with wire := { conversation.wire with reader := reader } }.dispatch
          blueprint command) last) : Comes blueprint conversation last

/-- The conversation with another reader. -/
def withReader (conversation : Conversation σ) (reader : LineReader) : Conversation σ :=
  { conversation with wire := { conversation.wire with reader := reader } }

theorem takeCommands_of_reads (blueprint : Blueprint σ) {conversation : Conversation σ}
    {command : Line} {reader : LineReader} (hready : conversation.phase = .ready)
    (hread : conversation.wire.reader.readLine = (.value command, reader)) :
    conversation.takeCommands blueprint =
      ({ conversation with wire := { conversation.wire with reader := reader } }.dispatch
        blueprint command).takeCommands blueprint := by
  obtain ⟨⟨before, outlet⟩, state, phase, calls⟩ := conversation
  obtain rfl : phase = .ready := hready
  rw [takeCommands]
  simp only at hread ⊢
  rw [hread]

theorem takeCommands_of_unread (blueprint : Blueprint σ) {conversation : Conversation σ}
    {cause : Failure} {reader : LineReader} (hready : conversation.phase = .ready)
    (hread : conversation.wire.reader.readLine = (.error cause, reader)) :
    conversation.takeCommands blueprint =
      { conversation with
        wire := { conversation.wire with reader := reader }
        phase := .ended (.error cause) } := by
  obtain ⟨⟨before, outlet⟩, state, phase, calls⟩ := conversation
  obtain rfl : phase = .ready := hready
  rw [takeCommands]
  simp only at hread ⊢
  rw [hread]

theorem takeCommands_of_unfinished (blueprint : Blueprint σ) {conversation : Conversation σ}
    {reader : LineReader} (hready : conversation.phase = .ready)
    (hread : conversation.wire.reader.readLine = (.waiting, reader)) :
    conversation.takeCommands blueprint = conversation.withReader reader := by
  obtain ⟨⟨before, outlet⟩, state, phase, calls⟩ := conversation
  obtain rfl : phase = .ready := hready
  rw [takeCommands]
  simp only at hread ⊢
  rw [hread]
  rfl

theorem takeCommands_of_not_ready (blueprint : Blueprint σ) {conversation : Conversation σ}
    (h : conversation.phase ≠ .ready) :
    conversation.takeCommands blueprint = conversation := by
  rw [takeCommands]
  split
  case h_1 hready => exact absurd hready h
  case h_2 => rfl

/-- A conversation ends as the one does that it comes to be. -/
theorem Comes.takeCommands_eq {blueprint : Blueprint σ} {conversation last : Conversation σ}
    (h : Comes blueprint conversation last) :
    conversation.takeCommands blueprint = last.takeCommands blueprint := by
  induction h with
  | here conversation => rfl
  | takes hready hread hlater ih => rw [takeCommands_of_reads blueprint hready hread, ih]

/-- The conversation has a goodbye before it. -/
def HearsFarewell (conversation : Conversation σ) : Prop :=
  conversation.phase = .ready ∧ ∃ command reader,
    conversation.wire.reader.readLine = (.value command, reader) ∧ command.IsFarewell

/-- The endings of a conversation that was ready, given the calls made by then. -/
inductive Concludes (last : Conversation σ) (calls : List (Call σ)) :
    Except Failure Unit → Prop
  | unread {cause : Failure} {reader : LineReader}
      (hread : last.wire.reader.readLine = (.error cause, reader)) :
    Concludes last calls (.error cause)
  | farewell (h : last.HearsFarewell) : Concludes last calls (.ok ())
  | fatal {call : Call σ} {cause : Failure} (hcalls : calls = last.calls ++ [call])
      (hfatal : call.outcome = .error (.fatal cause)) : Concludes last calls (.error cause)

/-- A text that `HELP` recites. -/
def Recites (blueprint : Blueprint σ) (text : String) : Prop :=
  text ∈ verbs blueprint ∨
    ∃ topic lines, blueprint.help.find? topic = some lines ∧ text ∈ lines

/-- The reply has a line of too great a length: the closing line, even if it had no message, or a
comment. -/
inductive Overruns (blueprint : Blueprint σ) (last : Conversation σ) (calls : List (Call σ))
    (length : Nat) : Prop
  | fault {call : Call σ} {fault : Fault} (hcalls : calls = last.calls ++ [call])
      (hreport : call.outcome = .error (.report fault))
      (hlong : fault.lineWith [] = .error (.lineTooLong length Line.maxLength)) :
    Overruns blueprint last calls length
  | help {command : Line} {reader : LineReader} {text : String}
      (hread : last.wire.reader.readLine = (.value command, reader))
      (hverb : command.verb = "HELP") (hrecites : Recites blueprint text)
      (hlong : Line.encode "#" (Utf8.encode text) = .error (.lineTooLong length Line.maxLength)) :
    Overruns blueprint last calls length

end Conversation

/-! ### Replies that always have room -/

theorem Fault.exists_composed_assuan (code : Fault.Code) (message : String) :
    ∃ line, (Fault.assuan code message).composed = .ok line := by
  have hname : (Fault.assuan code message).name.toList.length ≤ 60 := by
    simp only [Fault.assuan, Fault.make]
    decide
  exact Fault.exists_composed _ hname

/-- Comments are all sent, or the first that has no room stops them. -/
theorem Outlet.sendComments_obliging {outlet : Outlet} (lines : List String)
    (h : outlet.Obliging) :
    (outlet.sendComments lines).1 = .ok () ∨
      ∃ text ∈ lines, ∃ length, (outlet.sendComments lines).1 =
          .error (.lineTooLong length Line.maxLength) ∧
        Line.encode "#" (Utf8.encode text) = .error (.lineTooLong length Line.maxLength) := by
  have hverb : Line.isVerb (Utf8.encode "#") = true := by decide
  induction lines generalizing outlet with
  | nil => exact .inl rfl
  | cons text later ih =>
    obtain ⟨after, hsend, hsent⟩ := sendLine_obliging "#" (Utf8.encode text) h
    have hencode := Line.encode_eq_map_compose "#" (Utf8.encode text)
    rw [sendComments, sendComment, hsend]
    cases hcompose : Line.compose "#" (Utf8.encode text) with
    | ok line =>
      rcases ih hsent.obliging with hall | ⟨found, hfound, length, hresult, hlong⟩
      · exact .inl hall
      · exact .inr ⟨found, List.mem_cons_of_mem _ hfound, length, hresult, hlong⟩
    | error cause =>
      rw [hcompose] at hencode
      obtain ⟨-, rfl⟩ := Line.lineTooLong_of_encode hverb hencode
      exact .inr ⟨text, List.mem_cons_self, _, rfl, hencode⟩

namespace Action

variable {blueprint : Blueprint σ} {command : Line}

/-- What a conversation replies by itself: faults that have a line, and what it recites. -/
def Offers (blueprint : Blueprint σ) (command : Line) : Action σ → Prop
  | .refuse fault => ∃ line, fault.composed = .ok line
  | .inform lines =>
    command.verb = "HELP" ∧ ∀ text ∈ lines, Conversation.Recites blueprint text
  | .acknowledge | .leave | .restore _ | .assign _ _ _ | .perform _ _ => True

theorem offers_ofAssignment (blueprint : Blueprint σ) (command : Line) (parameters : String) :
    (ofAssignment blueprint parameters).Offers blueprint command := by
  unfold ofAssignment
  split
  · exact Fault.exists_composed_assuan _ _
  · split
    · exact Fault.exists_composed_assuan _ _
    · trivial

theorem offers_ofTopic (blueprint : Blueprint σ) {command : Line} (parameters : String)
    (hverb : command.verb = "HELP") : (ofTopic blueprint parameters).Offers blueprint command := by
  unfold ofTopic
  split
  · exact ⟨hverb, fun text hmem ↦ .inl hmem⟩
  · split
    case h_1 lines hfind => exact ⟨hverb, fun text hmem ↦ .inr ⟨_, lines, hfind, hmem⟩⟩
    case h_2 => exact Fault.exists_composed_assuan _ _

theorem offers_ofCommand (blueprint : Blueprint σ) (command : Line) :
    (ofCommand blueprint command).Offers blueprint command := by
  unfold ofCommand
  split
  · exact Fault.exists_composed_assuan _ _
  · unfold ofText
    split_ifs with hnop hbye hreset hoption hhelp
    · trivial
    · trivial
    · split <;> trivial
    · exact offers_ofAssignment blueprint command _
    · exact offers_ofTopic blueprint _ hhelp
    · split
      · trivial
      · exact Fault.exists_composed_assuan _ _

/-- Where the outcome of a command comes from. -/
inductive Stems (blueprint : Blueprint σ) (command : Line) (calls : List (Call σ)) :
    Outcome → Prop
  | fine : Stems blueprint command calls (.ok ())
  | refused {fault : Fault} {line : Line} (hline : fault.composed = .ok line) :
    Stems blueprint command calls (.error (.report fault))
  | called (call : Call σ) (hcall : calls = [call]) : Stems blueprint command calls call.outcome
  | recited {text : String} {length : Nat} (hverb : command.verb = "HELP")
      (hrecites : Conversation.Recites blueprint text)
      (hlong : Line.encode "#" (Utf8.encode text) = .error (.lineTooLong length Line.maxLength)) :
    Stems blueprint command calls (.error (.fatal (.lineTooLong length Line.maxLength)))

/-- On a stream that takes what is written a command fails by its handler or option setter, or has
to recite a text that is too long. -/
theorem stems_of_run {state final : σ} {outcome : Outcome} {wire after : Wire}
    (hobliging : wire.outlet.Obliging)
    (h : ((ofCommand blueprint command).program state).run wire =
      (.finished (final, outcome), after)) :
    Stems blueprint command ((ofCommand blueprint command).calls final outcome) outcome := by
  have hoffers := offers_ofCommand blueprint command
  generalize ofCommand blueprint command = action at h hoffers
  cases action with
  | refuse fault =>
    cases h
    obtain ⟨line, hline⟩ := hoffers
    exact .refused hline
  | inform lines =>
    rw [program, run_recital] at h
    cases h
    rcases Outlet.sendComments_obliging lines hobliging with
      hsent | ⟨text, hmem, length, hfailed, hlong⟩
    · rw [hsent]
      exact .fine
    · rw [hfailed]
      exact .recited hoffers.1 (hoffers.2 text hmem) hlong
  | assign key value setter => exact .called (.option key value final outcome) rfl
  | perform performed parameters =>
    exact .called (.command performed.verb parameters final outcome) rfl
  | _ =>
    cases h
    exact .fine

end Action

namespace Conversation

variable (blueprint : Blueprint σ) {last : Conversation σ}

/-- A command that cannot be closed has failed for good, or its reply has a line that is too
long. -/
theorem concludes_or_overruns_of_stems {blueprint : Blueprint σ} {command : Line}
    {reader : LineReader} {calls : List (Call σ)} {outcome : Outcome} {cause : Failure}
    (hread : last.wire.reader.readLine = (.value command, reader))
    (hstems : Action.Stems blueprint command calls outcome)
    (hclosing : outcome.closing = .error cause) :
    Concludes last (last.calls ++ calls) (.error cause) ∨
      ∃ length, cause = .lineTooLong length Line.maxLength ∧
        Overruns blueprint last (last.calls ++ calls) length := by
  cases hstems with
  | fine => exact nomatch hclosing
  | refused hline => exact nomatch hclosing.symm.trans hline
  | recited hverb hrecites hlong =>
    obtain rfl := Except.error.inj hclosing
    exact .inr ⟨_, rfl, .help hread hverb hrecites hlong⟩
  | called call hcall =>
    subst hcall
    cases hcalled : call.outcome with
    | ok done =>
      rw [hcalled] at hclosing
      exact nomatch hclosing
    | error rejection =>
      rw [hcalled] at hclosing
      cases rejection with
      | fatal found =>
        obtain rfl := Except.error.inj hclosing
        exact .inl (.fatal rfl hcalled)
      | report fault =>
        obtain ⟨hlong, length, rfl⟩ := Fault.lineTooLong_of_composed hclosing
        exact .inr ⟨length, rfl, .fault rfl hcalled hlong⟩

/-- A command that is taken leaves the conversation ready, or ends it for a reason. -/
theorem dispatch_concludes {command : Line} {reader : LineReader} (hready : last.phase = .ready)
    (hread : last.wire.reader.readLine = (.value command, reader))
    (hended : reader.inlet.ended = true) (hobliging : last.wire.outlet.Obliging) :
    let after := dispatch blueprint
      { last with wire := { last.wire with reader := reader } } command
    (after.phase = .ready ∧ after.wire.outlet.Obliging ∧ after.wire.reader.inlet.ended = true) ∨
      ∃ result, after.phase = .ended result ∧
        (Concludes last after.calls result ∨
          ∃ length, result = .error (.lineTooLong length Line.maxLength) ∧
            Overruns blueprint last after.calls length) := by
  intro after
  obtain ⟨⟨final, outcome⟩, lead, wire, hcompletes⟩ :=
    ((Action.ofCommand blueprint command).program last.state).run_obliging
      ⟨reader, last.wire.outlet⟩ hended hobliging
  by_cases hleave : Action.ofCommand blueprint command = .leave
  case pos =>
    have hafter : after = leave { last with wire := { last.wire with reader := reader } } :=
      dispatch_of_leave hleave
    rw [hafter]
    exact .inr ⟨.ok (), rfl, .inl (.farewell ⟨hready, command, reader, hread,
      Action.ofCommand_eq_leave_iff.1 hleave⟩)⟩
  case neg =>
    have hkept : (Wire.mk reader last.wire.outlet).outlet.Obliging := hobliging
    have hstems := Action.stems_of_run hkept hcompletes.run
    have hafter : after = _ := dispatch_of_finished
      { last with wire := { last.wire with reader := reader } } hleave hcompletes.run
    obtain ⟨outlet, hsent, hclosed⟩ := close_obliging
      ⟨wire, final, last.phase,
        last.calls ++ (Action.ofCommand blueprint command).calls final outcome⟩
      outcome hcompletes.delivered.obliging
    rw [hafter, hclosed]
    cases hclosing : outcome.closing with
    | ok line => exact .inl ⟨rfl, hsent.obliging, hcompletes.ended⟩
    | error cause =>
      refine .inr ⟨.error cause, rfl, ?_⟩
      rcases concludes_or_overruns_of_stems hread hstems hclosing with h | ⟨length, rfl, h⟩
      · exact .inl h
      · exact .inr ⟨length, rfl, h⟩

/-- A conversation that takes commands comes to one in front of which it ends. -/
theorem takeCommands_concludes (conversation : Conversation σ)
    (hready : conversation.phase = .ready) (hended : conversation.wire.reader.inlet.ended = true)
    (hobliging : conversation.wire.outlet.Obliging) :
    let final := conversation.takeCommands blueprint
    ∃ last result, Comes blueprint conversation last ∧ last.phase = .ready ∧
      final.phase = .ended result ∧
      (Concludes last final.calls result ∨
        ∃ length, result = .error (.lineTooLong length Line.maxLength) ∧
          Overruns blueprint last final.calls length) := by
  fun_induction takeCommands blueprint conversation with
  | case1 conversation hphase command reader hread ih =>
    have hrest : reader.inlet.ended = true := (LineReader.ended_of_readLine hended hread).2
    rcases dispatch_concludes blueprint hphase hread hrest hobliging with
      ⟨hagain, hkept, hlater⟩ | ⟨result, hover, hreason⟩
    · obtain ⟨last, result, hcomes, hlast⟩ := ih hagain hlater hkept
      exact ⟨last, result, .takes hphase hread hcomes, hlast⟩
    · rw [takeCommands_of_waits blueprint (.inl (isOver_of_ended hover))]
      exact ⟨conversation, result, .here conversation, hphase, hover, hreason⟩
  | case2 conversation hphase cause reader hread =>
    exact ⟨conversation, .error cause, .here conversation, hphase, rfl, .inl (.unread hread)⟩
  | case3 conversation hphase reader hread =>
    exact absurd rfl (LineReader.ended_of_readLine hended hread).1
  | case4 conversation hphase => exact absurd hready hphase

/-- A greeting that fits a line is sent. -/
theorem greet_delivers (inlet : Inlet) {outlet : Outlet} {greeting : Bytes}
    (hobliging : outlet.Obliging)
    (hgreeting : Line.encode "OK" (Utf8.encode blueprint.greeting) = .ok greeting) :
    ∃ opened : Outlet, outlet.Delivered [⟨"OK", Utf8.encode blueprint.greeting⟩] opened ∧
      greet blueprint (.ofHalves inlet outlet) =
        ⟨⟨.ofInlet inlet, opened⟩, blueprint.start, .ready, []⟩ := by
  obtain ⟨opened, hsend, hsent⟩ :=
    Outlet.sendLine_obliging "OK" (Utf8.encode blueprint.greeting) hobliging
  rw [Line.compose_of_encode hgreeting] at hsend hsent
  refine ⟨opened, hsent, ?_⟩
  rw [greet, show (Wire.ofHalves inlet outlet).outlet = outlet from rfl, hsend]
  rfl

theorem greet_obliging (inlet : Inlet) {outlet : Outlet} {greeting : Bytes}
    (hobliging : outlet.Obliging)
    (hgreeting : Line.encode "OK" (Utf8.encode blueprint.greeting) = .ok greeting) :
    ∃ opened : Outlet, opened.Obliging ∧ greet blueprint (.ofHalves inlet outlet) =
      ⟨⟨.ofInlet inlet, opened⟩, blueprint.start, .ready, []⟩ := by
  obtain ⟨opened, hsent, hgreet⟩ := greet_delivers blueprint inlet hobliging hgreeting
  exact ⟨opened, hsent.obliging, hgreet⟩

theorem serve_eq (wire : Wire) :
    serve blueprint wire = (greet blueprint wire).takeCommands blueprint := by
  have hgreet : (greet blueprint wire).answerPending = greet blueprint wire := by
    rw [greet, afterWrite]
    cases (wire.outlet.sendLine "OK" (Utf8.encode blueprint.greeting)).1 <;> rfl
  rw [serve, advance, hgreet]

/-- A conversation whose greeting fits a line, on a stream that ends and takes what is written,
comes to an end: it cannot read a line, it was bidden goodbye, a handler or option setter failed
for good, or the reply to its last command has a line that is too long. -/
theorem concludes_or_overruns_of_serve (inlet : Inlet) (outlet : Outlet) {greeting : Bytes}
    (hended : inlet.ended = true) (hobliging : outlet.Obliging)
    (hgreeting : Line.encode "OK" (Utf8.encode blueprint.greeting) = .ok greeting) :
    let final := serve blueprint (.ofHalves inlet outlet)
    ∃ last result, Comes blueprint (greet blueprint (.ofHalves inlet outlet)) last ∧
      last.phase = .ready ∧ final.phase = .ended result ∧
      (Concludes last final.calls result ∨
        ∃ length, result = .error (.lineTooLong length Line.maxLength) ∧
          Overruns blueprint last final.calls length) := by
  intro final
  obtain ⟨opened, hkept, hgreet⟩ := greet_obliging blueprint inlet hobliging hgreeting
  have hfinal : final = _ := serve_eq blueprint _
  rw [hfinal, hgreet]
  exact takeCommands_concludes blueprint _ rfl hended hkept

/-! ### A reply that is too long -/

theorem close_of_unreportable (conversation : Conversation σ) {fault : Fault} {cause : Failure}
    (h : fault.composed = .error cause) :
    conversation.close (.error (.report fault)) =
      { conversation with phase := .ended (.error cause) } := by
  rw [close, reject, Outlet.sendFault, Fault.line_eq, h]
  rfl

/-- The fault whose name is as long as a line. -/
def boast : Fault :=
  ⟨.assuan, .general, String.ofList (List.replicate 1000 'n'), ""⟩

/-- A handler that does nothing but report it. -/
def boastful : Blueprint Unit :=
  (Blueprint.plain () "hi").withCommand "x" fun _ _ ↦ .done ((), .error (.report boast))

/-- What its client sends: the command and a goodbye. -/
def courteous : Inlet :=
  ⟨[.chunk (Utf8.encode "X\nBYE\n")], true⟩

/-- The goodbye of the client is not what ends the conversation, because the reply to the command
before it is too long. -/
theorem concludes_or_overruns_of_boast :
    let final := serve boastful (.ofHalves courteous .fresh)
    courteous.ended = true ∧ Outlet.fresh.Obliging ∧
      Line.encode "OK" (Utf8.encode boastful.greeting) = .ok (Utf8.encode "OK hi\n") ∧
      ∃ last result, Comes boastful (greet boastful (.ofHalves courteous .fresh)) last ∧
        last.phase = .ready ∧ final.phase = .ended result ∧
        (Concludes last final.calls result ∨
          ∃ length, result = .error (.lineTooLong length Line.maxLength) ∧
            Overruns boastful last final.calls length) := by
  have hobliging : Outlet.fresh.Obliging := ⟨rfl, by decide, rfl⟩
  have hgreeting : Line.encode "OK" (Utf8.encode boastful.greeting) =
      .ok (Utf8.encode "OK hi\n") := by decide +kernel
  exact ⟨rfl, hobliging, hgreeting,
    concludes_or_overruns_of_serve boastful courteous .fresh rfl hobliging hgreeting⟩

/-- The conversation ends with the command, but no line was unreadable, no goodbye was taken, and
the handler did not fail for good. -/
theorem not_concludes_of_boast :
    let final := serve boastful (.ofHalves courteous .fresh)
    courteous.ended = true ∧ Outlet.fresh.Obliging ∧
      Line.encode "OK" (Utf8.encode boastful.greeting) = .ok (Utf8.encode "OK hi\n") ∧
      (∃ length, final.phase = .ended (.error (.lineTooLong length Line.maxLength))) ∧
      ¬∃ last result, Comes boastful (greet boastful (.ofHalves courteous .fresh)) last ∧
        last.phase = .ready ∧ final.phase = .ended result ∧
        Concludes last final.calls result := by
  intro final
  have hobliging : Outlet.fresh.Obliging := ⟨rfl, by decide, rfl⟩
  have hgreeting : Line.encode "OK" (Utf8.encode boastful.greeting) =
      .ok (Utf8.encode "OK hi\n") := by decide +kernel
  obtain ⟨opened, -, hgreet⟩ := greet_obliging boastful courteous hobliging hgreeting
  obtain ⟨length, hlong⟩ : ∃ length,
      boast.composed = .error (.lineTooLong length Line.maxLength) := by
    refine Fault.exists_lineTooLong boast ?_
    rw [show boast.name.toList = List.replicate 1000 'n' from String.toList_ofList]
    exact Nat.le_of_eq List.length_replicate.symm
  have hread : (LineReader.ofInlet courteous).readLine =
      (.value ⟨"X", []⟩, (LineReader.ofInlet courteous).readLine.2) :=
    Prod.ext (by decide +kernel) rfl
  generalize (LineReader.ofInlet courteous).readLine.2 = reader at hread
  -- the conversation after the command
  have hdispatch : dispatch boastful
      { (⟨⟨.ofInlet courteous, opened⟩, (), .ready, []⟩ : Conversation Unit) with
        wire := ⟨reader, opened⟩ } ⟨"X", []⟩ =
      ⟨⟨reader, opened⟩, (), .ended (.error (.lineTooLong length Line.maxLength)),
        [.command "x" "" () (.error (.report boast))]⟩ := by
    have haction : Action.ofCommand boastful ⟨"X", []⟩ =
      .perform ⟨"x", fun _ _ ↦ .done ((), .error (.report boast))⟩ "" := rfl
    have hrun : ((Action.ofCommand boastful ⟨"X", []⟩).program ()).run ⟨reader, opened⟩ =
        (.finished ((), .error (.report boast)), ⟨reader, opened⟩) := by
      rw [haction]
      rfl
    rw [dispatch_of_finished ⟨⟨reader, opened⟩, (), .ready, []⟩ (by rw [haction]; exact nofun) hrun,
      close_of_unreportable _ hlong, haction]
    rfl
  have hfinal : final = ⟨⟨reader, opened⟩, (),
      .ended (.error (.lineTooLong length Line.maxLength)),
      [.command "x" "" () (.error (.report boast))]⟩ := by
    rw [show final = _ from serve_eq boastful _, hgreet,
      takeCommands_of_reads boastful rfl hread]
    exact (congrArg _ hdispatch).trans (takeCommands_of_waits boastful (.inl rfl))
  refine ⟨rfl, hobliging, hgreeting, ⟨length, by rw [hfinal]⟩, ?_⟩
  rintro ⟨last, result, hcomes, hready, hresult, hconcludes⟩
  rw [hfinal] at hresult hconcludes
  rw [hgreet] at hcomes
  obtain rfl := Phase.ended.inj hresult
  cases hcomes with
  | here =>
    cases hconcludes with
    | unread hunread => exact nomatch hread.symm.trans hunread
    | fatal hcalls hfatal =>
      obtain rfl := List.cons.inj hcalls |>.1
      exact nomatch hfatal
  | takes _ hread' hlater =>
    obtain ⟨hcommand, rfl⟩ := Prod.mk.inj (hread'.symm.trans hread)
    obtain rfl := Reading.value.inj hcommand
    rw [show dispatch _ _ _ = _ from hdispatch] at hlater
    cases hlater with
    | here => exact nomatch hready
    | takes hagain => exact nomatch hagain

end Conversation

end LineProtocol
