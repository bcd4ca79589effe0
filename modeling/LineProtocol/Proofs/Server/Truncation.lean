import LineProtocol.Proofs.Line.Refusal
import LineProtocol.Proofs.Server.Ending

/-!
# A stream that fails only cuts the output short

Two conversations have the same client, but one of them has an outlet that fails at some point: a
write is refused or takes nothing, or a flush goes wrong. Until then the two outlets go abreast
(`Outlet.Abreast`), and nothing that is done on them can tell one from the other. What the failing
one has taken once it fails is cut off from what the other goes on to take (`Outlet.Cut`).

Each level has the same two cases: a sending (`Outlet.Paired`), the run of a handler program
(`Program.Beside`) and a conversation (`Conversation.Beside`). A handler that passes a failure of
the stream on (`Program.PassesOn`) makes it the end of the conversation, and nothing is written
after it. Only the answer to a goodbye is a case of its own, because the conversation does not look
whether it could be sent. `serve_truncates` puts the levels together.
-/

set_option autoImplicit false

namespace LineProtocol

variable {σ : Type}

namespace Outlet

/-! ### Outlets side by side -/

theorem obliging_iff {outlet : Outlet} :
    outlet.Obliging ↔ outlet.limit = none ∧ outlet.flushFailure = none := by
  constructor
  · rintro ⟨hroom, hcap, hflushes⟩
    exact ⟨by rw [limit, if_neg hcap, hroom], hflushes⟩
  · rintro ⟨hlimit, hflushes⟩
    rw [limit] at hlimit
    split at hlimit
    case isTrue => exact absurd hlimit (Option.some_ne_none 0)
    case isFalse hcap => exact ⟨hlimit, hcap, hflushes⟩

/-- An outlet that has not failed since its start, and an obliging one that has taken the same. -/
structure Abreast (start failing sound : Outlet) : Prop where
  took : ∃ taken, start.Took taken failing
  flush : failing.flushCause? = start.flushCause?
  obliging : sound.Obliging
  octets : failing.octets = sound.octets

/-- The outlet has failed between its start and its end, and how: it was given more octets than it
had room for, or the flush that was to fail has been made. -/
inductive Fails (start final : Outlet) (given : Bytes) : IoError → Prop
  | write (htook : ∃ taken, start.Took taken final) (hlimit : final.limit = some 0)
      (hflush : final.flushCause? = start.flushCause?)
      (hshort : final.octets ≠ given) : Fails start final given start.breach
  | flush {cause : IoError} (hpending : start.flushCause? = some cause)
      (hspent : final.flushCause? = none) : Fails start final given cause

/-- The outlet has failed, and what it took is a beginning of what it was given. -/
structure Cut (start final : Outlet) (given : Bytes) (cause : IoError) : Prop where
  part : final.octets <+: given
  fails : start.Fails final given cause

variable {start failing sound final : Outlet}

theorem Abreast.not_fails {cause : IoError} (h : start.Abreast failing sound) :
    ¬start.Fails failing sound.octets cause := by
  intro hfails
  cases hfails with
  | write htook hlimit hflush hshort => exact hshort h.octets
  | flush hpending hspent => exact nomatch hspent.symm.trans (h.flush.trans hpending)

theorem Fails.eq_of_fails {given : Bytes} {cause cause' : IoError}
    (h : start.Fails final given cause) (h' : start.Fails final given cause') : cause = cause' := by
  cases h with
  | write htook hlimit hflush hshort =>
    cases h' with
    | write => rfl
    | flush hpending hspent => exact nomatch hspent.symm.trans (hflush.trans hpending)
  | flush hpending hspent =>
    cases h' with
    | write htook hlimit hflush hshort => exact nomatch hspent.symm.trans (hflush.trans hpending)
    | flush hpending' hspent' => exact Option.some.inj (hpending.symm.trans hpending')

/-- Whatever else would have been written, the cut is the same. -/
theorem Cut.mono {given more : Bytes} {cause : IoError} (h : start.Cut final given cause)
    (hmore : given <+: more) : start.Cut final more cause := by
  refine ⟨h.part.trans hmore, ?_⟩
  cases h.fails with
  | write htook hlimit hflush hshort =>
    refine .write htook hlimit hflush fun heq ↦ hshort ?_
    exact h.part.eq_of_length_le (by rw [heq]; exact hmore.length_le)
  | flush hpending hspent => exact .flush hpending hspent

/-- An outlet that is written on has taken at most its limit. -/
theorem Abreast.octets_eq_take {room : Nat} (h : start.Abreast failing sound)
    (hlimit : start.limit = some room) :
    failing.octets = sound.octets.take (start.octets.length + room) := by
  obtain ⟨taken, htook⟩ := h.took
  have hwithin := htook.within room hlimit
  rw [← h.octets, List.take_of_length_le]
  rw [htook.octets, List.length_append]
  omega

/-- An outlet that a write has failed on has taken just its limit. -/
theorem Cut.octets_eq_take {given : Bytes} {cause : IoError} {room : Nat}
    (h : start.Cut final given cause) (hlimit : start.limit = some room)
    (hflush : start.flushFailure = none) :
    final.octets = given.take (start.octets.length + room) := by
  cases h.fails with
  | flush hpending hspent => simp [flushCause?, hflush] at hpending
  | write htook hspent _ _ =>
    obtain ⟨taken, htook⟩ := htook
    have hwithin := htook.within room hlimit
    have hleft : some (room - taken.length) = some 0 := by
      rw [← hspent, htook.limit, hlimit]
      rfl
    have hlength : final.octets.length = start.octets.length + room := by
      have hroom := Option.some.inj hleft
      rw [htook.octets, List.length_append]
      omega
    rw [← hlength]
    exact List.prefix_iff_eq_take.1 h.part

/-! ### Sending -/

/-- What the same sending comes to on two outlets that go abreast. -/
inductive Paired (start failing : Outlet) :
    Except Failure Unit × Outlet → Except Failure Unit × Outlet → Prop
  | alike {result : Except Failure Unit} {failing' sound' : Outlet}
      (h : start.Abreast failing' sound') : Paired start failing (result, failing') (result, sound')
  | cut {cause : IoError} {failing' sound' : Outlet}
      (h : start.Cut failing' sound'.octets cause) (hobliging : sound'.Obliging)
      (hgrows : failing.octets <+: failing'.octets) :
    Paired start failing (.error (.io cause), failing') (.ok (), sound')

theorem sendEach_paired (pieces : List Bytes) (h : start.Abreast failing sound) :
    start.Paired failing (failing.sendEach pieces) (sound.sendEach pieces) := by
  obtain ⟨hunlimited, hflushes⟩ := obliging_iff.1 h.obliging
  have hsound := sendEach_sends sound pieces
  obtain ⟨hwhole, hlimit, hflushed, -⟩ := hsound.of_unlimited hunlimited
  have hresult := hsound.eq_ok hunlimited hflushes
  obtain ⟨earlier, htook⟩ := h.took
  have hsends := sendEach_sends failing pieces
  generalize failing.sendEach pieces = sent at hsends ⊢
  generalize sound.sendEach pieces = sent' at hwhole hlimit hflushed hresult ⊢
  obtain ⟨result, failing'⟩ := sent
  obtain ⟨result', sound'⟩ := sent'
  simp only at hsends hwhole hlimit hflushed hresult
  have hnever : sound.flushCause? = none := flushCause?_eq_none_iff.2 hflushes
  have hobliging : sound'.Obliging :=
    obliging_iff.2 ⟨hlimit, flushCause?_eq_none_iff.1 (hflushed.elim (·.trans hnever) id)⟩
  obtain rfl : result' = .ok () := hresult
  have hgrows : ∀ taken : Bytes, failing.Took taken failing' → failing.octets <+: failing'.octets :=
    fun taken hlater ↦ by rw [hlater.octets]; exact List.prefix_append _ _
  cases hsends with
  | whole hlater hkept =>
    refine .alike ⟨⟨_, htook.trans hlater⟩, hkept.trans h.flush, hobliging, ?_⟩
    rw [hlater.octets, hwhole, h.octets]
  | @refused taken _ hlater hkept hpart hshort hspent =>
    rw [htook.breach]
    have hbegins : failing'.octets <+: sound'.octets := by
      rw [hlater.octets, hwhole, h.octets]
      exact (List.prefix_append_right_inj _).2 hpart
    refine .cut ⟨hbegins, .write ⟨_, htook.trans hlater⟩ hspent (hkept.trans h.flush) ?_⟩
      hobliging (hgrows _ hlater)
    rw [hlater.octets, hwhole, h.octets]
    exact fun heq ↦ hshort (List.append_cancel_left heq)
  | unflushed hlater hpending hspent =>
    have hsame : failing'.octets = sound'.octets := by rw [hlater.octets, hwhole, h.octets]
    exact .cut ⟨hsame ▸ List.prefix_rfl, .flush (h.flush.symm.trans hpending) hspent⟩ hobliging
      (hgrows _ hlater)

theorem sendEncoded_paired (encoded : Except Failure Bytes) (h : start.Abreast failing sound) :
    start.Paired failing (failing.sendEncoded encoded) (sound.sendEncoded encoded) := by
  cases encoded with
  | ok line => exact sendEach_paired [line] h
  | error cause => exact .alike h

theorem sendLine_paired (verb : String) (parameters : Bytes) (h : start.Abreast failing sound) :
    start.Paired failing (failing.sendLine verb parameters) (sound.sendLine verb parameters) :=
  sendEncoded_paired _ h

theorem sendData_paired (payload : Bytes) (h : start.Abreast failing sound) :
    start.Paired failing (failing.sendData payload) (sound.sendData payload) := by
  unfold sendData
  split
  · exact .alike h
  · exact sendEach_paired _ h

end Outlet

/-! ### Handler programs -/

namespace Program

/-- The program stops at a failure of the stream and gives it as its outcome, whatever it does with
other failures. -/
def PassesOn : Program (σ × Outcome) → Prop
  | .done _ => True
  | .data _ next | .comment _ next | .status _ _ next =>
    (∀ cause, ∃ state, next (.error (.io cause)) = .done (state, .error (.fatal (.io cause)))) ∧
      ∀ outcome, (next outcome).PassesOn
  | .inquire _ next =>
    (∀ cause, ∃ state,
      next (.error (.fatal (.io cause))) = .done (state, .error (.fatal (.io cause)))) ∧
      ∀ outcome, (next outcome).PassesOn

/-- The runs of a program on two outlets that go abreast: they end alike, or the one is cut off. -/
inductive Beside (start : Outlet) :
    Run (σ × Outcome) × Wire → Run (σ × Outcome) × Wire → Prop
  | alike {result : σ × Outcome} {reader : LineReader} {failing sound : Outlet}
      (h : start.Abreast failing sound) :
    Beside start (.finished result, ⟨reader, failing⟩) (.finished result, ⟨reader, sound⟩)
  | cut {state : σ} {result : σ × Outcome} {cause : IoError} {reader : LineReader}
      {failing : Outlet} {wire : Wire} (h : start.Cut failing wire.outlet.octets cause)
      (hobliging : wire.outlet.Obliging) :
    Beside start (.finished (state, .error (.fatal (.io cause))), ⟨reader, failing⟩)
      (.finished result, wire)

variable {start failing sound : Outlet} {reader : LineReader}

/-- The sound run goes on after the other was cut off. -/
theorem Beside.of_cut {cause : IoError} (state : σ) (later : Program (σ × Outcome)) (wire : Wire)
    (h : start.Cut failing wire.outlet.octets cause)
    (hended : wire.reader.inlet.ended = true) (hobliging : wire.outlet.Obliging) :
    Beside start (.finished (state, .error (.fatal (.io cause))), ⟨reader, failing⟩)
      (later.run wire) := by
  obtain ⟨result, lead, after, hcompletes⟩ := later.run_obliging wire hended hobliging
  rw [hcompletes.run]
  refine .cut (h.mono ?_) hcompletes.delivered.obliging
  rw [hcompletes.delivered.octets]
  exact List.prefix_append _ _

theorem Beside.of_sending {sent sent' : Except Failure Unit × Outlet}
    {next : Except Failure Unit → Program (σ × Outcome)} (hpaired : start.Paired failing sent sent')
    (hended : reader.inlet.ended = true)
    (hstops : ∀ cause, ∃ state,
      next (.error (.io cause)) = .done (state, .error (.fatal (.io cause))))
    (hlater : ∀ result {failing' sound' : Outlet}, start.Abreast failing' sound' →
      Beside start ((next result).run ⟨reader, failing'⟩) ((next result).run ⟨reader, sound'⟩)) :
    Beside start ((next sent.1).run ⟨reader, sent.2⟩) ((next sent'.1).run ⟨reader, sent'.2⟩) := by
  cases hpaired with
  | alike h => exact hlater _ h
  | @cut cause failing' sound' h hobliging hgrows =>
    obtain ⟨state, hstop⟩ := hstops cause
    rw [hstop]
    exact .of_cut state (next (.ok ())) ⟨reader, sound'⟩ h hended hobliging

theorem run_beside (program : Program (σ × Outcome)) (hpasses : program.PassesOn)
    (hended : reader.inlet.ended = true) (h : start.Abreast failing sound) :
    Beside start (program.run ⟨reader, failing⟩) (program.run ⟨reader, sound⟩) := by
  induction program generalizing reader failing sound with
  | done result => exact .alike h
  | data payload next ih =>
    exact .of_sending (Outlet.sendData_paired payload h) hended hpasses.1
      fun result _ _ hlater ↦ ih result (hpasses.2 result) hended hlater
  | comment text next ih =>
    exact .of_sending (Outlet.sendLine_paired "#" (Utf8.encode text) h) hended hpasses.1
      fun result _ _ hlater ↦ ih result (hpasses.2 result) hended hlater
  | status keyword text next ih =>
    exact .of_sending (Outlet.sendLine_paired "S" _ h) hended hpasses.1
      fun result _ _ hlater ↦ ih result (hpasses.2 result) hended hlater
  | inquire keyword next ih =>
    -- both would read the same answer, as reading does not depend on the outlet
    obtain ⟨answer, rest, hgather, hrest⟩ := gather_of_ended [] hended
    have hpaired := Outlet.sendLine_paired "INQUIRE" (Utf8.encode keyword) h
    rw [run, run]
    generalize failing.sendLine "INQUIRE" (Utf8.encode keyword) = sent at hpaired
    generalize sound.sendLine "INQUIRE" (Utf8.encode keyword) = sent' at hpaired
    cases hpaired with
    | @alike result failing' sound' hlater =>
      cases result with
      | error cause => exact ih _ (hpasses.2 _) hended hlater
      | ok done =>
        simp only [hgather]
        exact ih answer (hpasses.2 answer) hrest hlater
    | @cut cause failing' sound' hcut hobliging hgrows =>
      obtain ⟨state, hstop⟩ := hpasses.1 cause
      simp only [Rejection.ofFailure, hstop, hgather]
      exact .of_cut state (next answer) ⟨rest, sound'⟩ hcut hrest hobliging

end Program

/-- Every handler of the blueprint passes failures of the stream on. -/
def Blueprint.PassesOn (blueprint : Blueprint σ) : Prop :=
  ∀ verb command, blueprint.commands.find? verb = some command →
    ∀ state parameters, (command.handler state parameters).PassesOn

namespace Action

theorem passesOn_recital (state : σ) (lines : List String) : (recital state lines).PassesOn := by
  induction lines with
  | nil => trivial
  | cons text later ih =>
    refine ⟨fun cause ↦ ⟨state, rfl⟩, fun outcome ↦ ?_⟩
    cases outcome with
    | ok done => exact ih
    | error cause => trivial

theorem passesOn_program {blueprint : Blueprint σ} (h : blueprint.PassesOn) (command : Line)
    (state : σ) : ((ofCommand blueprint command).program state).PassesOn := by
  have hsuits := suits_ofCommand blueprint command
  generalize ofCommand blueprint command = action at hsuits
  cases hsuits with
  | idle hidle =>
    cases action with
    | inform lines => exact passesOn_recital state lines
    | refuse | acknowledge => trivial
    | leave | restore | assign | perform => exact hidle.elim
  | perform parameters given performed htext hverb hfind =>
    exact h command.verb performed hfind state given
  | _ => trivial

end Action

/-! ### Calls -/

/-- The same handler or option setter with the same arguments, whatever it came to. -/
inductive Call.Alike : Call σ → Call σ → Prop
  | command (verb parameters : String) (state state' : σ) (outcome outcome' : Outcome) :
    Alike (.command verb parameters state outcome) (.command verb parameters state' outcome')
  | option (key value : String) (state state' : σ) (outcome outcome' : Outcome) :
    Alike (.option key value state outcome) (.option key value state' outcome')

/-- Calls that begin others, up to what the last of them came to. -/
inductive Curtailed : List (Call σ) → List (Call σ) → Prop
  | between {calls calls' : List (Call σ)} (h : calls <+: calls') : Curtailed calls calls'
  | within {earlier calls' : List (Call σ)} {call call' : Call σ} (halike : call.Alike call')
      (h : earlier ++ [call'] <+: calls') : Curtailed (earlier ++ [call]) calls'

theorem Curtailed.mono {calls calls' more : List (Call σ)} (h : Curtailed calls calls')
    (hmore : calls' <+: more) : Curtailed calls more := by
  cases h with
  | between h => exact .between (h.trans hmore)
  | within halike h => exact .within halike (h.trans hmore)

theorem Action.curtailed_calls (earlier : List (Call σ)) (state state' : σ)
    (outcome outcome' : Outcome) (action : Action σ) :
    Curtailed (earlier ++ action.calls state outcome)
      (earlier ++ action.calls state' outcome') := by
  cases action with
  | assign key value setter => exact .within (.option ..) List.prefix_rfl
  | perform command parameters => exact .within (.command ..) List.prefix_rfl
  | _ => exact .between List.prefix_rfl

/-! ### Conversations -/

namespace Conversation

/-- The conversation with another outlet. -/
def withOutlet (conversation : Conversation σ) (outlet : Outlet) : Conversation σ :=
  { conversation with wire := { conversation.wire with outlet := outlet } }

/-- Two conversations whose outlets went abreast: they still do, or the one is cut off. It ends with
the failure, unless it has taken its leave. -/
inductive Beside (start : Outlet) (leaves : Prop) (broken sound : Conversation σ) : Prop
  | alike {outlet : Outlet} (h : start.Abreast outlet sound.wire.outlet)
      (hsame : broken = sound.withOutlet outlet) : Beside start leaves broken sound
  | cut {cause : IoError} (h : start.Cut broken.wire.outlet sound.wire.outlet.octets cause)
      (hphase : broken.phase = .ended (.error (.io cause)))
      (hcalls : Curtailed broken.calls sound.calls) : Beside start leaves broken sound
  | farewell {cause : IoError} {earlier : Bytes} (hleaves : leaves)
      (h : start.Cut broken.wire.outlet sound.wire.outlet.octets cause)
      (hphase : broken.phase = .ended (.ok ()))
      (hphase' : sound.phase = .ended (.ok ())) (hcalls : broken.calls = sound.calls)
      (hlast : sound.wire.outlet.octets = earlier ++ Utf8.encode "OK\n")
      (hpart : earlier <+: broken.wire.outlet.octets) : Beside start leaves broken sound

variable {start outlet : Outlet} {leaves : Prop} {conversation : Conversation σ}

theorem Beside.imp {leaves' : Prop} {broken sound : Conversation σ}
    (h : Beside start leaves broken sound) (himp : leaves → leaves') :
    Beside start leaves' broken sound := by
  cases h with
  | alike h hsame => exact .alike h hsame
  | cut h hphase hcalls => exact .cut h hphase hcalls
  | farewell hleaves h hphase hphase' hcalls hlast hpart =>
    exact .farewell (himp hleaves) h hphase hphase' hcalls hlast hpart

theorem afterWrite_beside (conversation : Conversation σ)
    {sent sent' : Except Failure Unit × Outlet} (h : start.Paired outlet sent sent') :
    Beside start leaves ((conversation.withOutlet outlet).afterWrite sent)
      (conversation.afterWrite sent') := by
  cases h with
  | alike h => exact .alike h rfl
  | cut h hobliging hgrows => exact .cut h rfl (.between List.prefix_rfl)

theorem close_beside (conversation : Conversation σ) (outcome : Outcome)
    (h : start.Abreast outlet conversation.wire.outlet) :
    Beside start leaves ((conversation.withOutlet outlet).close outcome)
      (conversation.close outcome) := by
  cases outcome with
  | ok done => exact afterWrite_beside conversation (Outlet.sendLine_paired "OK" [] h)
  | error rejection =>
    cases rejection with
    | report fault => exact afterWrite_beside conversation (Outlet.sendEncoded_paired fault.line h)
    | fatal cause => exact .alike h rfl

theorem leave_beside (hleaves : leaves) (h : start.Abreast outlet conversation.wire.outlet) :
    Beside start leaves (conversation.withOutlet outlet).leave conversation.leave := by
  obtain ⟨final, hsend, hsent⟩ := Outlet.sendLine_obliging "OK" [] h.obliging
  have hpaired := Outlet.sendLine_paired "OK" [] h
  rw [leave, leave]
  simp only [withOutlet]
  rw [hsend] at hpaired ⊢
  generalize outlet.sendLine "OK" [] = sent at hpaired ⊢
  cases hpaired with
  | alike h => exact .alike h rfl
  | cut hcut hobliging hgrows =>
    have hlast : final.octets = conversation.wire.outlet.octets ++ Utf8.encode "OK\n" := by
      rw [hsent.octets]
      rfl
    exact .farewell hleaves hcut rfl rfl rfl hlast (h.octets ▸ hgrows)

variable {blueprint : Blueprint σ}

theorem dispatch_beside (hpasses : blueprint.PassesOn) (conversation : Conversation σ)
    (command : Line)
    (hended : conversation.wire.reader.inlet.ended = true)
    (h : start.Abreast outlet conversation.wire.outlet) :
    Beside start command.IsFarewell ((conversation.withOutlet outlet).dispatch blueprint command)
      (conversation.dispatch blueprint command) := by
  by_cases hleave : Action.ofCommand blueprint command = .leave
  case pos =>
    rw [dispatch_of_leave hleave, dispatch_of_leave hleave]
    exact leave_beside (Action.ofCommand_eq_leave_iff.1 hleave) h
  case neg =>
    have hruns := ((Action.ofCommand blueprint command).program conversation.state).run_beside
      (Action.passesOn_program hpasses command conversation.state) hended h
    generalize hrun : ((Action.ofCommand blueprint command).program conversation.state).run
      ⟨conversation.wire.reader, outlet⟩ = ran at hruns
    generalize hrun' : ((Action.ofCommand blueprint command).program conversation.state).run
      ⟨conversation.wire.reader, conversation.wire.outlet⟩ = ran' at hruns
    cases hruns with
    | @alike result reader failing sound hlater =>
      rw [dispatch_of_finished (conversation.withOutlet outlet) hleave hrun,
        dispatch_of_finished conversation hleave hrun']
      let ran : Conversation σ := ⟨⟨reader, sound⟩, result.1, conversation.phase,
        conversation.calls ++ (Action.ofCommand blueprint command).calls result.1 result.2⟩
      exact close_beside ran result.2 hlater
    | @cut state result cause reader failing wire hcut hobliging =>
      rw [dispatch_of_finished (conversation.withOutlet outlet) hleave hrun,
        dispatch_of_finished conversation hleave hrun']
      obtain ⟨final, hsent, hclosed⟩ := close_obliging
        ⟨wire, result.1, conversation.phase,
          conversation.calls ++ (Action.ofCommand blueprint command).calls result.1 result.2⟩
        result.2 hobliging
      rw [hclosed]
      refine .cut (hcut.mono ?_) rfl (Action.curtailed_calls _ _ _ _ _ _)
      rw [hsent.octets]
      exact List.prefix_append _ _

/-- What was written and the calls that were made stay. -/
theorem takeCommands_extends (blueprint : Blueprint σ) (conversation : Conversation σ)
    (hended : conversation.wire.reader.inlet.ended = true)
    (hobliging : conversation.wire.outlet.Obliging) :
    conversation.wire.outlet.octets <+:
        (conversation.takeCommands blueprint).wire.outlet.octets ∧
      conversation.calls <+: (conversation.takeCommands blueprint).calls := by
  by_cases hready : conversation.phase = .ready
  case pos =>
    obtain ⟨episodes, result, hchronicle, -, hcalls⟩ :=
      takeCommands_obliging blueprint conversation hended hobliging hready
    rw [hchronicle.writes, hcalls]
    exact ⟨List.prefix_append _ _, List.prefix_append _ _⟩
  case neg =>
    rw [takeCommands_of_not_ready blueprint hready]
    exact ⟨List.prefix_rfl, List.prefix_rfl⟩

/-- What one command came to on both sides decides what the commands after it come to. -/
theorem Beside.takeCommands {leaves' : Prop} {broken sound : Conversation σ}
    (h : Beside start leaves broken sound) (hended : sound.wire.reader.inlet.ended = true)
    (hobliging : sound.wire.outlet.Obliging) (hleaves : leaves → leaves')
    (hlater : ∀ {outlet : Outlet}, broken = sound.withOutlet outlet →
      start.Abreast outlet sound.wire.outlet →
        Beside start leaves' ((sound.withOutlet outlet).takeCommands blueprint)
          (sound.takeCommands blueprint)) :
    Beside start leaves' (broken.takeCommands blueprint) (sound.takeCommands blueprint) := by
  cases h with
  | alike habreast hsame =>
    subst hsame
    exact hlater rfl habreast
  | cut hcut hover hcalls =>
    rw [takeCommands_of_waits blueprint (.inl (isOver_of_ended hover))]
    obtain ⟨hwritten, hmade⟩ := takeCommands_extends blueprint sound hended hobliging
    exact .cut (hcut.mono hwritten) hover (hcalls.mono hmade)
  | farewell hleft hcut hover hover' hcalls hlast hpart =>
    rw [takeCommands_of_waits blueprint (.inl (isOver_of_ended hover)),
      takeCommands_of_waits blueprint (.inl (isOver_of_ended hover'))]
    exact .farewell (hleaves hleft) hcut hover hover' hcalls hlast hpart

/-- Conversations whose outlets are abreast take the same commands until one is cut off. -/
theorem takeCommands_beside (hpasses : blueprint.PassesOn) (conversation : Conversation σ)
    (hended : conversation.wire.reader.inlet.ended = true)
    (h : start.Abreast outlet conversation.wire.outlet) :
    Beside start
      (∃ last, Comes blueprint (conversation.withOutlet outlet) last ∧ last.HearsFarewell)
      ((conversation.withOutlet outlet).takeCommands blueprint)
      (conversation.takeCommands blueprint) := by
  fun_induction takeCommands blueprint conversation generalizing outlet with
  | case1 conversation hphase command reader hread ih =>
    have hrest : reader.inlet.ended = true := (LineReader.ended_of_readLine hended hread).2
    obtain ⟨episode, -, hmakes⟩ := dispatch_obliging blueprint
      { conversation with wire := { conversation.wire with reader := reader } } command hrest
      h.obliging
    have hbeside := dispatch_beside hpasses
      { conversation with wire := { conversation.wire with reader := reader } } command hrest h
    have hready : (conversation.withOutlet outlet).phase = .ready := hphase
    rw [takeCommands_of_reads blueprint hready hread]
    refine hbeside.takeCommands hmakes.ended hmakes.delivered.obliging (fun hfarewell ↦ ?_)
      fun hsame hlater ↦ (ih hmakes.ended hlater).imp ?_
    · exact ⟨_, .here _, hready, command, reader, hread, hfarewell⟩
    · rintro ⟨last, hlast, hhears⟩
      exact ⟨last, .takes hready hread (hsame ▸ hlast), hhears⟩
  | case2 conversation hphase cause reader hread =>
    have hready : (conversation.withOutlet outlet).phase = .ready := hphase
    exact .alike h (takeCommands_of_unread blueprint hready hread)
  | case3 conversation hphase reader hread =>
    exact absurd rfl (LineReader.ended_of_readLine hended hread).1
  | case4 conversation hphase => exact .alike h (takeCommands_of_not_ready blueprint hphase)

/-- A conversation that comes to have a goodbye before it ends well. -/
theorem phase_of_hearsFarewell {last : Conversation σ} (hcomes : Comes blueprint conversation last)
    (hhears : last.HearsFarewell) :
    (conversation.takeCommands blueprint).phase = .ended (.ok ()) := by
  obtain ⟨hready, command, reader, hread, hfarewell⟩ := hhears
  rw [hcomes.takeCommands_eq, takeCommands_of_reads blueprint hready hread,
    dispatch_of_leave (Action.ofCommand_eq_leave_iff.2 hfarewell)]
  exact congrArg phase (takeCommands_of_waits blueprint (.inl rfl))

theorem serve_beside (hpasses : blueprint.PassesOn) (inlet : Inlet) (failing : Outlet)
    {sound : Outlet} (hended : inlet.ended = true) (hobliging : sound.Obliging)
    (hoctets : failing.octets = sound.octets) :
    Beside failing
      (∃ last, Comes blueprint (greet blueprint (.ofHalves inlet failing)) last ∧
        last.HearsFarewell)
      (serve blueprint (.ofHalves inlet failing)) (serve blueprint (.ofHalves inlet sound)) := by
  have hstart : failing.Abreast failing sound := ⟨⟨[], .nothing failing⟩, rfl, hobliging, hoctets⟩
  have hgreets : Beside failing False (greet blueprint (.ofHalves inlet failing))
      (greet blueprint (.ofHalves inlet sound)) :=
    afterWrite_beside ⟨.ofHalves inlet sound, blueprint.start, .ready, []⟩
      (Outlet.sendLine_paired "OK" (Utf8.encode blueprint.greeting) hstart)
  have hended' : (greet blueprint (.ofHalves inlet sound)).wire.reader.inlet.ended = true := hended
  have hkept : (greet blueprint (.ofHalves inlet sound)).wire.outlet.Obliging := by
    obtain ⟨opened, hsend, hsent⟩ :=
      Outlet.sendLine_obliging "OK" (Utf8.encode blueprint.greeting) hobliging
    have hopened : (greet blueprint (.ofHalves inlet sound)).wire.outlet = opened :=
      congrArg Prod.snd hsend
    rw [hopened]
    exact hsent.obliging
  rw [serve_eq, serve_eq]
  exact hgreets.takeCommands hended' hkept False.elim fun hsame hlater ↦
    hsame ▸ takeCommands_beside hpasses _ hended' hlater

/-- A stream that fails only cuts the output short, if the handlers pass its failures on. What the
conversation writes is a beginning of what it writes for the same client on a stream that does not
fail, and if writing has a limit it is all up to that limit. The calls are the same up to what the
last of them came to. If the stream has failed the conversation ends with that failure, or ends well
if only the answer to a goodbye was left to write; if not, nothing is different. -/
theorem serve_truncates (blueprint : Blueprint σ) (hpasses : blueprint.PassesOn) (inlet : Inlet)
    (failing sound : Outlet) (hended : inlet.ended = true) (hobliging : sound.Obliging)
    (hoctets : failing.octets = sound.octets) :
    let broken := serve blueprint (.ofHalves inlet failing)
    let healthy := serve blueprint (.ofHalves inlet sound)
    let written := broken.wire.outlet.octets
    let whole := healthy.wire.outlet.octets
    let hearsFarewell := ∃ last, Comes blueprint (greet blueprint (.ofHalves inlet failing)) last ∧
      last.HearsFarewell
    written <+: whole ∧
      (∀ room, failing.limit = some room → failing.flushFailure = none →
        written = whole.take (failing.octets.length + room)) ∧
      Curtailed broken.calls healthy.calls ∧
      (∀ cause, failing.Fails broken.wire.outlet whole cause →
        (hearsFarewell → broken.phase = .ended (.ok ()) ∧ healthy.phase = .ended (.ok ()) ∧
          ∃ earlier, whole = earlier ++ Utf8.encode "OK\n" ∧ earlier <+: written) ∧
        (¬hearsFarewell → broken.phase = .ended (.error (.io cause)))) ∧
      ((∀ cause, ¬failing.Fails broken.wire.outlet whole cause) →
        broken.phase = healthy.phase ∧ written = whole ∧ broken.calls = healthy.calls) := by
  intro broken healthy written whole hearsFarewell
  have hbeside : Beside failing hearsFarewell broken healthy :=
    serve_beside hpasses inlet failing hended hobliging hoctets
  cases hbeside with
  | @alike outlet h hsame =>
    have hwritten : written = whole :=
      (congrArg (fun final ↦ final.wire.outlet.octets) hsame).trans h.octets
    have hphase : broken.phase = healthy.phase := by rw [hsame]; rfl
    have hcalls : broken.calls = healthy.calls := by rw [hsame]; rfl
    have hkept : ∀ cause, ¬failing.Fails broken.wire.outlet whole cause := by
      rw [hsame]
      exact fun cause ↦ h.not_fails
    refine ⟨hwritten ▸ List.prefix_rfl, fun room hlimit _ ↦ ?_, .between (hcalls ▸ List.prefix_rfl),
      fun cause hfails ↦ absurd hfails (hkept cause), fun _ ↦ ⟨hphase, hwritten, hcalls⟩⟩
    exact hwritten.trans (h.octets.symm.trans (h.octets_eq_take hlimit))
  | cut hcut hover hcalls =>
    refine ⟨hcut.part, fun room hlimit hflush ↦ hcut.octets_eq_take hlimit hflush, hcalls,
      fun cause hfails ↦ ⟨?_, fun _ ↦ ?_⟩, fun hnone ↦ ?_⟩
    · -- having come to a goodbye it would have ended well
      rintro ⟨last, hcomes, hhears⟩
      have hends : broken.phase = .ended (.ok ()) := by
        rw [show broken = _ from serve_eq blueprint _]
        exact phase_of_hearsFarewell hcomes hhears
      exact nomatch hends.symm.trans hover
    · rw [hcut.fails.eq_of_fails hfails] at hover
      exact hover
    · exact absurd hcut.fails (hnone _)
  | @farewell cause earlier hleaves hcut hover hover' hcalls hlast hpart =>
    refine ⟨hcut.part, fun room hlimit hflush ↦ hcut.octets_eq_take hlimit hflush,
      .between (hcalls ▸ List.prefix_rfl), fun cause hfails ↦
        ⟨fun _ ↦ ⟨hover, hover', earlier, hlast, hpart⟩, fun hnever ↦ absurd hleaves hnever⟩,
      fun hnone ↦ absurd hcut.fails (hnone _)⟩

/-- A handler that sends its parameters back and then counts itself. -/
def counting : Blueprint Nat :=
  (Blueprint.plain 0 "hi").withCommand "echo" fun count parameters ↦
    .data (Utf8.encode parameters) fun
      | .ok () => .done (count + 1, .ok ())
      | .error cause => .done (count, .error (.ofFailure cause))

theorem passesOn_counting : counting.PassesOn := by
  intro verb command hfind state parameters
  simp only [counting, Blueprint.withCommand, Registry.find?, Registry.register] at hfind
  change List.lookup verb [(upperCase "echo", _)] = some command at hfind
  rw [List.lookup_cons] at hfind
  split at hfind
  case h_1 =>
    obtain rfl := Option.some.inj hfind
    refine ⟨fun cause ↦ ⟨state, rfl⟩, fun outcome ↦ ?_⟩
    cases outcome <;> trivial
  case h_2 => exact nomatch hfind

/-- The outlet that takes three octets at a time, interrupts its second call and is full after ten
octets. -/
def narrow : Outlet :=
  { Outlet.fresh with cap := some 3, interruptions := [1], room := some 10 }

/-- The client has the handler called twice and says goodbye, but there is only room for a part of
the first reply. -/
theorem serve_truncates_of_narrow :
    let inlet : Inlet := ⟨[.chunk (Utf8.encode "ECHO hello\nECHO\nBYE\n")], true⟩
    let broken := serve counting (.ofHalves inlet narrow)
    let healthy := serve counting (.ofHalves inlet .fresh)
    counting.PassesOn ∧ inlet.ended = true ∧ Outlet.fresh.Obliging ∧
      narrow.octets = Outlet.fresh.octets ∧
      healthy.wire.outlet.octets = Utf8.encode "OK hi\nD hello\nOK\nOK\nOK\n" ∧
      broken.result? = some (.error (.io Outlet.writeZero)) ∧
      broken.wire.outlet.octets = healthy.wire.outlet.octets.take (0 + 10) ∧
      Curtailed broken.calls healthy.calls := by
  intro inlet broken healthy
  have hobliging : Outlet.fresh.Obliging := ⟨rfl, by decide, rfl⟩
  obtain ⟨-, htake, hcalls, -, -⟩ :=
    serve_truncates counting passesOn_counting inlet narrow .fresh rfl hobliging rfl
  exact ⟨passesOn_counting, rfl, hobliging, rfl, by decide +kernel, by decide +kernel,
    htake 10 rfl rfl, hcalls⟩

/-- If it is the answer to a goodbye that is cut off, the conversation ends well. -/
example :
    let inlet : Inlet := ⟨[.chunk (Utf8.encode "BYE\n")], true⟩
    let final := serve counting (.ofHalves inlet { narrow with room := some 7 })
    final.result? = some (.ok ()) ∧ final.wire.outlet.octets = Utf8.encode "OK hi\nO" := by
  decide +kernel

end Conversation

end LineProtocol
