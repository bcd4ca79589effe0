import LineProtocol.Proofs.Server.Ending

/-!
# What a conversation answers

On a stream that takes what is written a handler program comes to what `Program.narrate` tells of
it, so the episode that a command makes is determined by the state and the reader it finds:
`Performs` gives the lines that lead up to the closing one, the closing line and the state left. A
conversation `Passes` from episode to episode and `Stops` with a line that cannot be read or with an
episode that ends it (`takeCommands_passes`, `serve_passes`).
-/

set_option autoImplicit false

namespace LineProtocol

/-! ### Episodes -/

variable {σ : Type}

/-- The next line is a command, and this is the episode that it makes and the wire it leaves. -/
inductive Performs (blueprint : Blueprint σ) (state : σ) (wire : Wire) : Episode σ → Wire → Prop
  | intro {command : Line} {reader rest : LineReader} {final : σ} {outcome : Outcome}
      {lead : List Line} {outlet : Outlet}
      (hread : wire.reader.readLine = (.value command, reader))
      (htells : ((Action.ofCommand blueprint command).program state).narrate reader =
        ⟨.finished (final, outcome), lead, rest⟩)
      (hsent : wire.outlet.Delivered (lead ++ Line.sent outcome.closing) outlet) :
    Performs blueprint state wire
      ⟨command, lead, outcome.closing, (Action.ofCommand blueprint command).calls final outcome,
        final⟩ ⟨rest, outlet⟩

/-- The conversation goes through these episodes, and none of them ends it. -/
inductive Passes (blueprint : Blueprint σ) : σ → Wire → List (Episode σ) → σ → Wire → Prop
  | nothing (state : σ) (wire : Wire) : Passes blueprint state wire [] state wire
  | episode {state last : σ} {wire later final : Wire} {episode : Episode σ}
      {episodes : List (Episode σ)} (h : Performs blueprint state wire episode later)
      (hresult : episode.result? = none)
      (hlater : Passes blueprint episode.state later episodes last final) :
    Passes blueprint state wire (episode :: episodes) last final

/-- The conversation ends here: no command can be read, or the next one ends it. -/
inductive Stops (blueprint : Blueprint σ) (state : σ) (wire : Wire) :
    List (Episode σ) → Except Failure Unit → Wire → Prop
  | unread {cause : Failure} {reader : LineReader}
      (hread : wire.reader.readLine = (.error cause, reader)) :
    Stops blueprint state wire [] (.error cause) { wire with reader := reader }
  | episode {later : Wire} {episode : Episode σ} {result : Except Failure Unit}
      (h : Performs blueprint state wire episode later) (hresult : episode.result? = some result) :
    Stops blueprint state wire [episode] result later

section

variable {blueprint : Blueprint σ} {state last : σ} {wire later final : Wire} {episode : Episode σ}
  {episodes ending : List (Episode σ)} {result : Except Failure Unit}

theorem Episode.result?_of_error {cause : Failure} (h : episode.closing = .error cause) :
    episode.result? = some (.error cause) := by
  rw [Episode.result?, h]

theorem Performs.writes (h : Performs blueprint state wire episode later) :
    later.outlet.octets = wire.outlet.octets ++ episode.lines.flatMap Line.octets := by
  cases h with
  | intro hread htells hsent => exact hsent.octets

/-- What a conversation has written is what its episodes have, in order. -/
theorem Passes.writes (h : Passes blueprint state wire episodes last final) :
    final.outlet.octets =
      wire.outlet.octets ++ (episodes.flatMap Episode.lines).flatMap Line.octets := by
  induction h with
  | nothing state wire => exact (List.append_nil _).symm
  | episode h hresult hlater ih =>
    rw [ih, h.writes, List.append_assoc, ← List.flatMap_append]
    rfl

theorem Stops.writes (h : Stops blueprint state wire ending result final) :
    final.outlet.octets =
      wire.outlet.octets ++ (ending.flatMap Episode.lines).flatMap Line.octets := by
  cases h with
  | unread hread => exact (List.append_nil _).symm
  | episode h hresult =>
    rw [List.flatMap_singleton]
    exact h.writes

/-- Each episode is made in front of what the ones before it leave. -/
theorem Passes.performs_of_split {earlier rest : List (Episode σ)}
    (h : Passes blueprint state wire episodes last later)
    (hstops : Stops blueprint last later ending result final)
    (hsplit : episodes ++ ending = earlier ++ episode :: rest) :
    ∃ between reached after, Passes blueprint state wire earlier between reached ∧
      Performs blueprint between reached episode after := by
  induction h generalizing earlier with
  | nothing state wire =>
    cases hstops with
    | unread hread => simp at hsplit
    | episode hperforms hresult =>
      cases earlier with
      | nil =>
        obtain ⟨rfl, -⟩ := List.cons.inj hsplit
        exact ⟨state, wire, _, .nothing state wire, hperforms⟩
      | cons head earlier => exact absurd (List.cons.inj hsplit).2 (by simp)
  | @episode state last wire next later first episodes hperforms hresult hlater ih =>
    cases earlier with
    | nil =>
      obtain ⟨rfl, -⟩ := List.cons.inj hsplit
      exact ⟨state, wire, next, .nothing state wire, hperforms⟩
    | cons head earlier =>
      obtain ⟨rfl, hrest⟩ := List.cons.inj hsplit
      obtain ⟨between, reached, after, hpasses, hmade⟩ := ih hstops hrest
      exact ⟨between, reached, after, .episode hperforms hresult hpasses, hmade⟩

end

namespace Conversation

variable (blueprint : Blueprint σ)

/-- Every command that is taken makes its episode. -/
theorem dispatch_performs (conversation : Conversation σ) {command : Line} {reader : LineReader}
    (hread : conversation.wire.reader.readLine = (.value command, reader))
    (hended : reader.inlet.ended = true) (hobliging : conversation.wire.outlet.Obliging) :
    ∃ episode later, Performs blueprint conversation.state conversation.wire episode later ∧
      later.reader.inlet.ended = true ∧ later.outlet.Obliging ∧
      ({ conversation with wire := { conversation.wire with reader := reader } }.dispatch
        blueprint command) =
        ⟨later, episode.state, match episode.result? with
          | none => .ready
          | some result => .ended result, conversation.calls ++ episode.calls⟩ := by
  obtain ⟨⟨final, outcome⟩, lead, rest, htells, -, hrest⟩ :=
    ((Action.ofCommand blueprint command).program conversation.state).narrate_of_ended hended
  obtain ⟨between, hrun, hlead⟩ :=
    ((Action.ofCommand blueprint command).program conversation.state).run_narrated
      ⟨reader, conversation.wire.outlet⟩ hobliging
  rw [htells] at hrun hlead
  by_cases hleave : Action.ofCommand blueprint command = .leave
  case pos =>
    rw [hleave] at htells
    cases htells
    obtain ⟨outlet, hsend, hsent⟩ := Outlet.sendLine_obliging "OK" [] hobliging
    have hfarewell : (command.verb == "BYE" && command.text?.isSome) = true := by
      simpa using Action.ofCommand_eq_leave_iff.1 hleave
    refine ⟨_, ⟨reader, outlet⟩, .intro hread (by rw [hleave]; rfl) hsent, hended, hsent.obliging,
      ?_⟩
    rw [dispatch_of_leave hleave, leave]
    simp only [hsend, hleave, Action.calls, List.append_nil, Episode.result?, Episode.isFarewell,
      hfarewell]
    rfl
  case neg =>
    have hfarewell : (command.verb == "BYE" && command.text?.isSome) = false := by
      simpa using fun hbye ↦ mt Action.ofCommand_eq_leave_iff.2 hleave hbye
    obtain ⟨outlet, hsent, hclosed⟩ := close_obliging
      ⟨⟨rest, between⟩, final, conversation.phase, conversation.calls ++
        (Action.ofCommand blueprint command).calls final outcome⟩ outcome hlead.obliging
    refine ⟨_, ⟨rest, outlet⟩, .intro hread htells (hlead.trans hsent), hrest, hsent.obliging, ?_⟩
    rw [dispatch_of_finished { conversation with wire := ⟨reader, conversation.wire.outlet⟩ }
      hleave hrun]
    refine hclosed.trans ?_
    simp only [Episode.result?, Episode.isFarewell, hfarewell]
    cases outcome.closing <;> rfl

/-- A conversation that takes commands passes from one to the next and stops. -/
theorem takeCommands_passes (conversation : Conversation σ)
    (hready : conversation.phase = .ready) (hended : conversation.wire.reader.inlet.ended = true)
    (hobliging : conversation.wire.outlet.Obliging) :
    let final := conversation.takeCommands blueprint
    ∃ episodes state wire last result,
      Passes blueprint conversation.state conversation.wire episodes state wire ∧
      Stops blueprint state wire last result final.wire ∧ final.phase = .ended result ∧
      final.calls = conversation.calls ++ (episodes ++ last).flatMap Episode.calls := by
  fun_induction takeCommands blueprint conversation with
  | case1 conversation hphase command reader hread ih =>
    obtain ⟨episode, later, hperforms, hlater, hkept, hdispatch⟩ := dispatch_performs blueprint
      conversation hread (LineReader.ended_of_readLine hended hread).2 hobliging
    rw [hdispatch] at ih ⊢
    cases hresult : episode.result? with
    | some result =>
      have hover : takeCommands blueprint ⟨later, episode.state, .ended result,
          conversation.calls ++ episode.calls⟩ = _ :=
        takeCommands_of_waits blueprint (.inl rfl)
      simp only [hover]
      refine ⟨[], _, _, [episode], result, .nothing _ _, .episode hperforms hresult, rfl, ?_⟩
      rw [List.nil_append, List.flatMap_singleton]
    | none =>
      rw [hresult] at ih
      obtain ⟨episodes, state, wire, last, result, hpasses, hstops, hover, hcalls⟩ :=
        ih rfl hlater hkept
      refine ⟨episode :: episodes, state, wire, last, result, .episode hperforms hresult hpasses,
        hstops, hover, ?_⟩
      rw [hcalls, List.cons_append, List.flatMap_cons, List.append_assoc]
  | case2 conversation hphase cause reader hread =>
    exact ⟨[], _, _, [], .error cause, .nothing _ _, .unread hread, rfl,
      (List.append_nil _).symm⟩
  | case3 conversation hphase reader hread =>
    exact absurd rfl (LineReader.ended_of_readLine hended hread).1
  | case4 conversation hphase => exact absurd hready hphase

/-- A conversation that cannot greet does nothing else. -/
theorem serve_of_ungreeted (inlet : Inlet) {outlet : Outlet} {cause : Failure}
    (hobliging : outlet.Obliging)
    (hgreeting : Line.encode "OK" (Utf8.encode blueprint.greeting) = .error cause) :
    (serve blueprint (.ofHalves inlet outlet)).phase = .ended (.error cause) ∧
      (serve blueprint (.ofHalves inlet outlet)).wire.outlet.octets = outlet.octets := by
  obtain ⟨opened, hsend, hsent⟩ :=
    Outlet.sendLine_obliging "OK" (Utf8.encode blueprint.greeting) hobliging
  have hcomposed : Line.compose "OK" (Utf8.encode blueprint.greeting) = .error cause := by
    rw [Line.compose, hgreeting]
    rfl
  rw [hcomposed] at hsend hsent
  have hgreet : greet blueprint (.ofHalves inlet outlet) =
      ⟨⟨.ofInlet inlet, opened⟩, blueprint.start, .ended (.error cause), []⟩ := by
    rw [greet, show (Wire.ofHalves inlet outlet).outlet = outlet from rfl, hsend]
    rfl
  rw [serve_eq, hgreet, takeCommands_of_waits blueprint (.inl rfl)]
  exact ⟨rfl, hsent.octets.trans (List.append_nil _)⟩

/-- A whole conversation: the greeting, the episodes it passes, and how it stops. -/
theorem serve_passes (inlet : Inlet) {outlet : Outlet} {greeting : Bytes}
    (hended : inlet.ended = true) (hobliging : outlet.Obliging)
    (hgreeting : Line.encode "OK" (Utf8.encode blueprint.greeting) = .ok greeting) :
    let final := serve blueprint (.ofHalves inlet outlet)
    ∃ opened episodes state wire ending result,
      opened.octets = outlet.octets ++ greeting ∧
      Passes blueprint blueprint.start ⟨.ofInlet inlet, opened⟩ episodes state wire ∧
      Stops blueprint state wire ending result final.wire ∧ final.phase = .ended result := by
  intro final
  obtain ⟨opened, hsent, hgreet⟩ := greet_delivers blueprint inlet hobliging hgreeting
  obtain ⟨episodes, state, wire, ending, result, hpasses, hstops, hover, -⟩ :=
    takeCommands_passes blueprint ⟨⟨.ofInlet inlet, opened⟩, blueprint.start, .ready, []⟩ rfl hended
      hsent.obliging
  have hopened : opened.octets = outlet.octets ++ greeting := by
    rw [hsent.octets, List.flatMap_singleton, (Line.sendable_of_encode hgreeting).2]
    rfl
  have hfinal : final = _ := serve_eq blueprint _
  rw [hfinal, hgreet]
  exact ⟨opened, episodes, state, wire, ending, result, hopened, hpasses, hstops, hover⟩

end Conversation

end LineProtocol
