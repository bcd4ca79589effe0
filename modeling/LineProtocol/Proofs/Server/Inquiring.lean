import LineProtocol.Proofs.Server.Narration

/-!
# What inquiries read

An inquiry reads `D` lines for as long as they come and then makes one more reading, which decides
what the handler is given (`Program.Decides`). It has taken these readings and no others
(`decides_of_gather`), and it writes its own line and nothing else (`run_inquire`).

A handler reads by its inquiries only. `Program.Listens` follows a program from inquiry to inquiry
and lists the readings they have taken. In a conversation every reading is therefore either a
command or taken by an inquiry of the command before it: `Conversation.Attends` lists them in the
order in which they were made, and that is what the octets of the stream say, one after the other
(`serve_attends`). A line that an inquiry has taken is no command any more, and the command after
it is read as if it followed the first one.
-/

set_option autoImplicit false

namespace LineProtocol

theorem Failure.IsUnread.ofFailure {cause : Failure} (h : cause.IsUnread) :
    Rejection.ofFailure cause = .fatal cause := by
  cases cause <;> first | rfl | exact h.elim

namespace LineReader

/-- The reader makes these readings one after the other, whatever they find. -/
inductive Goes : LineReader → List (Reading Line) → LineReader → Prop
  | nowhere (reader : LineReader) : Goes reader [] reader
  | further {reader next last : LineReader} {found : Reading Line} {later : List (Reading Line)}
      (hread : reader.readLine = (found, next)) (hlater : Goes next later last) :
    Goes reader (found :: later) last

variable {reader between last : LineReader} {first later : List (Reading Line)}

theorem Goes.append (h : reader.Goes first between) (hlater : between.Goes later last) :
    reader.Goes (first ++ later) last := by
  induction h with
  | nowhere => exact hlater
  | further hread _ ih => exact .further hread (ih hlater)

theorem Goes.readings_eq (h : reader.Goes first last) : readings first.length reader = first := by
  induction h with
  | nowhere => rfl
  | further hread _ ih => rw [List.length_cons, readings, hread, ih]

/-- A reader that hears lines and what comes after them has gone so far. -/
theorem Hears.goes {lines : List Line} {stop : Reading Line} (h : reader.Hears lines stop last) :
    reader.Goes (lines.map .value ++ [stop]) last := by
  obtain ⟨between, hreads, hstop⟩ := h
  induction hreads with
  | nothing reader => exact .further hstop (.nowhere last)
  | line hread _ ih => exact .further hread (ih hstop)

end LineReader

namespace Program

/-! ### One inquiry -/

/-- What the reading behind the data makes of an inquiry that has collected a payload. -/
inductive Decides (payload : Bytes) : Reading Line → Except Rejection Bytes → Prop
  | complete {final : Line} (hverb : final.verb = "END") :
    Decides payload (.value final) (.ok payload)
  | canceled {final : Line} (hverb : final.verb = "CAN") :
    Decides payload (.value final) (.error (.report canceled))
  | unexpected {final : Line} (hverb : final.verb ∉ ["D", "END", "CAN"]) :
    Decides payload (.value final) (.error (.report (unexpected final.verb)))
  | unread (cause : Failure) : Decides payload (.error cause) (.error (.fatal cause))

/-- What decides is no data. -/
theorem Decides.not_data {payload : Bytes} {stop : Reading Line} {outcome : Except Rejection Bytes}
    {line : Line} (h : Decides payload stop outcome) (hstop : stop.forgetLength = .value line) :
    line.verb ≠ "D" := by
  cases h with
  | complete hverb | canceled hverb =>
    obtain rfl := Reading.value.inj hstop
    rw [hverb]
    decide
  | unexpected hverb =>
    obtain rfl := Reading.value.inj hstop
    exact fun h ↦ hverb (h ▸ List.mem_cons_self)
  | unread cause => cases cause <;> exact nomatch hstop

/-- An inquiry takes the data that comes and the reading behind it, which decides. -/
theorem decides_of_gather {collected : Bytes} {reader rest : LineReader}
    {outcome : Except Rejection Bytes}
    (h : gather collected reader = (.answered outcome, rest)) :
    ∃ data stop, reader.Hears data stop rest ∧ (∀ line ∈ data, line.verb = "D") ∧
      Decides (collected ++ data.flatMap Line.parameters) stop outcome := by
  have hnone : ∀ {stop : Reading Line} {later : LineReader} {payload : Bytes},
      later.readLine = (stop, rest) → Decides payload stop outcome →
        ∃ data stop, later.Hears data stop rest ∧ (∀ line ∈ data, line.verb = "D") ∧
          Decides (payload ++ data.flatMap Line.parameters) stop outcome := by
    intro stop later payload hread hdecides
    refine ⟨[], stop, ⟨later, .nothing later, hread⟩, List.forall_mem_nil _, ?_⟩
    rwa [List.flatMap_nil, List.append_nil]
  fun_induction gather collected reader with
  | case1 => cases h
  | case2 collected reader cause between hread =>
    obtain ⟨houtcome, rfl⟩ := Prod.mk.inj h
    obtain rfl := Inquiry.answered.inj houtcome
    have hunread := LineReader.isUnread_of_readLine hread
    exact hnone hread (hunread.ofFailure ▸ .unread cause)
  | case3 collected reader line between hread hdata ih =>
    obtain ⟨data, stop, hhears, hall, hdecides⟩ := ih h
    refine ⟨line :: data, stop, .line hread hhears, List.forall_mem_cons.2 ⟨hdata, hall⟩, ?_⟩
    rwa [List.flatMap_cons, ← List.append_assoc]
  | case4 collected reader line between hread hdata hend =>
    obtain ⟨houtcome, rfl⟩ := Prod.mk.inj h
    obtain rfl := Inquiry.answered.inj houtcome
    exact hnone hread (.complete hend)
  | case5 collected reader line between hread hdata hend hcan =>
    obtain ⟨houtcome, rfl⟩ := Prod.mk.inj h
    obtain rfl := Inquiry.answered.inj houtcome
    exact hnone hread (.canceled hcan)
  | case6 collected reader line between hread hdata hend hcan =>
    obtain ⟨houtcome, rfl⟩ := Prod.mk.inj h
    obtain rfl := Inquiry.answered.inj houtcome
    exact hnone hread (.unexpected (by simp [hdata, hend, hcan]))

variable {α : Type}

/-- On input that ends, an inquiry whose line is written goes on with what is decided. -/
theorem run_inquire {keyword : String} {line : Bytes}
    (hline : Line.encode "INQUIRE" (Utf8.encode keyword) = .ok line)
    (next : Except Rejection Bytes → Program α) (wire : Wire)
    (hended : wire.reader.inlet.ended = true) (hobliging : wire.outlet.Obliging) :
    ∃ data stop outcome later, (inquire keyword next).run wire = (next outcome).run later ∧
      later.outlet.Obliging ∧ later.outlet.octets = wire.outlet.octets ++ line ∧
      wire.reader.Hears data stop later.reader ∧ (∀ line ∈ data, line.verb = "D") ∧
      Decides (data.flatMap Line.parameters) stop outcome := by
  obtain ⟨outcome, rest, hgather, -⟩ := gather_of_ended [] hended
  obtain ⟨data, stop, hhears, hall, hdecides⟩ := decides_of_gather hgather
  obtain ⟨outlet, hsend, hsent⟩ :=
    Outlet.sendLine_obliging "INQUIRE" (Utf8.encode keyword) hobliging
  rw [Line.compose_of_encode hline] at hsend hsent
  have hoctets := hsent.octets
  rw [Line.sent, List.flatMap_singleton, ← (Line.sendable_of_encode hline).2] at hoctets
  have hrun : (inquire keyword next).run wire = (next outcome).run ⟨rest, outlet⟩ := by
    rw [run, hsend]
    simp only [Except.map, hgather]
  exact ⟨data, stop, outcome, ⟨rest, outlet⟩, hrun, hsent.obliging, hoctets, hhears, hall, hdecides⟩

/-! ### All inquiries of a program -/

/-- What a program comes to in front of a reader, with the readings that its inquiries take. -/
inductive Listens : Program α → LineReader → List (Reading Line) → Narration α → Prop
  | done (result : α) (reader : LineReader) :
    Listens (.done result) reader [] ⟨.finished result, [], reader⟩
  | data {payload : Bytes} {next : Except Failure Unit → Program α} {reader : LineReader}
      {taken : List (Reading Line)} {told : Narration α}
      (hlater : Listens (next (.ok ())) reader taken told) :
    Listens (.data payload next) reader taken (told.ledBy (Line.ofPayload payload))
  | comment {text : String} {next : Except Failure Unit → Program α} {reader : LineReader}
      {taken : List (Reading Line)} {told : Narration α} {composed : Except Failure Line}
      (hcomposed : Line.compose "#" (Utf8.encode text) = composed)
      (hlater : Listens (next (composed.map fun _ ↦ ())) reader taken told) :
    Listens (.comment text next) reader taken (told.ledBy (Line.sent composed))
  | status {keyword text : String} {next : Except Failure Unit → Program α} {reader : LineReader}
      {taken : List (Reading Line)} {told : Narration α} {composed : Except Failure Line}
      (hcomposed : Line.compose "S"
        (Utf8.encode (if text = "" then keyword else keyword ++ " " ++ text)) = composed)
      (hlater : Listens (next (composed.map fun _ ↦ ())) reader taken told) :
    Listens (.status keyword text next) reader taken (told.ledBy (Line.sent composed))
  /-- An inquiry that has no line reads nothing. -/
  | unasked {keyword : String} {next : Except Rejection Bytes → Program α} {reader : LineReader}
      {taken : List (Reading Line)} {told : Narration α} {cause : Failure}
      (hcomposed : Line.compose "INQUIRE" (Utf8.encode keyword) = .error cause)
      (hlater : Listens (next (.error (.ofFailure cause))) reader taken told) :
    Listens (.inquire keyword next) reader taken told
  | inquire {keyword : String} {next : Except Rejection Bytes → Program α}
      {reader between : LineReader} {taken : List (Reading Line)} {told : Narration α} {line : Line}
      {data : List Line} {stop : Reading Line} {outcome : Except Rejection Bytes}
      (hcomposed : Line.compose "INQUIRE" (Utf8.encode keyword) = .ok line)
      (hhears : reader.Hears data stop between) (hdata : ∀ line ∈ data, line.verb = "D")
      (hdecides : Decides (data.flatMap Line.parameters) stop outcome)
      (hlater : Listens (next outcome) between taken told) :
    Listens (.inquire keyword next) reader (data.map .value ++ [stop] ++ taken)
      (told.ledBy [line])

/-- On input that ends, whatever a program comes to, its inquiries have taken some readings. -/
theorem exists_listens (program : Program α) {reader : LineReader}
    (hended : reader.inlet.ended = true) :
    ∃ taken, program.Listens reader taken (program.narrate reader) := by
  induction program generalizing reader with
  | done result => exact ⟨[], .done result reader⟩
  | data payload next ih =>
    obtain ⟨taken, hlater⟩ := ih (.ok ()) hended
    exact ⟨taken, .data hlater⟩
  | comment text next ih =>
    obtain ⟨taken, hlater⟩ := ih _ hended
    exact ⟨taken, .comment rfl hlater⟩
  | status keyword text next ih =>
    obtain ⟨taken, hlater⟩ := ih _ hended
    exact ⟨taken, .status rfl hlater⟩
  | inquire keyword next ih =>
    rw [narrate]
    cases hcomposed : Line.compose "INQUIRE" (Utf8.encode keyword) with
    | error cause =>
      obtain ⟨taken, hlater⟩ := ih (.error (.ofFailure cause)) hended
      exact ⟨taken, .unasked hcomposed hlater⟩
    | ok line =>
      obtain ⟨outcome, between, hgather, hbetween⟩ := gather_of_ended [] hended
      obtain ⟨data, stop, hhears, hall, hdecides⟩ := decides_of_gather hgather
      obtain ⟨taken, hlater⟩ := ih outcome hbetween
      simp only [hgather]
      exact ⟨_, .inquire hcomposed hhears hall hdecides hlater⟩

theorem Listens.goes {program : Program α} {reader : LineReader} {taken : List (Reading Line)}
    {told : Narration α} (h : program.Listens reader taken told) :
    reader.Goes taken told.reader := by
  induction h with
  | done result reader => exact .nowhere reader
  | data _ ih => exact ih
  | comment _ _ ih => exact ih
  | status _ _ ih => exact ih
  | unasked _ _ ih => exact ih
  | inquire _ hhears _ _ _ ih => exact hhears.goes.append ih

end Program

/-! ### Conversations -/

variable {σ : Type}

namespace Conversation

/-- The next reading is a command, the readings behind it are taken by the inquiries of what runs on
it, and it makes this episode. -/
inductive Heeds (blueprint : Blueprint σ) (state : σ) (reader : LineReader) :
    Episode σ → List (Reading Line) → LineReader → Prop
  | intro {command : Line} {between rest : LineReader} {final : σ} {outcome : Outcome}
      {lead : List Line} {taken : List (Reading Line)}
      (hread : reader.readLine = (.value command, between))
      (hlistens : ((Action.ofCommand blueprint command).program state).Listens between taken
        ⟨.finished (final, outcome), lead, rest⟩) :
    Heeds blueprint state reader
      ⟨command, lead, outcome.closing, (Action.ofCommand blueprint command).calls final outcome,
        final⟩ (.value command :: taken) rest

/-- The episodes of a conversation up to its result, with all its readings in order. -/
inductive Attends (blueprint : Blueprint σ) : σ → LineReader →
    List (Episode σ) → List (Reading Line) → Except Failure Unit → LineReader → Prop
  /-- No command can be read. -/
  | unread {state : σ} {reader rest : LineReader} {cause : Failure}
      (hread : reader.readLine = (.error cause, rest)) :
    Attends blueprint state reader [] [.error cause] (.error cause) rest
  /-- The next command ends the conversation. -/
  | ends {state : σ} {reader rest : LineReader} {episode : Episode σ} {taken : List (Reading Line)}
      {result : Except Failure Unit} (h : Heeds blueprint state reader episode taken rest)
      (hresult : episode.result? = some result) :
    Attends blueprint state reader [episode] taken result rest
  | goesOn {state : σ} {reader between rest : LineReader} {episode : Episode σ}
      {episodes : List (Episode σ)} {taken later : List (Reading Line)}
      {result : Except Failure Unit} (h : Heeds blueprint state reader episode taken between)
      (hresult : episode.result? = none)
      (hlater : Attends blueprint episode.state between episodes later result rest) :
    Attends blueprint state reader (episode :: episodes) (taken ++ later) result rest

variable {blueprint : Blueprint σ} {state last : σ} {reader rest : LineReader}
  {episode : Episode σ} {episodes ending : List (Episode σ)} {taken : List (Reading Line)}
  {wire later final : Wire} {result : Except Failure Unit}

theorem Heeds.goes (h : Heeds blueprint state reader episode taken rest) :
    reader.Goes taken rest := by
  cases h with
  | intro hread hlistens => exact .further hread hlistens.goes

theorem Attends.goes (h : Attends blueprint state reader episodes taken result rest) :
    reader.Goes taken rest := by
  induction h with
  | unread hread => exact .further hread (.nowhere _)
  | ends h _ => exact h.goes
  | goesOn h _ _ ih => exact h.goes.append ih

/-- On input that ends, whoever performs a command heeds it. -/
theorem heeds_of_performs (h : Performs blueprint state wire episode later)
    (hended : wire.reader.inlet.ended = true) :
    ∃ taken, Heeds blueprint state wire.reader episode taken later.reader ∧
      later.reader.inlet.ended = true := by
  cases h with
  | @intro command reader rest final outcome lead outlet hread htells hsent =>
    have hreached := (LineReader.ended_of_readLine hended hread).2
    obtain ⟨taken, hlistens⟩ :=
      ((Action.ofCommand blueprint command).program state).exists_listens hreached
    obtain ⟨_, _, _, hfinished, -, hrest⟩ :=
      ((Action.ofCommand blueprint command).program state).narrate_of_ended hreached
    rw [htells] at hlistens hfinished
    obtain ⟨-, -, rfl⟩ := Program.Narration.mk.inj hfinished
    exact ⟨_, .intro hread hlistens, hrest⟩

theorem attends_of_stops (h : Stops blueprint state wire ending result final)
    (hended : wire.reader.inlet.ended = true) :
    ∃ taken, Attends blueprint state wire.reader ending taken result final.reader := by
  cases h with
  | unread hread => exact ⟨_, .unread hread⟩
  | episode hperforms hresult =>
    obtain ⟨taken, hheeds, -⟩ := heeds_of_performs hperforms hended
    exact ⟨taken, .ends hheeds hresult⟩

theorem attends_of_passes (h : Passes blueprint state wire episodes last later)
    (hstops : Stops blueprint last later ending result final)
    (hended : wire.reader.inlet.ended = true) :
    ∃ taken,
      Attends blueprint state wire.reader (episodes ++ ending) taken result final.reader := by
  induction h with
  | nothing => exact attends_of_stops hstops hended
  | episode hperforms hresult _ ih =>
    obtain ⟨taken, hheeds, hbetween⟩ := heeds_of_performs hperforms hended
    obtain ⟨more, hlater⟩ := ih hstops hbetween
    exact ⟨taken ++ more, .goesOn hheeds hresult hlater⟩

/-- A conversation on input that ends attends to its commands, runs what they call for and nothing
else, and writes the lines of its episodes behind the greeting. -/
theorem serve_attends (blueprint : Blueprint σ) (inlet : Inlet) {outlet : Outlet} {greeting : Bytes}
    (hended : inlet.ended = true) (hobliging : outlet.Obliging)
    (hgreeting : Line.encode "OK" (Utf8.encode blueprint.greeting) = .ok greeting) :
    let final := serve blueprint (.ofHalves inlet outlet)
    ∃ episodes taken result,
      Attends blueprint blueprint.start (.ofInlet inlet) episodes taken result final.wire.reader ∧
      final.phase = .ended result ∧ final.calls = episodes.flatMap Episode.calls ∧
      final.wire.outlet.octets =
        outlet.octets ++ greeting ++ (episodes.flatMap Episode.lines).flatMap Line.octets := by
  intro final
  obtain ⟨opened, hsent, hgreet⟩ := greet_delivers blueprint inlet hobliging hgreeting
  have hopened : opened.octets = outlet.octets ++ greeting := by
    rw [hsent.octets, List.flatMap_singleton, (Line.sendable_of_encode hgreeting).2]
    rfl
  obtain ⟨episodes, state, wire, ending, result, hpasses, hstops, hover, hcalls⟩ :=
    takeCommands_passes blueprint ⟨⟨.ofInlet inlet, opened⟩, blueprint.start, .ready, []⟩ rfl hended
      hsent.obliging
  obtain ⟨taken, hattends⟩ := attends_of_passes hpasses hstops hended
  have hfinal : final = _ := serve_eq blueprint _
  rw [hfinal, hgreet]
  refine ⟨episodes ++ ending, taken, result, hattends, hover, hcalls, ?_⟩
  rw [hstops.writes, hpasses.writes, List.flatMap_append, List.flatMap_append, ← List.append_assoc]
  exact congrArg (fun octets ↦ octets ++ _ ++ _) hopened

/-- An inquiry whose line fits writes that line and nothing else, and takes the `D` lines that come
and what comes behind them, whatever only informs between them and however the octets arrive. `END`
gives the payload, `CAN` and any other verb a fault, and what cannot be read ends the connection.
Whatever follows is left for the next reading. So the readings of a whole conversation, which are
what its octets say, are its commands and what their inquiries take, and nothing runs but what the
commands call for. -/
theorem inquiry_takes_answer :
    (∀ (α : Type) (keyword : String) (line : Bytes) (next : Except Rejection Bytes → Program α)
        (wire : Wire) (octets : Bytes),
      Line.encode "INQUIRE" (Utf8.encode keyword) = .ok line → wire.reader.Owes octets →
        wire.outlet.Obliging →
        ∃ data stop outcome later between left,
          (Program.inquire keyword next).run wire = (next outcome).run later ∧
          later.outlet.Obliging ∧ later.outlet.octets = wire.outlet.octets ++ line ∧
          (∀ line ∈ data, line.verb = "D") ∧
          Program.Decides (data.flatMap Line.parameters) stop outcome ∧
          ByteStream.Says octets data between ∧ later.reader.Owes left ∧
          ((stop.isStreamFailure = true ∧
              later.reader.inlet.failures < wire.reader.inlet.failures ∧
              ByteStream.reading left = ByteStream.reading between) ∨
            ByteStream.reading between = (stop.forgetLength, left))) ∧
      ∀ (σ : Type) (blueprint : Blueprint σ) (inlet : Inlet) (outlet : Outlet) (greeting : Bytes),
        inlet.Finite → outlet.Obliging →
        Line.encode "OK" (Utf8.encode blueprint.greeting) = .ok greeting →
          let final := serve blueprint (.ofHalves inlet outlet)
          ∃ episodes taken result,
            Attends blueprint blueprint.start (.ofInlet inlet) episodes taken result
              final.wire.reader ∧
            final.phase = .ended result ∧ final.calls = episodes.flatMap Episode.calls ∧
            final.wire.outlet.octets =
              outlet.octets ++ greeting ++ (episodes.flatMap Episode.lines).flatMap Line.octets ∧
            LineReader.readings taken.length (.ofInlet inlet) = taken ∧
            LineReader.heard taken =
              ByteStream.readings (LineReader.heard taken).length inlet.unread := by
  refine ⟨?_, ?_⟩
  · intro α keyword line next wire octets hline howes hobliging
    obtain ⟨data, stop, outcome, later, hrun, hkept, hwritten, hhears, hall, hdecides⟩ :=
      Program.run_inquire hline next wire howes.finite.ended hobliging
    obtain ⟨between, left, hsays, hlater, hstop⟩ := howes.hears_or_fails hhears
    exact ⟨data, stop, outcome, later, between, left, hrun, hkept, hwritten, hall, hdecides, hsays,
      hlater, hstop⟩
  · intro σ blueprint inlet outlet greeting hfinite hobliging hgreeting final
    obtain ⟨episodes, taken, result, hattends, hover, hcalls, hwritten⟩ :=
      serve_attends blueprint inlet hfinite.ended hobliging hgreeting
    have hreadings := hattends.goes.readings_eq
    have hheard := ((LineReader.owes_ofInlet hfinite).heard_readings taken.length).1
    rw [hreadings] at hheard
    exact ⟨episodes, taken, result, hattends, hover, hcalls, hwritten, hreadings, hheard⟩

/-- A client that is asked for something sends one line of data, cut in two, a comment, a `NOP` in
place of the end, and then its next command. -/
theorem inquiry_takes_answer_of_nop :
    let first := Utf8.encode "D a%0Ab\n"
    let note := Utf8.encode "# hold on\n"
    let swallowed := Utf8.encode "NOP\n"
    let later := Utf8.encode "GET x\n"
    let octets := first ++ (note ++ (swallowed ++ later))
    let inlet : Inlet := ⟨[.chunk (octets.take 5), .chunk (octets.drop 5)], true⟩
    let whole : Inlet := ⟨.chunk (Utf8.encode "ASK\n") :: inlet.arrivals, true⟩
    let next : Except Rejection Bytes → Program (Except Rejection Bytes) := .done
    let asking : Handler Unit := fun _ _ ↦ .inquire "KEY" fun outcome ↦
      .done ((), outcome.map fun _ ↦ ())
    let blueprint := (Blueprint.plain () "hello").withCommand "ASK" asking
    let final := serve blueprint (.ofHalves whole .fresh)
    (LineReader.ofInlet inlet).Owes octets ∧ whole.Finite ∧ Outlet.fresh.Obliging ∧
      (∃ rest outlet, (Program.inquire "KEY" next).run (.ofHalves inlet .fresh) =
          (.finished (.error (.report (Program.unexpected "NOP"))), ⟨rest, outlet⟩) ∧
        outlet.octets = Utf8.encode "INQUIRE KEY\n" ∧ rest.Owes later) ∧
      ∃ episodes taken result,
        Attends blueprint () (.ofInlet whole) episodes taken result final.wire.reader ∧
        final.phase = .ended result ∧ final.calls = episodes.flatMap Episode.calls ∧
        LineReader.heard taken = ByteStream.readings (LineReader.heard taken).length
          (Utf8.encode "ASK\n" ++ octets) := by
  intro first note swallowed later octets inlet whole next asking blueprint final
  have hfinite : inlet.Finite := ⟨rfl, by decide⟩
  have hwhole : whole.Finite := ⟨rfl, by decide⟩
  have hobliging : Outlet.fresh.Obliging := ⟨rfl, by decide, rfl⟩
  have howes : (LineReader.ofInlet inlet).Owes octets := LineReader.owes_ofInlet hfinite
  obtain ⟨hinquires, hserves⟩ := inquiry_takes_answer
  refine ⟨howes, hwhole, hobliging, ?_, ?_⟩
  · have hline : Line.encode "INQUIRE" (Utf8.encode "KEY") = .ok (Utf8.encode "INQUIRE KEY\n") := by
      decide
    obtain ⟨data, stop, outcome, ⟨rest, outlet⟩, between, left, hrun, -, hwritten, hall, hdecides,
      hsays, hrest, hstop⟩ :=
      hinquires _ "KEY" _ next (.ofHalves inlet .fresh) octets hline howes hobliging
    replace hstop : ByteStream.reading between = (stop.forgetLength, left) :=
      hstop.resolve_left fun h ↦ Nat.not_lt_zero _ h.2.1
    have hdata : ByteStream.reading octets =
        (.value ⟨"D", [0x61, 0x0A, 0x62]⟩, note ++ (swallowed ++ later)) :=
      @ByteStream.reading_of_encoded "D" [0x61, 0x0A, 0x62] first _ (by decide)
    have hskipped : ByteStream.reading (note ++ (swallowed ++ later)) =
        ByteStream.reading (swallowed ++ later) :=
      @ByteStream.reading_of_encoded "#" (Utf8.encode "hold on") note _ (by decide)
    have hswallowed : ByteStream.reading (swallowed ++ later) = (.value ⟨"NOP", []⟩, later) :=
      @ByteStream.reading_of_encoded "NOP" [] swallowed _ (by decide)
    rw [← hskipped] at hswallowed
    obtain ⟨rfl, rfl⟩ := hsays.unique (.line hdata (.nothing _)) hall
      (List.forall_mem_singleton.2 rfl)
      (fun line h ↦ hdecides.not_data ((congrArg Prod.fst hstop).symm.trans h))
      (fun line h ↦ by
        rw [hswallowed] at h
        rw [← Reading.value.inj h]
        decide)
    obtain ⟨hfound, rfl⟩ := Prod.mk.inj (hswallowed.symm.trans hstop)
    refine ⟨rest, outlet, hrun.trans ?_, hwritten, hrest⟩
    cases hdecides with
    | complete hverb | canceled hverb =>
      obtain rfl := Reading.value.inj hfound
      exact absurd hverb (by decide)
    | unexpected hverb =>
      obtain rfl := Reading.value.inj hfound
      rfl
    | unread cause => cases cause <;> exact nomatch hfound
  · obtain ⟨episodes, taken, result, hattends, hover, hcalls, -, -, hheard⟩ :=
      hserves Unit blueprint whole .fresh (Utf8.encode "OK hello\n") hwhole hobliging (by decide)
    exact ⟨episodes, taken, result, hattends, hover, hcalls, hheard⟩

end Conversation

end LineProtocol
