import LineProtocol.Proofs.Demonstration.Deeds

/-!
# What the demonstration remembers

The memory of a connection is told by the commands it has taken. `recalled` looks through them from
the latest one back to the latest reset for a description and for a terminal name. A command moves
it on by one step (`remember`), and so does every deed of the demonstration (`Deed.remembers`).

A conversation therefore finds at each of its commands what the ones before it have left, and
answers from that: `Answers` says how, and `serve_remembers` that it does so in every run. Lines
that an inquiry takes are no commands, whatever their verb.
-/

set_option autoImplicit false

namespace LineProtocol.Demonstration

/-! ### Looking back -/

/-- Whether the command is a reset that can be read. -/
def resets (command : Line) : Bool :=
  command.verb == "RESET" && command.text?.isSome

/-- The description that a command gives. -/
def description? (command : Line) : Option String :=
  if command.verb = "SETDESC" then command.text? else none

/-- The terminal name that a command gives. -/
def terminal? (command : Line) : Option String :=
  if command.verb = "OPTION" then
    (command.text?.bind Assignment.split).bind fun (key, value) ↦
      if key = "ttyname" then some value else none
  else none

/-- The commands after the latest reset, the latest first. -/
def sinceReset (commands : List Line) : List Line :=
  commands.reverse.takeWhile fun command ↦ !resets command

/-- What the commands have left: the latest description and the latest terminal name. -/
def recalled (commands : List Line) : Memory where
  description := ((sinceReset commands).findSome? description?).getD ""
  terminal := (sinceReset commands).findSome? terminal?

/-- What one command more leaves. -/
def remember (memory : Memory) (command : Line) : Memory :=
  if resets command then .blank
  else ⟨(description? command).getD memory.description, (terminal? command).or memory.terminal⟩

theorem recalled_concat (commands : List Line) (command : Line) :
    recalled (commands ++ [command]) = remember (recalled commands) command := by
  have hsince : sinceReset (commands ++ [command]) =
      if resets command then [] else command :: sinceReset commands := by
    rw [sinceReset, List.reverse_append, List.reverse_singleton, List.singleton_append,
      List.takeWhile_cons]
    cases resets command <;> rfl
  rw [recalled, remember, hsince]
  cases hresets : resets command with
  | true => rfl
  | false =>
    simp only [Bool.false_eq_true, if_false, List.findSome?_cons, recalled]
    cases description? command <;> cases terminal? command <;> rfl

theorem recalled_eq_foldl (commands : List Line) :
    recalled commands = commands.foldl remember .blank := by
  induction commands using List.reverseRecOn with
  | nil => rfl
  | append_singleton commands command ih =>
    rw [recalled_concat, ih, List.foldl_append, List.foldl_cons, List.foldl_nil]

/-- The reset takes the first description away and comes before the name. -/
example : recalled [⟨"SETDESC", Utf8.encode "a"⟩, ⟨"RESET", []⟩,
    ⟨"OPTION", Utf8.encode "ttyname=b"⟩] = ⟨"", some "b"⟩ := by decide +kernel

/-! ### Answering -/

/-- The lines are data and carry the payload. -/
structure Carries (lines : List Line) (payload : Bytes) : Prop where
  data : ∀ line ∈ lines, line.verb = "D" ∧ line.parameters ≠ []
  whole : lines.flatMap Line.parameters = payload

theorem carries_ofPayload (payload : Bytes) : Carries (Line.ofPayload payload) payload where
  data _ hmem := ⟨(Line.mem_ofPayload hmem).1, (Line.mem_ofPayload hmem).2.1⟩
  whole := Line.flatMap_parameters_ofPayload payload

/-- The episode gives the payload as data and ends well. -/
structure Returns (episode : Episode Memory) (payload : Bytes) : Prop where
  carries : Carries episode.lead payload
  closing : episode.closing = .ok ⟨"OK", []⟩

/-- How the demonstration answers, given its memory and what there is to read after the command. -/
structure Answers (memory : Memory) (reader : LineReader) (episode : Episode Memory) : Prop where
  description : episode.command.verb = "GETDESC" → episode.command.text?.isSome = true →
    Returns episode (Utf8.encode memory.description)
  terminal : episode.command.verb = "GETINFO" → episode.command.text? = some "ttyname" →
    match memory.terminal with
    | some name => Returns episode (Utf8.encode name)
    | none => episode.lead = [] ∧
      episode.closing = .ok ⟨"ERR", Utf8.encode "27 no ttyname set <demo>"⟩
  echo : ∀ parameters, episode.command.verb = "ECHO" → episode.command.text? = some parameters →
    Returns episode (Utf8.encode parameters)
  /-- If the inquiry was sent, the data up to an `END` comes back. -/
  ask : ∀ parameters data final rest, episode.command.verb = "ASK" →
    episode.command.text? = some parameters → inquiry parameters ∈ episode.lead →
    reader.Hears data (.value final) rest → (∀ line ∈ data, line.verb = "D") →
    final.verb = "END" →
      (∃ answer, episode.lead = [announcement parameters, inquiry parameters] ++ answer ∧
        Carries answer (data.flatMap Line.parameters)) ∧ episode.closing = .ok ⟨"OK", []⟩
  /-- No other command changes the memory. -/
  keeps : resets episode.command = false → description? episode.command = none →
    terminal? episode.command = none → episode.state = memory

variable {process : String} {memory final : Memory} {command : Line} {reader rest : LineReader}
  {outcome : Outcome} {lead : List Line}

theorem Idle.remember_eq (h : Idle command) (memory : Memory) :
    remember memory command = memory := by
  have hunassigned := h.unassigned
  have hunhandled := h.unhandled
  cases htext : command.text? with
  | none => simp [remember, resets, description?, terminal?, htext]
  | some parameters =>
    simp only [htext, Option.isSome_some, List.mem_cons, not_or, true_implies] at hunhandled
    have hterminal : terminal? command = none := by
      unfold terminal?
      split
      case isTrue hoption => rw [htext, Option.bind_some, hunassigned _ hoption htext]; rfl
      case isFalse => rfl
    simp [remember, resets, description?, hterminal, hunhandled]

/-- What a deed leaves is what its command leaves. -/
theorem Deed.remembers (h : Deed process memory command reader final outcome lead rest) :
    final = remember memory command := by
  cases h with
  | idle hidle => exact (hidle.remember_eq memory).symm
  | reset hverb htext => simp [remember, resets, hverb, htext]
  | option hverb htext hsplit =>
    simp only [remember, resets, description?, terminal?, hverb, htext, setOption]
    split_ifs <;> simp_all
  | describe hverb htext => simp [remember, resets, description?, terminal?, hverb, htext]
  | quote hverb | echo hverb | tell hverb | deny hverb =>
    simp [remember, resets, description?, terminal?, hverb]
  | ask hverb htext hasks =>
    have hkept : remember memory command = memory := by
      simp [remember, resets, description?, terminal?, hverb]
    rw [hkept]
    cases hasks <;> rfl

theorem returns_of_reply {episode : Episode Memory} {text : String}
    (hlead : episode.lead = Line.ofPayload (Utf8.encode text))
    (hclosing : episode.closing = .ok ⟨"OK", []⟩) : Returns episode (Utf8.encode text) :=
  ⟨hlead ▸ carries_ofPayload _, hclosing⟩

theorem Answers.of_silent {episode : Episode Memory}
    (hverb : episode.command.text?.isSome = true →
      episode.command.verb ∉ ["GETDESC", "ECHO", "ASK", "GETINFO"])
    (hstate : episode.state = remember memory episode.command) : Answers memory reader episode where
  description hgetdesc htext := absurd (by simp [hgetdesc]) (hverb htext)
  terminal hgetinfo htext := absurd (by simp [hgetinfo]) (hverb (by simp [htext]))
  echo _ hecho htext := absurd (by simp [hecho]) (hverb (by simp [htext]))
  ask _ _ _ _ hask htext := absurd (by simp [hask]) (hverb (by simp [htext]))
  keeps hresets hdescription hterminal := by
    simp [hstate, remember, hresets, hdescription, hterminal]

/-- The closing line without a terminal name. -/
theorem composed_unnamed : (fault .notFound "no ttyname set").composed =
    .ok ⟨"ERR", Utf8.encode "27 no ttyname set <demo>"⟩ := by
  decide +kernel

/-- Every deed answers from the memory that it finds. -/
theorem Deed.answers {episode : Episode Memory}
    (h : Deed process memory episode.command reader episode.state outcome episode.lead rest)
    (hclosing : episode.closing = outcome.closing) : Answers memory reader episode := by
  have hstate := h.remembers
  have hkeeps : resets episode.command = false → description? episode.command = none →
      terminal? episode.command = none → episode.state = memory := by
    intro hresets hdescription hterminal
    simp [hstate, remember, hresets, hdescription, hterminal]
  obtain ⟨command, lead, closing, calls, state⟩ := episode
  simp only at h hclosing hstate hkeeps
  subst hclosing
  cases h with
  | idle hidle => exact .of_silent (fun htext hmem ↦ hidle.unhandled htext (by grind)) hstate
  | reset hverb | option hverb | describe hverb => exact .of_silent (by simp [hverb]) hstate
  | quote hverb htext =>
    exact ⟨fun _ _ ↦ returns_of_reply rfl rfl, by simp [hverb], by simp [hverb], by simp [hverb],
      hkeeps⟩
  | echo hverb htext =>
    refine ⟨by simp [hverb], by simp [hverb], fun parameters _ hfound ↦ ?_, by simp [hverb], hkeeps⟩
    obtain rfl := Option.some.inj (htext.symm.trans hfound)
    exact returns_of_reply rfl rfl
  | tell hverb htext htold =>
    refine ⟨by simp [hverb], fun _ hfound ↦ ?_, by simp [hverb], by simp [hverb], hkeeps⟩
    obtain rfl := Option.some.inj (htext.symm.trans hfound)
    cases hterminal : memory.terminal with
    | some name =>
      obtain rfl : name = _ := by simpa [information, hterminal] using htold
      exact returns_of_reply rfl rfl
    | none => simp [information, hterminal] at htold
  | deny hverb htext htold =>
    refine ⟨by simp [hverb], fun _ hfound ↦ ?_, by simp [hverb], by simp [hverb], hkeeps⟩
    obtain rfl := Option.some.inj (htext.symm.trans hfound)
    cases hterminal : memory.terminal with
    | some name => simp [information, hterminal] at htold
    | none =>
      obtain rfl : fault .notFound "no ttyname set" = _ := by
        simpa [information, hterminal] using htold
      exact ⟨rfl, composed_unnamed⟩
  | ask hverb htext hasks =>
    refine ⟨by simp [hverb], by simp [hverb], by simp [hverb], ?_, hkeeps⟩
    intro parameters data last left _ hfound hsent hhears hdata hlast
    obtain rfl := Option.some.inj (htext.symm.trans hfound)
    have hgathered := Program.gather_of_answer [] hhears hdata hlast
    cases hasks with
    | overlong => exact absurd hsent List.not_mem_nil
    | refused hfits hgather => cases hgather.symm.trans hgathered
    | answered hfits hgather =>
      cases hgather.symm.trans hgathered
      exact ⟨⟨_, rfl, carries_ofPayload _⟩, rfl⟩

/-! ### Whole conversations -/

variable {greeting : String}

theorem remembers_of_performs {wire later : Wire} {episode : Episode Memory}
    (h : Performs (protocol process greeting) memory wire episode later) :
    episode.state = remember memory episode.command := by
  obtain ⟨reader, outcome, -, hdeed, -⟩ := exists_deed_of_performs h
  exact hdeed.remembers

/-- A conversation remembers what its commands have left. -/
theorem remembers_of_passes {wire final : Wire} {last : Memory} {episodes : List (Episode Memory)}
    (h : Passes (protocol process greeting) memory wire episodes last final) :
    last = (episodes.map Episode.command).foldl remember memory := by
  induction h with
  | nothing memory wire => rfl
  | episode hperforms hresult hlater ih =>
    rw [ih, remembers_of_performs hperforms]
    rfl

/-- A whole conversation of the demonstration, on a stream that ends and whose writes succeed. If
the greeting does not fit a line nothing is written. If it does, the conversation passes from one
episode to the next until it stops, and writes their lines after the greeting. Each episode finds
the memory that the commands before it have left, answers from it, and leaves what they and its own
command leave. -/
theorem serve_remembers (process greeting : String) (inlet : Inlet) (outlet : Outlet)
    (hended : inlet.ended = true) (hobliging : outlet.Obliging) :
    let blueprint := protocol process greeting
    let final := Conversation.serve blueprint (.ofHalves inlet outlet)
    (∀ cause, Line.encode "OK" (Utf8.encode greeting) = .error cause →
      final.phase = .ended (.error cause) ∧ final.wire.outlet.octets = outlet.octets) ∧
    ∀ first, Line.encode "OK" (Utf8.encode greeting) = .ok first →
      ∃ opened passed memory wire ending result,
        opened.octets = outlet.octets ++ first ∧
        Passes blueprint .blank ⟨.ofInlet inlet, opened⟩ passed memory wire ∧
        Stops blueprint memory wire ending result final.wire ∧
        final.phase = .ended result ∧
        final.wire.outlet.octets = outlet.octets ++ first ++
          ((passed ++ ending).flatMap Episode.lines).flatMap Line.octets ∧
        ∀ earlier episode later, passed ++ ending = earlier ++ episode :: later →
          ∃ before reader after,
            Passes blueprint .blank ⟨.ofInlet inlet, opened⟩ earlier
              (recalled (earlier.map Episode.command)) before ∧
            before.reader.readLine = (.value episode.command, reader) ∧
            Performs blueprint (recalled (earlier.map Episode.command)) before episode after ∧
            Answers (recalled (earlier.map Episode.command)) reader episode ∧
            episode.state = recalled ((earlier ++ [episode]).map Episode.command) := by
  intro blueprint final
  refine ⟨fun cause hgreeting ↦ ?_, fun first hgreeting ↦ ?_⟩
  · exact Conversation.serve_of_ungreeted blueprint inlet hobliging hgreeting
  obtain ⟨opened, passed, memory, wire, ending, result, hopened, hpasses, hstops, hphase⟩ :=
    Conversation.serve_passes blueprint inlet hended hobliging hgreeting
  refine ⟨opened, passed, memory, wire, ending, result, hopened, hpasses, hstops, hphase, ?_, ?_⟩
  · rw [hstops.writes, hpasses.writes, hopened, List.flatMap_append, List.flatMap_append,
      ← List.append_assoc]
  intro earlier episode later hsplit
  obtain ⟨found, before, after, hearlier, hperforms⟩ := hpasses.performs_of_split hstops hsplit
  have hfound : found = recalled (earlier.map Episode.command) := by
    rw [recalled_eq_foldl]
    exact remembers_of_passes hearlier
  subst hfound
  obtain ⟨reader, outcome, hread, hdeed, hclosing⟩ := exists_deed_of_performs hperforms
  refine ⟨before, reader, after, hearlier, hread, hperforms, hdeed.answers hclosing, ?_⟩
  rw [List.map_append, List.map_singleton, recalled_concat]
  exact hdeed.remembers

/-- A description that comes where an answer is due is lost, and the one before it is given back. -/
theorem serve_remembers_of_intrusion :
    let inlet : Inlet := ⟨[.chunk (Utf8.encode "SETDESC a\nASK\nSETD"),
      .chunk (Utf8.encode "ESC b\nGETDESC\n")], true⟩
    let blueprint := protocol "1" "hi"
    let final := Conversation.serve blueprint (.ofHalves inlet Conversation.reluctant)
    inlet.ended = true ∧ Conversation.reluctant.Obliging ∧
      ∃ opened passed memory wire ending result,
        opened.octets = Conversation.reluctant.octets ++ Utf8.encode "OK hi\n" ∧
        Passes blueprint .blank ⟨.ofInlet inlet, opened⟩ passed memory wire ∧
        Stops blueprint memory wire ending result final.wire ∧
        final.phase = .ended result ∧
        ∀ earlier episode later, passed ++ ending = earlier ++ episode :: later →
          ∃ (before : Wire) (reader : LineReader),
            before.reader.readLine = (.value episode.command, reader) ∧
            Answers (recalled (earlier.map Episode.command)) reader episode ∧
            episode.state = recalled ((earlier ++ [episode]).map Episode.command) := by
  intro inlet blueprint final
  have hobliging : Conversation.reluctant.Obliging := ⟨rfl, by decide, rfl⟩
  have hencode : Line.encode "OK" (Utf8.encode "hi") = .ok (Utf8.encode "OK hi\n") := by
    decide +kernel
  obtain ⟨opened, passed, memory, wire, ending, result, hopened, hpasses, hstops, hphase, -,
      hall⟩ := (serve_remembers "1" "hi" inlet Conversation.reluctant rfl hobliging).2 _ hencode
  refine ⟨rfl, hobliging, opened, passed, memory, wire, ending, result, hopened, hpasses, hstops,
    hphase, fun earlier episode later hsplit ↦ ?_⟩
  obtain ⟨before, reader, -, -, hread, -, hanswers, hstate⟩ := hall earlier episode later hsplit
  exact ⟨before, reader, hread, hanswers, hstate⟩

end LineProtocol.Demonstration
