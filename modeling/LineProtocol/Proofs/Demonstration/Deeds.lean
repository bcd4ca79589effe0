import LineProtocol.Demonstration
import LineProtocol.Proofs.Server.Inquiring

/-!
# What the demonstration does on a command

Five verbs of the demonstration have a handler, `OPTION` has its setter, `RESET` has neither, and
the other commands leave everything as it is. `Deed` says for each command what state and outcome
it comes to, which lines lead up to the closing one and what is left to read. Every episode of a
conversation is one of these deeds (`exists_deed_of_performs`).

Only `ASK` reads on. Its inquiry takes the data that comes and ends at the first other line or at a
line that cannot be read; `Asks` tells these apart, and the line on which the inquiry itself has no
room.
-/

set_option autoImplicit false

namespace LineProtocol

namespace Program

variable {reader between rest : LineReader} {data : List Line} (collected : Bytes)

/-- An inquiry takes data as it comes. -/
theorem gather_of_reads (hreads : reader.Reads data between)
    (hdata : ∀ line ∈ data, line.verb = "D") :
    gather collected reader = gather (collected ++ data.flatMap Line.parameters) between := by
  induction hreads generalizing collected with
  | nothing reader => rw [List.flatMap_nil, List.append_nil]
  | line hread hlater ih =>
    obtain ⟨hline, hrest⟩ := List.forall_mem_cons.1 hdata
    rw [gather, hread]
    simp only [hline, if_true]
    rw [ih _ hrest, List.flatMap_cons, List.append_assoc]

/-- The data up to an `END` is the answer. -/
theorem gather_of_answer {final : Line} (hhears : reader.Hears data (.value final) rest)
    (hdata : ∀ line ∈ data, line.verb = "D") (hfinal : final.verb = "END") :
    gather collected reader =
      (.answered (.ok (collected ++ data.flatMap Line.parameters)), rest) := by
  obtain ⟨between, hreads, hread⟩ := hhears
  rw [gather_of_reads collected hreads hdata, gather, hread]
  simp only [hfinal]
  rfl

/-- An inquiry without an answer was refused with a fault that has a line, or no further line
could be read. -/
theorem unanswered_of_gather {rejection : Rejection}
    (h : gather collected reader = (.answered (.error rejection), rest)) :
    (∃ fault line, rejection = .report fault ∧ fault.composed = .ok line) ∨
      ∃ cause data, rejection = .fatal cause ∧ (∀ line ∈ data, line.verb = "D") ∧
        reader.Hears data (.error cause) rest := by
  obtain ⟨data, stop, hhears, hdata, hdecides⟩ := decides_of_gather h
  cases hdecides with
  | canceled =>
    obtain ⟨line, hline⟩ := Fault.exists_composed_assuan .assuanCanceled "canceled"
    exact .inl ⟨_, line, rfl, hline⟩
  | unexpected =>
    obtain ⟨line, hline⟩ := Fault.exists_composed_assuan .assuanUnexpectedCommand _
    exact .inl ⟨_, line, rfl, hline⟩
  | unread cause => exact .inr ⟨cause, data, rfl, hdata, hhears⟩

end Program

namespace Demonstration

/-! ### Asking -/

/-- What the client is asked for. -/
def keyword (parameters : String) : String :=
  if parameters = "" then "VALUE" else parameters

/-- The status line that announces an inquiry. -/
def announcement (parameters : String) : Line :=
  ⟨"S", Utf8.encode ("INQUIRING " ++ keyword parameters)⟩

/-- The line of the inquiry. -/
def inquiry (parameters : String) : Line :=
  ⟨"INQUIRE", Utf8.encode (keyword parameters)⟩

theorem keyword_ne_empty (parameters : String) : keyword parameters ≠ "" := by
  unfold keyword
  split
  case isTrue => decide
  case isFalse hsome => exact hsome

/-- The length of the announcement: `S INQUIRING `, the keyword and the line feed. -/
def announcementLength (parameters : String) : Nat :=
  13 + Escape.encodedLength (Utf8.encode (keyword parameters))

theorem lengthOf_announcement (parameters : String) :
    Line.lengthOf (Utf8.encode "S") (announcement parameters).parameters =
      announcementLength parameters := by
  have hsplit : (announcement parameters).parameters =
      Utf8.encode "INQUIRING " ++ Utf8.encode (keyword parameters) := Utf8.encode_append _ _
  have hsome : (announcement parameters).parameters.isEmpty = false := by
    rw [hsplit]
    rfl
  have hlengths : (Utf8.encode "S").length = 1 ∧
      Escape.encodedLength (Utf8.encode "INQUIRING ") = 10 := by decide
  rw [Line.lengthOf, hsome, hsplit, Escape.encodedLength_append, announcementLength]
  simp only [Bool.false_eq_true, if_false]
  omega

/-- What an inquiry comes to: its announcement is too long, or it is refused, answered or not yet
answered. -/
inductive Asks (memory : Memory) (parameters : String) (reader : LineReader) :
    Program.Narration (Memory × Outcome) → Prop
  | overlong (hlong : Line.maxLength < announcementLength parameters) :
    Asks memory parameters reader
      ⟨.finished (memory, .error (.fatal (.lineTooLong (announcementLength parameters)
        Line.maxLength))), [], reader⟩
  | refused {rejection : Rejection} {rest : LineReader}
      (hfits : announcementLength parameters ≤ Line.maxLength)
      (hgather : Program.gather [] reader = (.answered (.error rejection), rest)) :
    Asks memory parameters reader
      ⟨.finished (memory, .error rejection), [announcement parameters, inquiry parameters], rest⟩
  | answered {answer : Bytes} {rest : LineReader}
      (hfits : announcementLength parameters ≤ Line.maxLength)
      (hgather : Program.gather [] reader = (.answered (.ok answer), rest)) :
    Asks memory parameters reader
      ⟨.finished (memory, .ok ()),
        [announcement parameters, inquiry parameters] ++ Line.ofPayload answer, rest⟩
  | waiting {collected : Bytes} {next : Except Rejection Bytes → Program (Memory × Outcome)}
      {lead : List Line} {rest : LineReader} :
    Asks memory parameters reader ⟨.suspended collected next, lead, rest⟩

/-- If there is room for the announcement, there is room for the inquiry. -/
theorem compose_inquiry {parameters : String}
    (h : announcementLength parameters ≤ Line.maxLength) :
    Line.compose "INQUIRE" (inquiry parameters).parameters = .ok (inquiry parameters) := by
  have hverb : Line.isVerb (Utf8.encode "INQUIRE") = true := by decide
  have hfits : Line.lengthOf (Utf8.encode "INQUIRE") (inquiry parameters).parameters ≤
      Line.maxLength := by
    have hlength : (Utf8.encode "INQUIRE").length = 7 := by decide
    have hshort := Line.lengthOf_le (Utf8.encode "INQUIRE") (inquiry parameters).parameters
    rw [announcementLength] at h
    simp only [inquiry] at hshort ⊢
    omega
  exact Line.compose_of_encode (Line.encode_eq_ok_iff.2 ⟨hverb, hfits, rfl⟩)

theorem compose_announcement {parameters : String}
    (h : announcementLength parameters ≤ Line.maxLength) :
    Line.compose "S" (announcement parameters).parameters = .ok (announcement parameters) := by
  have hverb : Line.isVerb (Utf8.encode "S") = true := by decide
  exact Line.compose_of_encode
    (Line.encode_eq_ok_iff.2 ⟨hverb, by rwa [lengthOf_announcement], rfl⟩)

theorem compose_overlong {parameters : String}
    (h : Line.maxLength < announcementLength parameters) :
    Line.compose "S" (announcement parameters).parameters =
      .error (.lineTooLong (announcementLength parameters) Line.maxLength) := by
  have hverb : Line.isVerb (Utf8.encode "S") = true := by decide
  rw [← lengthOf_announcement] at h
  rw [Line.compose, Line.encode, hverb, ← lengthOf_announcement]
  simp only [Bool.not_true, Bool.false_eq_true, if_false, if_pos h]
  rfl

theorem isLead_of_fits {parameters : String}
    (h : announcementLength parameters ≤ Line.maxLength) :
    ∀ line ∈ [announcement parameters, inquiry parameters], line.IsLead := by
  have hverb : upperCase "S" = "S" := by decide
  simp only [List.forall_mem_cons]
  exact ⟨.inl (Line.isInner_of_compose (.inr (.inr hverb)) (compose_announcement h)),
    .inr (Line.isInquiry_of_compose (compose_inquiry h)), List.forall_mem_nil _⟩

theorem asks_of_ask (memory : Memory) (parameters : String) (reader : LineReader) :
    Asks memory parameters reader ((ask memory parameters).narrate reader) := by
  have htext : (if keyword parameters = "" then "INQUIRING"
      else "INQUIRING" ++ " " ++ keyword parameters) = "INQUIRING " ++ keyword parameters := by
    rw [if_neg (keyword_ne_empty parameters)]
    rfl
  have hkeyword : (if parameters = "" then "VALUE" else parameters) = keyword parameters := rfl
  simp only [ask, Program.narrate, hkeyword, htext]
  rcases Nat.lt_or_ge Line.maxLength (announcementLength parameters) with hlong | hfits
  · rw [show Line.compose "S" (Utf8.encode ("INQUIRING " ++ keyword parameters)) = _ from
      compose_overlong hlong]
    exact .overlong hlong
  · have hannounced := compose_announcement hfits
    have hinquired := compose_inquiry hfits
    rw [show Line.compose "S" (Utf8.encode ("INQUIRING " ++ keyword parameters)) = _ from
      hannounced]
    simp only [Except.map, Program.narrate]
    rw [show Line.compose "INQUIRE" (Utf8.encode (keyword parameters)) = _ from hinquired]
    rcases hgather : Program.gather [] reader with ⟨(rejection | answer) | collected, rest⟩
    · exact .refused hfits hgather
    · show Asks memory parameters reader ⟨.finished (memory, .ok ()), [announcement parameters] ++
        ([inquiry parameters] ++ (Line.ofPayload answer ++ [])), rest⟩
      rw [List.append_nil]
      exact .answered hfits hgather
    · exact .waiting

/-! ### Deeds -/

/-- What `GETINFO` tells, or the fault it reports. -/
def information (process : String) (memory : Memory) (item : String) : Except Fault String :=
  if item = "version" then .ok version
  else if item = "pid" then .ok process
  else if item = "ttyname" then
    memory.terminal.elim (.error (fault .notFound "no ttyname set")) .ok
  else .error (.assuan .assuanParameter "unknown GETINFO item")

/-- A command that leaves the memory as it is and sends no data: it is none of those with a
handler, no reset, and no option that can be split, unless its parameters are no text. -/
structure Idle (command : Line) : Prop where
  unhandled : command.text?.isSome = true →
    command.verb ∉ ["RESET", "SETDESC", "GETDESC", "ECHO", "ASK", "GETINFO"]
  unassigned : ∀ parameters, command.verb = "OPTION" → command.text? = some parameters →
    Assignment.split parameters = none

/-- What the demonstration does on a command. -/
inductive Deed (process : String) (memory : Memory) (command : Line) (reader : LineReader) :
    Memory → Outcome → List Line → LineReader → Prop
  | idle {outcome : Outcome} {lead : List Line} {closing : Line} (hidle : Idle command)
      (hclosing : outcome.closing = .ok closing) (hlead : ∀ line ∈ lead, line.IsLead) :
    Deed process memory command reader memory outcome lead reader
  | reset {parameters : String} (hverb : command.verb = "RESET")
      (htext : command.text? = some parameters) :
    Deed process memory command reader .blank (.ok ()) [] reader
  | option {parameters key value : String} (hverb : command.verb = "OPTION")
      (htext : command.text? = some parameters)
      (hsplit : Assignment.split parameters = some (key, value)) :
    Deed process memory command reader (setOption memory key value).1
      (setOption memory key value).2 [] reader
  | describe {parameters : String} (hverb : command.verb = "SETDESC")
      (htext : command.text? = some parameters) :
    Deed process memory command reader { memory with description := parameters } (.ok ()) [] reader
  | quote {parameters : String} (hverb : command.verb = "GETDESC")
      (htext : command.text? = some parameters) :
    Deed process memory command reader memory (.ok ())
      (Line.ofPayload (Utf8.encode memory.description)) reader
  | echo {parameters : String} (hverb : command.verb = "ECHO")
      (htext : command.text? = some parameters) :
    Deed process memory command reader memory (.ok ())
      (Line.ofPayload (Utf8.encode parameters)) reader
  | tell {parameters text : String} (hverb : command.verb = "GETINFO")
      (htext : command.text? = some parameters)
      (htold : information process memory parameters = .ok text) :
    Deed process memory command reader memory (.ok ()) (Line.ofPayload (Utf8.encode text)) reader
  | deny {parameters : String} {reported : Fault} (hverb : command.verb = "GETINFO")
      (htext : command.text? = some parameters)
      (htold : information process memory parameters = .error reported) :
    Deed process memory command reader memory (.error (.report reported)) [] reader
  | ask {parameters : String} {final : Memory} {outcome : Outcome} {lead : List Line}
      {rest : LineReader} (hverb : command.verb = "ASK")
      (htext : command.text? = some parameters)
      (hasks : Asks memory parameters reader ⟨.finished (final, outcome), lead, rest⟩) :
    Deed process memory command reader final outcome lead rest

variable {process greeting : String}

/-- The registered commands. -/
theorem entries_protocol (process greeting : String) :
    (protocol process greeting).commands.entries =
      [("ASK", ⟨"ASK", ask⟩), ("ECHO", ⟨"ECHO", echo⟩), ("GETDESC", ⟨"GETDESC", getDescription⟩),
        ("GETINFO", ⟨"GETINFO", getInfo process⟩), ("SETDESC", ⟨"SETDESC", setDescription⟩)] :=
  rfl

/-- The handler of a verb. -/
inductive Registered (process : String) : String → Command Memory → Prop
  | ask : Registered process "ASK" ⟨"ASK", Demonstration.ask⟩
  | echo : Registered process "ECHO" ⟨"ECHO", Demonstration.echo⟩
  | getDescription : Registered process "GETDESC" ⟨"GETDESC", Demonstration.getDescription⟩
  | getInfo : Registered process "GETINFO" ⟨"GETINFO", Demonstration.getInfo process⟩
  | setDescription : Registered process "SETDESC" ⟨"SETDESC", Demonstration.setDescription⟩

theorem registered_of_find? {verb : String} {performed : Command Memory}
    (h : (protocol process greeting).commands.find? verb = some performed) :
    Registered process verb performed := by
  obtain ⟨before, after, hsplit, -⟩ := List.lookup_eq_some_iff.1 h
  have hmem : (verb, performed) ∈ (protocol process greeting).commands.entries := by
    rw [hsplit]
    exact List.mem_append_right before List.mem_cons_self
  simp only [entries_protocol, List.mem_cons, Prod.mk.injEq, List.not_mem_nil, or_false] at hmem
  rcases hmem with ⟨rfl, rfl⟩ | ⟨rfl, rfl⟩ | ⟨rfl, rfl⟩ | ⟨rfl, rfl⟩ | ⟨rfl, rfl⟩
  · exact .ask
  · exact .echo
  · exact .getDescription
  · exact .getInfo
  · exact .setDescription

/-- What `HELP` recites has room. -/
theorem exists_compose_of_recites {text : String}
    (h : Conversation.Recites (protocol process greeting) text) :
    ∃ line, Line.compose "#" (Utf8.encode text) = .ok line := by
  -- neither the verbs nor the help depend on the process or the greeting
  have hall : ∀ text ∈ Conversation.verbs (protocol "" "") ++
      (protocol "" "").help.entries.flatMap Prod.snd,
      (Line.compose "#" (Utf8.encode text)).isOk = true := by decide
  have hmem : text ∈ Conversation.verbs (protocol "" "") ++
      (protocol "" "").help.entries.flatMap Prod.snd := by
    rcases h with hverb | ⟨topic, lines, hfind, hmem⟩
    · exact List.mem_append_left _ hverb
    · obtain ⟨before, after, hsplit, -⟩ := List.lookup_eq_some_iff.1 hfind
      refine List.mem_append_right _ (List.mem_flatMap.2 ⟨(topic, lines), ?_, hmem⟩)
      show (topic, lines) ∈ (protocol process greeting).help.entries
      rw [hsplit]
      exact List.mem_append_right before List.mem_cons_self
  have hok := hall text hmem
  cases hcompose : Line.compose "#" (Utf8.encode text) with
  | ok line => exact ⟨line, rfl⟩
  | error cause =>
    rw [hcompose] at hok
    exact nomatch hok

theorem narrate_recital {lines : List String} (memory : Memory) (reader : LineReader)
    (h : ∀ text ∈ lines, ∃ line, Line.compose "#" (Utf8.encode text) = .ok line) :
    ∃ lead, (Action.recital memory lines).narrate reader =
        ⟨.finished (memory, .ok ()), lead, reader⟩ ∧ ∀ line ∈ lead, line.IsLead := by
  have hverb : upperCase "#" = "#" := by decide
  induction lines with
  | nil => exact ⟨[], rfl, List.forall_mem_nil _⟩
  | cons text later ih =>
    obtain ⟨⟨line, hline⟩, hrest⟩ := List.forall_mem_cons.1 h
    obtain ⟨lead, hlater, hlead⟩ := ih hrest
    refine ⟨line :: lead, ?_, List.forall_mem_cons.2 ⟨?_, hlead⟩⟩
    · rw [Action.recital, Program.narrate, hline]
      exact congrArg (Program.Narration.ledBy [line]) hlater
    · exact .inl (Line.isInner_of_compose (.inr (.inl hverb)) hline)

theorem narrate_reply (memory : Memory) (text : String) (reader : LineReader) :
    (reply memory text).narrate reader =
      ⟨.finished (memory, .ok ()), Line.ofPayload (Utf8.encode text), reader⟩ := by
  simp only [reply, Program.narrate, conclude, Program.Narration.ledBy, List.append_nil]

theorem narrate_getInfo (process : String) (memory : Memory) (item : String) (reader : LineReader) :
    (getInfo process memory item).narrate reader =
      match information process memory item with
      | .ok text => ⟨.finished (memory, .ok ()), Line.ofPayload (Utf8.encode text), reader⟩
      | .error reported => ⟨.finished (memory, .error (.report reported)), [], reader⟩ := by
  unfold getInfo information
  split_ifs with hversion hpid hterminal
  · exact narrate_reply memory version reader
  · exact narrate_reply memory process reader
  · cases memory.terminal with
    | some name => exact narrate_reply memory name reader
    | none => rfl
  · rfl

theorem idle_of_ignores {command : Line}
    (h : Action.Ignores (protocol process greeting) command) : Idle command := by
  rcases h with hnone | ⟨parameters, htext, hverb | ⟨hoption, hsplit | hsetter⟩ | ⟨hown, hfind⟩⟩
  · exact ⟨by simp [hnone], by simp [hnone]⟩
  · exact ⟨fun _ ↦ by grind, fun _ ↦ by grind⟩
  · refine ⟨fun _ ↦ by simp [hoption], fun found _ hfound ↦ ?_⟩
    obtain rfl := Option.some.inj (htext.symm.trans hfound)
    exact hsplit
  · cases hsetter
  · have hregistered : ∀ verb ∈ ["SETDESC", "GETDESC", "ECHO", "ASK", "GETINFO"],
        ((protocol process greeting).commands.find? verb).isSome = true := by
      simp only [List.forall_mem_cons]
      exact ⟨rfl, rfl, rfl, rfl, rfl, List.forall_mem_nil _⟩
    refine ⟨fun _ hmem ↦ ?_, fun _ hoption ↦ absurd (by simp [hoption, Conversation.builtins]) hown⟩
    rcases List.mem_cons.1 hmem with hreset | hmem
    · exact hown (by simp [hreset, Conversation.builtins])
    · have hsome := hregistered _ hmem
      rw [hfind] at hsome
      cases hsome

/-- A registered command that comes to its end is a deed. -/
theorem deed_of_registered {memory final : Memory} {command : Line} {parameters : String}
    {performed : Command Memory} {reader rest : LineReader} {outcome : Outcome} {lead : List Line}
    (h : Registered process command.verb performed) (htext : command.text? = some parameters)
    (htells : (performed.handler memory parameters).narrate reader =
      ⟨.finished (final, outcome), lead, rest⟩) :
    Deed process memory command reader final outcome lead rest := by
  generalize hverb : command.verb = verb at h
  cases h with
  | ask =>
    have hasks := asks_of_ask memory parameters reader
    rw [show (ask memory parameters).narrate reader = _ from htells] at hasks
    exact .ask hverb htext hasks
  | echo =>
    cases (narrate_reply memory parameters reader).symm.trans htells
    exact .echo hverb htext
  | getDescription =>
    cases (narrate_reply memory memory.description reader).symm.trans htells
    exact .quote hverb htext
  | getInfo =>
    have htold := (narrate_getInfo process memory parameters reader).symm.trans htells
    cases hinformation : information process memory parameters with
    | ok text =>
      rw [hinformation] at htold
      cases htold
      exact .tell hverb htext hinformation
    | error reported =>
      rw [hinformation] at htold
      cases htold
      exact .deny hverb htext hinformation
  | setDescription =>
    cases htells
    exact .describe hverb htext

/-- Every episode of a conversation is a deed, closed as it came out. -/
theorem exists_deed_of_performs {memory : Memory} {wire later : Wire} {episode : Episode Memory}
    (h : Performs (protocol process greeting) memory wire episode later) :
    ∃ reader outcome, wire.reader.readLine = (.value episode.command, reader) ∧
      Deed process memory episode.command reader episode.state outcome episode.lead later.reader ∧
      episode.closing = outcome.closing := by
  cases h with
  | @intro command reader rest final outcome lead outlet hread htells hsent =>
    refine ⟨reader, outcome, hread, ?_, rfl⟩
    simp only
    have hsuits := Action.suits_ofCommand (protocol process greeting) command
    have hoffers := Action.offers_ofCommand (protocol process greeting) command
    generalize Action.ofCommand (protocol process greeting) command = action
      at htells hsuits hoffers
    cases hsuits with
    | idle hidle hignores =>
      have hquiet := idle_of_ignores hignores
      cases action with
      | refuse reported =>
        cases htells
        obtain ⟨line, hline⟩ := hoffers
        exact .idle hquiet hline (List.forall_mem_nil _)
      | acknowledge =>
        cases htells
        exact .idle hquiet rfl (List.forall_mem_nil _)
      | inform lines =>
        obtain ⟨spoken, hspoken, hlead⟩ := narrate_recital memory reader
          fun text hmem ↦ exists_compose_of_recites (hoffers.2 text hmem)
        cases hspoken.symm.trans htells
        exact .idle hquiet rfl hlead
      | leave | restore | assign | perform => exact hidle.elim
    | leave parameters htext hverb =>
      cases htells
      have hignores : Action.Ignores (protocol process greeting) command :=
        .inr ⟨parameters, htext, .inl (by simp [hverb])⟩
      exact .idle (idle_of_ignores hignores) rfl (List.forall_mem_nil _)
    | restore parameters htext hverb hfind =>
      cases htells
      exact .reset hverb htext
    | assign parameters key value setter htext hverb hsplit hsetter =>
      obtain rfl := Option.some.inj hsetter
      obtain ⟨hset, rfl, rfl⟩ := Program.Narration.mk.inj htells
      have hdeed : Deed process memory command reader (setOption memory key value).1
          (setOption memory key value).2 [] reader := .option hverb htext hsplit
      rwa [show setOption memory key value = _ from Program.Run.finished.inj hset] at hdeed
    | perform parameters given performed htext hverb hfind hgiven =>
      have hreset : command.verb ≠ "RESET" := by
        intro hverb
        rw [hverb] at hfind
        exact nomatch hfind
      rw [if_neg hreset] at hgiven
      subst hgiven
      exact deed_of_registered (registered_of_find? hfind) htext htells

end Demonstration

end LineProtocol
