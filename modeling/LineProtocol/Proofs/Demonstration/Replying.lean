import LineProtocol.Proofs.Demonstration.Deeds

/-!
# Whether the demonstration always replies

Every command gets its closing line and the conversation goes on, but for one slip: `ASK` repeats
the keyword on a status line that is longer than the command, and that line is not shortened. A
keyword for which it has no room ends the conversation in place of a reply (`Overtaxes`).

`Excuses` lists the endings that are the client's own doing: a goodbye, a command that cannot be
read, and an answer to an inquiry that cannot be read. `serve_replies` says that there are no others
beside the slip, and `not_excused_of_drawl` that the slip is none of them.
-/

set_option autoImplicit false

namespace LineProtocol.Demonstration

variable {process greeting : String} {memory final : Memory} {command : Line}
  {reader rest : LineReader} {outcome : Outcome} {lead : List Line}

/-! ### Single commands -/

/-- The faults of the demonstration always have a line. -/
theorem exists_composed_fault (code : Fault.Code) (message : String) :
    ∃ line, (fault code message).composed = .ok line := by
  have hname : (fault code message).name.toList.length ≤ 60 := by
    simp only [fault, Fault.make]
    decide
  exact Fault.exists_composed _ hname

/-- What can keep the demonstration from closing a command. -/
inductive Breaks (command : Line) (reader : LineReader) : Failure → Prop
  | unanswered {cause : Failure} {data : List Line} {rest : LineReader}
      (hverb : command.verb = "ASK") (hdata : ∀ line ∈ data, line.verb = "D")
      (hhears : reader.Hears data (.error cause) rest) : Breaks command reader cause
  | overlong {parameters : String} (hverb : command.verb = "ASK")
      (htext : command.text? = some parameters)
      (hlong : Line.maxLength < announcementLength parameters) :
    Breaks command reader (.lineTooLong (announcementLength parameters) Line.maxLength)

theorem Deed.leads (h : Deed process memory command reader final outcome lead rest) :
    ∀ line ∈ lead, line.IsLead := by
  have hreply : ∀ text, ∀ line ∈ Line.ofPayload (Utf8.encode text), line.IsLead :=
    fun text line hmem ↦ .inl (Line.isData_of_mem_ofPayload hmem).isInner
  cases h with
  | idle hidle hclosing hlead => exact hlead
  | reset | option | describe | deny => exact List.forall_mem_nil _
  | quote | echo | tell => exact hreply _
  | ask hverb htext hasks =>
    cases hasks with
    | overlong => exact List.forall_mem_nil _
    | refused hfits => exact isLead_of_fits hfits
    | answered hfits =>
      refine List.forall_mem_append.2 ⟨isLead_of_fits hfits, fun line hmem ↦ ?_⟩
      exact .inl (Line.isData_of_mem_ofPayload hmem).isInner

theorem exists_composed_information {item : String} {reported : Fault}
    (h : information process memory item = .error reported) :
    ∃ line, reported.composed = .ok line := by
  unfold information at h
  split_ifs at h
  · cases hterminal : memory.terminal with
    | some name => simp [hterminal] at h
    | none =>
      obtain rfl : fault .notFound "no ttyname set" = reported := by simpa [hterminal] using h
      exact exists_composed_fault _ _
  · obtain rfl := Except.error.inj h
    exact Fault.exists_composed_assuan _ _

theorem exists_closing_setOption (memory : Memory) (key value : String) :
    ∃ line, (setOption memory key value).2.closing = .ok line := by
  unfold setOption
  split_ifs
  · exact ⟨_, rfl⟩
  · exact ⟨_, rfl⟩
  · exact exists_composed_fault _ _

/-- A deed is closed with a line, or something keeps it from being closed. -/
theorem Deed.closes (h : Deed process memory command reader final outcome lead rest) :
    (∃ line, outcome.closing = .ok line) ∨
      ∃ cause, outcome.closing = .error cause ∧ Breaks command reader cause := by
  cases h with
  | idle hidle hclosing => exact .inl ⟨_, hclosing⟩
  | reset | describe | quote | echo | tell => exact .inl ⟨_, rfl⟩
  | option => exact .inl (exists_closing_setOption _ _ _)
  | deny hverb htext htold => exact .inl (exists_composed_information htold)
  | ask hverb htext hasks =>
    cases hasks with
    | overlong hlong => exact .inr ⟨_, rfl, .overlong hverb htext hlong⟩
    | answered => exact .inl ⟨_, rfl⟩
    | refused hfits hgather =>
      rcases Program.unanswered_of_gather [] hgather with
        ⟨reported, line, rfl, hline⟩ | ⟨cause, data, rfl, hdata, hhears⟩
      · exact .inl ⟨line, hline⟩
      · exact .inr ⟨cause, rfl, .unanswered hverb hdata hhears⟩

/-! ### Whole conversations -/

/-- The episode has a reply: lines that lead up to it, and one `OK` or `ERR`. -/
structure Replied (episode : Episode Memory) : Prop where
  lead : ∀ line ∈ episode.lead, line.IsLead
  closing : ∃ line, episode.closing = .ok line ∧ line.IsClosing

/-- The endings of a conversation in front of a wire that are the client's own doing. -/
inductive Excuses (wire : Wire) : Except Failure Unit → Prop
  | farewell {command : Line} {reader : LineReader}
      (hread : wire.reader.readLine = (.value command, reader)) (hbye : command.IsFarewell) :
    Excuses wire (.ok ())
  | unread {cause : Failure} {reader : LineReader}
      (hread : wire.reader.readLine = (.error cause, reader)) : Excuses wire (.error cause)
  /-- The answer to an inquiry cannot be read. -/
  | unanswered {command : Line} {reader rest : LineReader} {cause : Failure} {data : List Line}
      (hread : wire.reader.readLine = (.value command, reader)) (hverb : command.verb = "ASK")
      (hdata : ∀ line ∈ data, line.verb = "D") (hhears : reader.Hears data (.error cause) rest) :
    Excuses wire (.error cause)

/-- The next command is an `ASK` whose keyword has no room on the status line. -/
def Overtaxes (wire : Wire) (parameters : String) : Prop :=
  ∃ command reader, wire.reader.readLine = (.value command, reader) ∧ command.verb = "ASK" ∧
    command.text? = some parameters ∧ Line.maxLength < announcementLength parameters

theorem Replied.of_performs {wire later : Wire} {episode : Episode Memory} {line : Line}
    (h : Performs (protocol process greeting) memory wire episode later)
    (hline : episode.closing = .ok line) : Replied episode := by
  obtain ⟨reader, outcome, -, hdeed, hclosing⟩ := exists_deed_of_performs h
  exact ⟨hdeed.leads, line, hline, Outcome.isClosing_of_closing (hclosing.symm.trans hline)⟩

theorem replied_of_passes {wire later : Wire} {last : Memory} {episodes : List (Episode Memory)}
    (h : Passes (protocol process greeting) memory wire episodes last later) :
    ∀ episode ∈ episodes, Replied episode := by
  induction h with
  | nothing => exact List.forall_mem_nil _
  | @episode memory last wire between later episode episodes hperforms hresult hlater ih =>
    refine List.forall_mem_cons.2 ⟨?_, ih⟩
    cases hclosing : episode.closing with
    | ok line => exact .of_performs hperforms hclosing
    | error cause =>
      rw [Episode.result?_of_error hclosing] at hresult
      cases hresult

/-- A conversation stops by the client's own doing, or over a keyword that is too long. -/
theorem excuses_or_overtaxes_of_stops {wire later : Wire} {ending : List (Episode Memory)}
    {result : Except Failure Unit}
    (h : Stops (protocol process greeting) memory wire ending result later) :
    Excuses wire result ∨ ∃ parameters, Overtaxes wire parameters ∧
      result = .error (.lineTooLong (announcementLength parameters) Line.maxLength) := by
  cases h with
  | unread hread => exact .inl (.unread hread)
  | @episode _ episode _ hperforms hresult =>
    obtain ⟨reader, outcome, hread, hdeed, hclosing⟩ := exists_deed_of_performs hperforms
    rcases hdeed.closes with ⟨line, hline⟩ | ⟨cause, hcause, hbreaks⟩
    · rw [Episode.result?, hclosing, hline] at hresult
      simp only at hresult
      split at hresult
      case isTrue hbye =>
        obtain rfl := Option.some.inj hresult
        exact .inl (.farewell hread (by simpa [Episode.isFarewell, Line.IsFarewell] using hbye))
      case isFalse => cases hresult
    · rw [Episode.result?_of_error (hclosing.trans hcause)] at hresult
      obtain rfl := Option.some.inj hresult
      cases hbreaks with
      | unanswered hverb hdata hhears => exact .inl (.unanswered hread hverb hdata hhears)
      | overlong hverb htext hlong =>
        exact .inr ⟨_, ⟨_, _, hread, hverb, htext, hlong⟩, rfl⟩

/-- A conversation of the demonstration, on a stream that ends and takes what is written and with a
greeting that fits a line. Every command before the last gets a reply, and so does a goodbye. The
conversation ends by the client's own doing, or with an `ASK` whose keyword is too long. -/
theorem serve_replies (process greeting : String) (inlet : Inlet) (outlet : Outlet) {first : Bytes}
    (hended : inlet.ended = true) (hobliging : outlet.Obliging)
    (hgreeting : Line.encode "OK" (Utf8.encode greeting) = .ok first) :
    let blueprint := protocol process greeting
    let final := Conversation.serve blueprint (.ofHalves inlet outlet)
    ∃ opened passed memory wire ending result,
      opened.octets = outlet.octets ++ first ∧
      Passes blueprint .blank ⟨.ofInlet inlet, opened⟩ passed memory wire ∧
      Stops blueprint memory wire ending result final.wire ∧ final.phase = .ended result ∧
      (∀ episode ∈ passed, Replied episode) ∧
      (result = .ok () → ∀ episode ∈ ending, Replied episode) ∧
      (Excuses wire result ∨ ∃ parameters, Overtaxes wire parameters ∧
        result = .error (.lineTooLong (announcementLength parameters) Line.maxLength)) := by
  intro blueprint final
  obtain ⟨opened, passed, memory, wire, ending, result, hopened, hpasses, hstops, hphase⟩ :=
    Conversation.serve_passes blueprint inlet hended hobliging hgreeting
  refine ⟨opened, passed, memory, wire, ending, result, hopened, hpasses, hstops, hphase,
    replied_of_passes hpasses, ?_, excuses_or_overtaxes_of_stops hstops⟩
  rintro rfl
  cases hstops with
  | @episode _ last _ hperforms hresult =>
    refine List.forall_mem_singleton.2 ?_
    cases hclosing : last.closing with
    | ok line => exact .of_performs hperforms hclosing
    | error cause =>
      rw [Episode.result?_of_error hclosing] at hresult
      cases hresult

/-- A client that asks for a value and goes away without an answer. -/
theorem serve_replies_of_silence :
    let inlet : Inlet := ⟨[.chunk (Utf8.encode "ECHO a\nASK\nD b\n")], true⟩
    let blueprint := protocol "1" "hi"
    let final := Conversation.serve blueprint (.ofHalves inlet Conversation.reluctant)
    inlet.ended = true ∧ Conversation.reluctant.Obliging ∧
      Line.encode "OK" (Utf8.encode "hi") = .ok (Utf8.encode "OK hi\n") ∧
      ∃ opened passed memory wire ending result,
        opened.octets = Conversation.reluctant.octets ++ Utf8.encode "OK hi\n" ∧
        Passes blueprint .blank ⟨.ofInlet inlet, opened⟩ passed memory wire ∧
        Stops blueprint memory wire ending result final.wire ∧ final.phase = .ended result ∧
        (∀ episode ∈ passed, Replied episode) ∧
        (result = .ok () → ∀ episode ∈ ending, Replied episode) ∧
        (Excuses wire result ∨ ∃ parameters, Overtaxes wire parameters ∧
          result = .error (.lineTooLong (announcementLength parameters) Line.maxLength)) := by
  have hobliging : Conversation.reluctant.Obliging := ⟨rfl, by decide, rfl⟩
  have hgreeting : Line.encode "OK" (Utf8.encode "hi") = .ok (Utf8.encode "OK hi\n") := by
    decide +kernel
  exact ⟨rfl, hobliging, hgreeting, serve_replies "1" "hi" _ _ rfl hobliging hgreeting⟩

/-! ### A keyword that is too long -/

/-- What the client sends: it asks for a keyword, sends another command and says goodbye. -/
def demanding (parameters : String) : List Line :=
  [⟨"ASK", Utf8.encode parameters⟩, ⟨"ECHO", Utf8.encode "hi"⟩, ⟨"BYE", []⟩]

section

variable {parameters : String}

/-- The command is read if it is not too long itself. -/
theorem readLine_demanding
    (hroom : 5 + Escape.encodedLength (Utf8.encode parameters) ≤ Line.maxLength) :
    (LineReader.facing true (demanding parameters)).readLine =
      (.value ⟨"ASK", Utf8.encode parameters⟩,
        .facing true [⟨"ECHO", Utf8.encode "hi"⟩, ⟨"BYE", []⟩]) := by
  have hverb : Line.isVerb (Utf8.encode "ASK") = true ∧ (Utf8.encode "ASK").length = 3 ∧
    upperCase "ASK" = "ASK" := by decide
  have hlength : Line.lengthOf (Utf8.encode "ASK") (Utf8.encode parameters) ≤ Line.maxLength := by
    have hshort := Line.lengthOf_le (Utf8.encode "ASK") (Utf8.encode parameters)
    omega
  have htells : (Line.mk "ASK" (Utf8.encode parameters)).onlyInforms = false :=
    Line.onlyInforms_of_verb (show _ = "ASK" from rfl) (by decide) (by decide)
  exact LineReader.readLine_facing_of_tells true _ ⟨hverb.1, hverb.2.2, hlength⟩ htells

/-- It is not closed. -/
theorem closing_of_demanding {wire later : Wire} {episode : Episode Memory}
    (hroom : 5 + Escape.encodedLength (Utf8.encode parameters) ≤ Line.maxLength)
    (hlong : Line.maxLength < announcementLength parameters)
    (hreader : wire.reader = .facing true (demanding parameters))
    (h : Performs (protocol process greeting) memory wire episode later) :
    episode.lead = [] ∧ episode.closing =
      .error (.lineTooLong (announcementLength parameters) Line.maxLength) := by
  obtain ⟨reader, outcome, hread, hdeed, hclosing⟩ := exists_deed_of_performs h
  rw [hreader, readLine_demanding hroom] at hread
  obtain ⟨hcommand, rfl⟩ := Prod.mk.inj hread
  rw [← Reading.value.inj hcommand] at hdeed
  rw [hclosing]
  have htext : (Line.mk "ASK" (Utf8.encode parameters)).text? = some parameters :=
    Utf8.decode?_encode parameters
  generalize episode.lead = lead, episode.state = final, later.reader = rest at hdeed
  cases hdeed with
  | idle hidle => exact absurd (by simp) (hidle.unhandled (by simp [htext]))
  | ask hverb hfound hasks =>
    obtain rfl := Option.some.inj (htext.symm.trans hfound)
    cases hasks with
    | overlong => exact ⟨rfl, rfl⟩
    | refused hfits => exact absurd hlong (Nat.not_lt.2 hfits)
    | answered hfits => exact absurd hlong (Nat.not_lt.2 hfits)
  | reset hverb | option hverb | describe hverb | quote hverb | echo hverb | tell hverb
  | deny hverb => simp at hverb

/-- Nothing comes before the command. -/
theorem passes_demanding {opened : Outlet} {passed : List (Episode Memory)} {memory : Memory}
    {wire : Wire} (hroom : 5 + Escape.encodedLength (Utf8.encode parameters) ≤ Line.maxLength)
    (hlong : Line.maxLength < announcementLength parameters)
    (h : Passes (protocol process greeting) .blank ⟨.facing true (demanding parameters), opened⟩
      passed memory wire) :
    passed = [] ∧ wire = ⟨.facing true (demanding parameters), opened⟩ := by
  cases h with
  | nothing => exact ⟨rfl, rfl⟩
  | episode hperforms hresult =>
    rw [Episode.result?_of_error (closing_of_demanding hroom hlong rfl hperforms).2] at hresult
    cases hresult

/-- All that the client sent can be read, and it has said no goodbye. -/
theorem not_excuses_demanding {opened : Outlet} {length : Nat}
    (hroom : 5 + Escape.encodedLength (Utf8.encode parameters) ≤ Line.maxLength) :
    ¬Excuses ⟨.facing true (demanding parameters), opened⟩
      (.error (.lineTooLong length Line.maxLength)) := by
  have hnext : (LineReader.facing true [⟨"ECHO", Utf8.encode "hi"⟩, ⟨"BYE", []⟩]).readLine =
      (.value ⟨"ECHO", Utf8.encode "hi"⟩, .facing true [⟨"BYE", []⟩]) :=
    LineReader.readLine_facing_of_tells true _ ⟨by decide, by decide, by decide⟩ (by decide)
  intro h
  cases h with
  | unread hread =>
    rw [readLine_demanding hroom] at hread
    exact nomatch congrArg Prod.fst hread
  | unanswered hread hverb hdata hhears =>
    rw [readLine_demanding hroom] at hread
    obtain ⟨-, rfl⟩ := Prod.mk.inj hread
    obtain ⟨between, hreads, hstop⟩ := hhears
    -- the line after the command is neither data nor unreadable
    cases hreads with
    | nothing => exact nomatch congrArg Prod.fst (hstop.symm.trans hnext)
    | line hline =>
      obtain rfl := Reading.value.inj (congrArg Prod.fst (hline.symm.trans hnext))
      exact absurd (hdata _ List.mem_cons_self) (by decide)

/-- The conversation is over with the command, and all it has written is the greeting. -/
theorem serve_demanding (process : String) {first : Bytes}
    (hroom : 5 + Escape.encodedLength (Utf8.encode parameters) ≤ Line.maxLength)
    (hlong : Line.maxLength < announcementLength parameters)
    (hgreeting : Line.encode "OK" (Utf8.encode greeting) = .ok first) :
    let final := Conversation.serve (protocol process greeting)
      (.ofHalves (LineReader.facing true (demanding parameters)).inlet .fresh)
    final.wire.outlet.octets = first ∧
      final.phase = .ended (.error (.lineTooLong (announcementLength parameters)
        Line.maxLength)) := by
  intro final
  have hobliging : Outlet.fresh.Obliging := ⟨rfl, by decide, rfl⟩
  obtain ⟨opened, passed, memory, wire, ending, result, hopened, hpasses, hstops, hphase⟩ :=
    Conversation.serve_passes (protocol process greeting)
      (LineReader.facing true (demanding parameters)).inlet rfl hobliging hgreeting
  obtain ⟨rfl, rfl⟩ := passes_demanding hroom hlong hpasses
  have hwritten := hstops.writes
  dsimp only [final]
  rw [hwritten, hphase]
  generalize (Conversation.serve (protocol process greeting)
    (.ofHalves (LineReader.facing true (demanding parameters)).inlet .fresh)).wire = later
    at hstops
  cases hstops with
  | unread hread =>
    rw [readLine_demanding hroom] at hread
    exact nomatch congrArg Prod.fst hread
  | episode hperforms hresult =>
    obtain ⟨hlead, hclosing⟩ := closing_of_demanding hroom hlong rfl hperforms
    rw [Episode.result?_of_error hclosing] at hresult
    obtain rfl := Option.some.inj hresult
    rw [List.flatMap_singleton, Episode.lines, hlead, hclosing, hopened]
    exact ⟨List.append_nil _, rfl⟩

end

/-- A keyword of some length. -/
def drawl (length : Nat) : String := String.ofList (List.replicate length 'k')

theorem encodedLength_drawl (length : Nat) :
    Escape.encodedLength (Utf8.encode (drawl length)) = length := by
  rw [drawl, Utf8.encode, String.toList_ofList]
  induction length with
  | zero => rfl
  | succ length ih =>
    rw [List.replicate_succ, List.flatMap_cons, Escape.encodedLength_append, ih, Nat.add_comm]
    rfl

theorem announcementLength_drawl (length : Nat) :
    announcementLength (drawl (length + 1)) = length + 14 := by
  have hsome : drawl (length + 1) ≠ "" := by
    intro hempty
    have hlength := encodedLength_drawl (length + 1)
    rw [hempty] at hlength
    exact absurd hlength (Nat.succ_ne_zero length).symm
  rw [announcementLength, keyword, if_neg hsome, encodedLength_drawl]
  omega

/-- A keyword of 988 letters has room on the command line but not on the status line. The client has
said no goodbye, all that it sent can be read, and yet the conversation is over before it has
replied. -/
theorem not_excused_of_drawl :
    let inlet := (LineReader.facing true (demanding (drawl 988))).inlet
    let blueprint := protocol "1" "hi"
    let final := Conversation.serve blueprint (.ofHalves inlet .fresh)
    inlet.ended = true ∧ Outlet.fresh.Obliging ∧
      Line.encode "OK" (Utf8.encode "hi") = .ok (Utf8.encode "OK hi\n") ∧
      final.wire.outlet.octets = Utf8.encode "OK hi\n" ∧
      ¬∃ opened passed memory wire result,
        Passes blueprint .blank ⟨.ofInlet inlet, opened⟩ passed memory wire ∧
        final.phase = .ended result ∧ Excuses wire result := by
  dsimp only
  have hroom : 5 + Escape.encodedLength (Utf8.encode (drawl 988)) ≤ Line.maxLength := by
    rw [encodedLength_drawl]
    decide
  have hlong : Line.maxLength < announcementLength (drawl 988) := by
    rw [announcementLength_drawl]
    decide
  have hgreeting : Line.encode "OK" (Utf8.encode "hi") = .ok (Utf8.encode "OK hi\n") := by
    decide +kernel
  obtain ⟨hoctets, hphase⟩ := serve_demanding "1" hroom hlong hgreeting
  refine ⟨rfl, ⟨rfl, by decide, rfl⟩, hgreeting, hoctets, ?_⟩
  rintro ⟨opened, passed, memory, wire, result, hpasses, hended, hexcuses⟩
  obtain ⟨-, rfl⟩ := passes_demanding hroom hlong hpasses
  obtain rfl := Phase.ended.inj (hended.symm.trans hphase)
  exact not_excuses_demanding hroom hexcuses

end LineProtocol.Demonstration
