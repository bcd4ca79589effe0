import LineProtocol.Proofs.Server.Registration

/-!
# Help and dispatch agree

What help lists is what a conversation answers to. Its own verbs come first and the registered ones
behind them, and a command is refused as unknown if its verb is not among these, and only then.
Help on a topic is what was registered for the topic last. `help_agrees_with_dispatch` says so for
whatever has been registered.

`Conversation.Answers` says that a command has been answered with certain lines and that nothing
else has come of it: no handler ran, the state is as it was, and the next command may come. On an
outlet that takes what is written, that is what becomes of a refused command and of one that only
gives information (`answers_reject`, `answers_inform`). That a command is answered with certain
lines rules out others, for what is written tells them apart (`Answers.octets_eq`), and it rules out
that a handler ran, for that would have left its call (`not_answers_of_perform`).
-/

set_option autoImplicit false

namespace LineProtocol

/-! ### Answers -/

variable {σ : Type}

/-- The comment that tells a text. -/
def Line.comment (text : String) : Line :=
  ⟨"#", Utf8.encode text⟩

/-- The line that closes a command well. -/
def Line.acknowledgement : Line :=
  ⟨"OK", []⟩

/-- Whether a text has room in a comment. -/
def Line.CommentFits (text : String) : Prop :=
  ∃ octets, Line.encode "#" (Utf8.encode text) = .ok octets

/-- The line of a fault that has room for its message. -/
def Fault.reply (fault : Fault) : Line :=
  ⟨"ERR", Utf8.encode fault.encode⟩

theorem Line.commentFits_iff {text : String} :
    CommentFits text ↔ lengthOf (Utf8.encode "#") (Utf8.encode text) ≤ maxLength := by
  have hverb : isVerb (Utf8.encode "#") = true := by decide
  simp only [CommentFits, encode_eq_ok_iff, hverb, true_and, exists_and_left, exists_eq, and_true]

theorem Escape.needsEscape_upper (octet : UInt8) :
    needsEscape (Octet.upper octet) = needsEscape octet := by
  unfold Octet.upper
  split
  case isTrue hletter =>
    -- neither a letter nor its upper-case form is one of the four
    rw [Bool.eq_iff_iff]
    refine iff_of_false ?_ ?_ <;>
    · simp only [needsEscape, Bool.or_eq_true, beq_iff_eq, UInt8.le_iff_toNat_le,
        ← UInt8.toNat_inj, UInt8.toNat_sub, percent, Octet.cr, Octet.lf] at *
      simp only [UInt8.reduceToNat] at *
      omega
  case isFalse => rfl

theorem Escape.encodedLength_map_upper (octets : Bytes) :
    encodedLength (octets.map Octet.upper) = encodedLength octets := by
  induction octets with
  | nil => rfl
  | cons octet later ih =>
    rw [List.map_cons, encodedLength, encodedLength, ih, width, width, needsEscape_upper]

/-- A text in upper case takes no more room. -/
theorem Line.commentFits_upperCase {text : String} (h : CommentFits text) :
    CommentFits (upperCase text) := by
  rw [commentFits_iff] at h ⊢
  rwa [Utf8.encode_upperCase, lengthOf, List.isEmpty_map, Escape.encodedLength_map_upper]

theorem Line.compose_comment {text : String} (h : CommentFits text) :
    compose "#" (Utf8.encode text) = .ok (comment text) := by
  obtain ⟨octets, hencode⟩ := h
  exact compose_of_encode hencode

/-- Comments that have room are all sent. -/
theorem Outlet.sendComments_fitting {before : Outlet} {texts : List String}
    (h : before.Obliging) (hfits : ∀ text ∈ texts, Line.CommentFits text) :
    ∃ after, before.sendComments texts = (.ok (), after) ∧
      before.Delivered (texts.map Line.comment) after := by
  induction texts generalizing before with
  | nil => exact ⟨before, rfl, h.delivered⟩
  | cons text later ih =>
    obtain ⟨hfirst, hlater⟩ := List.forall_mem_cons.1 hfits
    obtain ⟨between, hsend, hsent⟩ := sendLine_obliging "#" (Utf8.encode text) h
    rw [Line.compose_comment hfirst] at hsend hsent
    obtain ⟨after, hall, hdelivered⟩ := ih hsent.obliging hlater
    refine ⟨after, ?_, hsent.trans hdelivered⟩
    rw [sendComments, sendComment, hsend]
    exact hall

/-- The faults with which a conversation refuses a command that it knows. -/
def Fault.complaints : List Fault :=
  [.invalidOption, .notImplemented, .notFound]

theorem Fault.composed_unknownCommand :
    Fault.unknownCommand.composed = .ok Fault.unknownCommand.reply := by
  decide

theorem Fault.composed_complaint : ∀ fault ∈ complaints, fault.composed = .ok fault.reply := by
  decide

theorem Fault.reply_complaint_ne : ∀ fault ∈ Fault.complaints,
    [fault.reply].flatMap Line.octets ≠ [Fault.unknownCommand.reply].flatMap Line.octets := by
  decide

/-- The action does not refuse a command as unknown, and what it tells has room in comments. -/
def Action.Knows : Action σ → Prop
  | .refuse fault => fault ∈ Fault.complaints
  | .inform texts => ∀ text ∈ texts, Line.CommentFits text
  | .acknowledge | .leave | .restore _ | .assign _ _ _ | .perform _ _ => True

namespace Conversation

/-- Nothing has come of a command but these lines, and the conversation is ready for the next. -/
def Answers (conversation : Conversation σ) (lines : List Line) (after : Conversation σ) : Prop :=
  ∃ outlet, conversation.wire.outlet.Delivered lines outlet ∧
    after = { conversation with
      wire := { conversation.wire with outlet := outlet }, phase := .ready }

variable {conversation : Conversation σ}

theorem answers_acknowledge (h : conversation.wire.outlet.Obliging) :
    conversation.Answers [.acknowledgement] conversation.acknowledge := by
  obtain ⟨outlet, hsend, hsent⟩ := Outlet.sendLine_obliging "OK" [] h
  refine ⟨outlet, hsent, ?_⟩
  rw [acknowledge, hsend]
  rfl

theorem answers_reject (h : conversation.wire.outlet.Obliging) {fault : Fault}
    (hfits : fault.composed = .ok fault.reply) :
    conversation.Answers [fault.reply] (conversation.reject fault) := by
  obtain ⟨outlet, hsend, hsent⟩ := Outlet.sendFault_obliging fault h
  rw [hfits] at hsend hsent
  refine ⟨outlet, hsent, ?_⟩
  rw [reject, hsend]
  rfl

theorem answers_inform (h : conversation.wire.outlet.Obliging) {texts : List String}
    (hfits : ∀ text ∈ texts, Line.CommentFits text) :
    conversation.Answers (texts.map .comment ++ [.acknowledgement])
      (conversation.inform texts) := by
  obtain ⟨between, hsend, hsent⟩ := Outlet.sendComments_fitting h hfits
  let informed : Conversation σ :=
    { conversation with wire := { conversation.wire with outlet := between } }
  have hobliging : informed.wire.outlet.Obliging := hsent.obliging
  obtain ⟨outlet, hclosed, hafter⟩ := answers_acknowledge hobliging
  refine ⟨outlet, hsent.trans hclosed, ?_⟩
  rw [inform, hsend]
  exact hafter

/-! ### Telling answers apart -/

/-- What a command has written is all that it is answered with. -/
theorem Answers.octets_eq {other after : Conversation σ} {first second : List Line}
    (h : conversation.Answers first after) (hother : other.Answers second after)
    (hwire : other.wire = conversation.wire) :
    first.flatMap Line.octets = second.flatMap Line.octets := by
  obtain ⟨outlet, hsent, rfl⟩ := h
  obtain ⟨same, hsame, hafter⟩ := hother
  have houtlet : outlet = same := congrArg (·.wire.outlet) hafter
  rw [← houtlet, hwire] at hsame
  exact List.append_cancel_left (hsent.octets.symm.trans hsame.octets)

theorem calls_close (conversation : Conversation σ) (outcome : Outcome) :
    (conversation.close outcome).calls = conversation.calls := by
  unfold close
  split <;> rfl

/-- A handler or an option setter that has run leaves its call. -/
theorem not_answers_of_close {lines : List Line} (between : Conversation σ) {call : Call σ}
    (hcalls : between.calls = conversation.calls ++ [call]) (outcome : Outcome) :
    ¬conversation.Answers lines (between.close outcome) := by
  rintro ⟨outlet, -, hafter⟩
  have hnone : conversation.calls ++ [call] = conversation.calls := by
    rw [← hcalls, ← calls_close between outcome, hafter]
  simp at hnone

theorem not_answers_of_perform (lines : List Line) (command : Command σ) (given : String) :
    ¬conversation.Answers lines (conversation.perform command given) := by
  unfold perform settle
  split
  · exact not_answers_of_close _ rfl _
  · rintro ⟨outlet, -, hafter⟩
    exact nomatch congrArg Conversation.phase hafter

/-- A goodbye is not followed by another command. -/
theorem not_answers_of_leave (lines : List Line) :
    ¬conversation.Answers lines conversation.leave := by
  rintro ⟨outlet, -, hafter⟩
  exact nomatch congrArg Conversation.phase hafter

/-- Information begins with a comment or the acknowledgement, and a fault does not. -/
theorem information_ne_reply (texts : List String) (fault : Fault) :
    (texts.map Line.comment ++ [Line.acknowledgement]).flatMap Line.octets ≠
      [fault.reply].flatMap Line.octets := by
  have hverb : (Utf8.encode "ERR").map Octet.upper = [0x45, 0x52, 0x52] := by decide
  have hreply : ([fault.reply].flatMap Line.octets).head? = some 0x45 := by
    rw [List.flatMap_singleton, Line.octets, Line.stem, Fault.reply, hverb]
    rfl
  intro hsame
  rw [← hsame] at hreply
  cases texts with
  | nil => exact absurd hreply (by decide)
  | cons text later =>
    have hmark : (Utf8.encode "#").map Octet.upper = [0x23] := by decide
    rw [List.map_cons, List.cons_append, List.flatMap_cons, Line.octets, Line.stem, Line.comment,
      hmark] at hreply
    exact absurd (Option.some.inj hreply) (by decide)

/-! ### Which answer -/

/-- A command that is known is not answered as an unknown one. -/
theorem not_answers_of_knows (h : conversation.wire.outlet.Obliging) {action : Action σ}
    (hknows : action.Knows) :
    ¬conversation.Answers [Fault.unknownCommand.reply] (conversation.conduct action) := by
  intro hunknown
  cases action with
  | refuse fault =>
    have hanswer := answers_reject h (Fault.composed_complaint fault hknows)
    exact Fault.reply_complaint_ne fault hknows (hanswer.octets_eq hunknown rfl)
  | acknowledge =>
    exact information_ne_reply [] _ ((answers_acknowledge h).octets_eq hunknown rfl)
  | leave => exact not_answers_of_leave _ hunknown
  | restore blank =>
    let restored : Conversation σ := { conversation with state := blank }
    have hobliging : restored.wire.outlet.Obliging := h
    have hanswer := answers_acknowledge hobliging
    exact information_ne_reply [] _ (hanswer.octets_eq hunknown rfl)
  | assign key value setter => exact not_answers_of_close _ rfl _ hunknown
  | inform texts =>
    exact information_ne_reply texts _ ((answers_inform h hknows).octets_eq hunknown rfl)
  | perform command given => exact not_answers_of_perform _ command given hunknown

/-! ### Blueprints -/

variable {blueprint : Blueprint σ} {line : Line} {parameters : String}

theorem mem_verbs_iff {verb : String} :
    verb ∈ verbs blueprint ↔
      verb ∈ builtins ∨ (blueprint.commands.find? verb).isSome := by
  rw [verbs, List.mem_append, List.mem_filter, Registry.mem_names_iff]
  by_cases hown : verb ∈ builtins
  · simp [hown]
  · simp [hown]

theorem dispatch_of_text (htext : line.text? = some parameters) :
    conversation.dispatch blueprint line =
      conversation.conduct (.ofText blueprint line.verb parameters) := by
  rw [dispatch_eq_conduct, Action.ofCommand, htext]

theorem dispatch_of_help (htext : line.text? = some parameters) (hverb : line.verb = "HELP") :
    conversation.dispatch blueprint line =
      conversation.conduct (.ofTopic blueprint parameters) := by
  rw [dispatch_of_text htext, hverb, Action.ofText_help]

/-- Every verb that is listed is known. -/
theorem knows_ofText (hfits : ∀ text, Recites blueprint text → Line.CommentFits text)
    {verb : String} (parameters : String) (hverb : verb ∈ verbs blueprint) :
    (Action.ofText blueprint verb parameters).Knows := by
  unfold Action.ofText
  split_ifs with hnop hbye hreset hoption hhelp
  · trivial
  · trivial
  · cases blueprint.commands.find? "RESET" <;> trivial
  · rw [Action.ofAssignment]
    cases Assignment.split parameters with
    | none => exact List.mem_cons_self
    | some assignment =>
      cases blueprint.setter with
      | none => exact List.mem_cons_of_mem _ List.mem_cons_self
      | some setter => trivial
  · rw [Action.ofTopic]
    split
    · exact fun verb hmem ↦ hfits verb (.inl hmem)
    · split
      case h_1 lines hfind => exact fun text hmem ↦ hfits text (.inr ⟨_, lines, hfind, hmem⟩)
      case h_2 => exact List.mem_cons_of_mem _ (List.mem_cons_of_mem _ List.mem_cons_self)
  · have hcustom : verb ∉ builtins := by
      simp [builtins, hnop, hbye, hreset, hoption, hhelp]
    obtain ⟨command, hfind⟩ := Option.isSome_iff_exists.1
      ((mem_verbs_iff.1 hverb).resolve_left hcustom)
    rw [hfind]
    trivial

section Answering

variable (hfits : ∀ text, Recites blueprint text → Line.CommentFits text)
  (htext : line.text? = some parameters) (h : conversation.wire.outlet.Obliging)

include hfits htext h

/-- A command is answered as unknown if its verb is not listed, and only then. -/
theorem answers_unknown_iff :
    conversation.Answers [Fault.unknownCommand.reply] (conversation.dispatch blueprint line) ↔
      line.verb ∉ verbs blueprint := by
  constructor
  · intro hunknown hverb
    rw [dispatch_of_text htext] at hunknown
    exact not_answers_of_knows h (knows_ofText hfits parameters hverb) hunknown
  · intro hverb
    rw [mem_verbs_iff, not_or, Option.not_isSome_iff_eq_none] at hverb
    rw [dispatch_of_text htext, Action.ofText_of_unknown parameters hverb.1 hverb.2]
    exact answers_reject h Fault.composed_unknownCommand

/-- Help without a topic lists the verbs. -/
theorem answers_listing (hverb : line.verb = "HELP")
    (htopic : Blank.trim parameters.toList = []) :
    conversation.Answers ((verbs blueprint).map .comment ++ [.acknowledgement])
      (conversation.dispatch blueprint line) := by
  rw [dispatch_of_help htext hverb, Action.ofTopic, htopic]
  exact answers_inform h fun verb hmem ↦ hfits verb (.inl hmem)

/-- Help on a topic is what is registered for it. -/
theorem answers_topic (hverb : line.verb = "HELP") {topic : List Char}
    (htopic : Blank.trim parameters.toList = topic) (hsome : topic ≠ []) {lines : List String}
    (hfind : blueprint.help.find? (upperCase (String.ofList topic)) = some lines) :
    conversation.Answers (lines.map .comment ++ [.acknowledgement])
      (conversation.dispatch blueprint line) := by
  obtain ⟨first, later, rfl⟩ := List.exists_cons_of_ne_nil hsome
  rw [dispatch_of_help htext hverb, Action.ofTopic, htopic]
  simp only [hfind]
  exact answers_inform h fun text hmem ↦ hfits text (.inr ⟨_, lines, hfind, hmem⟩)

/-- A topic is refused if there is no help on it, and only then. -/
theorem answers_notFound_iff (hverb : line.verb = "HELP") {topic : List Char}
    (htopic : Blank.trim parameters.toList = topic) (hsome : topic ≠ []) :
    conversation.Answers [Fault.notFound.reply] (conversation.dispatch blueprint line) ↔
      blueprint.help.find? (upperCase (String.ofList topic)) = none := by
  cases hfind : blueprint.help.find? (upperCase (String.ofList topic)) with
  | some lines =>
    have hanswer := answers_topic hfits htext h hverb htopic hsome hfind
    refine iff_of_false (fun hrefused ↦ ?_) (Option.some_ne_none lines)
    exact information_ne_reply lines _ (hanswer.octets_eq hrefused rfl)
  | none =>
    refine iff_of_true ?_ rfl
    obtain ⟨first, later, rfl⟩ := List.exists_cons_of_ne_nil hsome
    rw [dispatch_of_help htext hverb, Action.ofTopic, htopic]
    simp only [hfind]
    exact answers_reject h (Fault.composed_complaint _ (by decide))

end Answering

/-! ### Agreement -/

open Registration in
/-- What help recites fits if everything that has been registered does. -/
theorem commentFits_of_recites {blank : σ} {greeting : String}
    {registrations : List (Registration σ)}
    (hverbs : ∀ verb handler, .command verb handler ∈ registrations → Line.CommentFits verb)
    (hlines : ∀ topic lines, .help topic lines ∈ registrations →
      ∀ text ∈ lines, Line.CommentFits text) {text : String}
    (h : Recites (Blueprint.ofRegistrations blank greeting registrations) text) :
    Line.CommentFits text := by
  rcases h with hmem | ⟨topic, lines, hfind, hmem⟩
  · rcases List.mem_append.1 hmem with hown | hcustom
    · have hall : ∀ verb ∈ builtins,
          Line.lengthOf (Utf8.encode "#") (Utf8.encode verb) ≤ Line.maxLength := by decide
      exact Line.commentFits_iff.2 (hall text hown)
    · obtain ⟨name, handler, hregistered, rfl⟩ := (Blueprint.mem_names_commands blank greeting
        registrations text).1 (List.mem_filter.1 hcustom).1
      exact Line.commentFits_upperCase (hverbs name handler hregistered)
  · rw [Blueprint.find?_help] at hfind
    obtain ⟨name, hregistered, -⟩ := mem_helpFor.1 (List.mem_of_getLast? hfind)
    exact hlines name lines hregistered text hmem

open Registration in
/-- What becomes of a command, given what has been registered and the registered verbs that are not
the conversation's own. -/
structure Obeys (registrations : List (Registration σ)) (others : List String)
    (conversation : Conversation σ) (line : Line) (parameters : String)
    (after : Conversation σ) : Prop where
  /-- Help without a topic lists the verbs. -/
  listing : line.verb = "HELP" → Blank.trim parameters.toList = [] →
    conversation.Answers
      ((["NOP", "OPTION", "BYE", "RESET", "HELP"] ++ others).map .comment ++ [.acknowledgement])
      after
  /-- A verb is unknown if it is not listed, and only then. -/
  unknown : conversation.Answers [Fault.unknownCommand.reply] after ↔
    line.verb ∉ ["NOP", "OPTION", "BYE", "RESET", "HELP"] ++ others
  /-- A registered verb runs the handler that was registered for it last. -/
  handler : line.verb ∈ others ∨ line.verb = "RESET" ∧ HasCommand registrations "RESET" →
    ∃ command, (commandsFor line.verb registrations).getLast? = some command ∧
      after = conversation.perform command (if line.verb = "RESET" then "" else parameters)
  /-- Help on a topic is the one that was registered for it last. -/
  topic : line.verb = "HELP" → Blank.trim parameters.toList ≠ [] → ∀ lines,
    (helpFor (upperCase (String.ofList (Blank.trim parameters.toList))) registrations).getLast? =
      some lines →
    conversation.Answers (lines.map .comment ++ [.acknowledgement]) after
  /-- A topic is not found if no help was registered for it, and only then. -/
  notFound : line.verb = "HELP" → Blank.trim parameters.toList ≠ [] →
    (conversation.Answers [Fault.notFound.reply] after ↔
      ¬HasHelp registrations (upperCase (String.ofList (Blank.trim parameters.toList))))

open Registration in
/-- Whatever has been registered, in any order and any ASCII case, help and dispatch agree on it.
The verbs are listed in increasing order, each of them once. Handlers for the four verbs that a
conversation keeps to itself might as well not have been registered. -/
theorem help_agrees_with_dispatch (blank : σ) (greeting : String)
    (registrations : List (Registration σ))
    (hverbs : ∀ verb handler, .command verb handler ∈ registrations → Line.CommentFits verb)
    (hlines : ∀ topic lines, .help topic lines ∈ registrations →
      ∀ text ∈ lines, Line.CommentFits text) :
    let blueprint := Blueprint.ofRegistrations blank greeting registrations
    let without := Blueprint.ofRegistrations blank greeting (registrations.filter (!·.isReserved))
    (∃ others : List String, others.Pairwise (· < ·) ∧
      (∀ verb, verb ∈ others ↔
        verb ∉ ["NOP", "OPTION", "BYE", "RESET", "HELP"] ∧ HasCommand registrations verb) ∧
      ∀ (conversation : Conversation σ) (line : Line) (parameters : String),
        conversation.wire.outlet.Obliging → line.text? = some parameters →
        Obeys registrations others conversation line parameters
          (conversation.dispatch blueprint line)) ∧
    (∀ wire, serve blueprint wire = serve without wire) ∧
    (∀ conversation : Conversation σ,
      conversation.advance blueprint = conversation.advance without) ∧
    ∀ (sent : String) (rest : Bytes) (line : Line), Octet.space ∉ Utf8.encode sent →
      rest = [] ∨ rest.head? = some Octet.space →
      Line.parse (Utf8.encode sent ++ rest) = .ok line → line.verb = upperCase sent := by
  intro blueprint without
  have halike := Blueprint.alike_without_reserved blank greeting registrations
  have hfits : ∀ text, Recites blueprint text → Line.CommentFits text :=
    fun text hrecites ↦ commentFits_of_recites hverbs hlines hrecites
  refine ⟨⟨blueprint.commands.names.filter fun verb ↦ !builtins.contains verb,
    blueprint.commands.increasing_names.filter _, fun verb ↦ ?_,
    fun conversation line parameters hobliging htext ↦ ?_⟩,
    fun wire ↦ (halike.serve_eq wire).symm,
    fun conversation ↦ (halike.advance_eq conversation).symm,
    fun sent rest line hsent hrest hparse ↦ Line.verb_of_parse hsent hrest hparse⟩
  · rw [List.mem_filter, Blueprint.mem_names_commands]
    simp [builtins, and_comm]
  · refine ⟨fun hverb hnone ↦ answers_listing hfits htext hobliging hverb hnone,
      answers_unknown_iff hfits htext hobliging, fun hverb ↦ ?_,
      fun hverb hsome lines hlast ↦ ?_, fun hverb hsome ↦ ?_⟩
    · have hregistered : HasCommand registrations line.verb := by
        rcases hverb with hcustom | ⟨hreset, hregistered⟩
        · exact (Blueprint.mem_names_commands blank greeting registrations _).1
            (List.mem_filter.1 hcustom).1
        · rwa [hreset]
      obtain ⟨command, hlast⟩ := Option.isSome_iff_exists.1
        (List.getLast?_isSome.2 (commandsFor_ne_nil_iff.2 hregistered))
      have hcustom : line.verb ∉ builtins ∨ line.verb = "RESET" :=
        hverb.imp (fun hcustom ↦ by simpa using (List.mem_filter.1 hcustom).2) (·.1)
      have hfind : blueprint.commands.find? line.verb = some command := by
        rw [Blueprint.find?_commands, hlast]
      refine ⟨command, hlast, ?_⟩
      rw [dispatch_of_text htext, Action.ofText_of_found parameters hcustom hfind, conduct]
    · rw [← Blueprint.find?_help blank greeting] at hlast
      exact answers_topic hfits htext hobliging hverb rfl hsome hlast
    · rw [answers_notFound_iff hfits htext hobliging hverb rfl hsome, Blueprint.find?_help,
        List.getLast?_eq_none_iff, ← helpFor_ne_nil_iff, not_not]

/-- A handler that ends as it is told. -/
def ending (outcome : Outcome) : Handler Unit :=
  fun _ _ ↦ .done ((), outcome)

/-- A verb that is registered twice, one that is the conversation's own, and help that is replaced
by none. -/
def medley : List (Registration Unit) :=
  [.command "Echo" (ending (.ok ())), .help "echo" ["Says it again."],
    .command "nop" (ending (.ok ())), .command "eCHO" (ending (.error (.report .notImplemented))),
    .command "Data" (ending (.ok ())), .help "ECHO" []]

theorem help_agrees_with_dispatch_of_medley :
    let blueprint := Blueprint.ofRegistrations () "ready" medley
    let conversation : Conversation Unit := ⟨.ofHalves .quiet .fresh, (), .ready, []⟩
    (∀ verb handler, .command verb handler ∈ medley → Line.CommentFits verb) ∧
      (∀ topic lines, .help topic lines ∈ medley → ∀ text ∈ lines, Line.CommentFits text) ∧
      conversation.wire.outlet.Obliging ∧
      conversation.Answers
        (["NOP", "OPTION", "BYE", "RESET", "HELP", "DATA", "ECHO"].map .comment ++
          [.acknowledgement])
        (conversation.dispatch blueprint ⟨"HELP", []⟩) ∧
      conversation.Answers [.acknowledgement]
        (conversation.dispatch blueprint ⟨"HELP", Utf8.encode " echo "⟩) ∧
      conversation.dispatch blueprint ⟨"ECHO", []⟩ =
        conversation.perform ⟨"eCHO", ending (.error (.report .notImplemented))⟩ "" := by
  intro blueprint conversation
  have hnames : ∀ {verb handler}, .command verb handler ∈ medley →
      verb ∈ ["Echo", "nop", "eCHO", "Data"] := by
    intro verb handler hmem
    simp only [medley, List.mem_cons, Registration.command.injEq, reduceCtorEq,
      List.not_mem_nil, or_false, false_or] at hmem
    simp only [List.mem_cons, List.not_mem_nil, or_false]
    exact hmem.imp (·.1) (·.imp (·.1) (·.imp (·.1) (·.1)))
  have hverbs : ∀ verb handler, .command verb handler ∈ medley → Line.CommentFits verb := by
    intro verb handler hmem
    have hall : ∀ verb ∈ ["Echo", "nop", "eCHO", "Data"],
        Line.lengthOf (Utf8.encode "#") (Utf8.encode verb) ≤ Line.maxLength := by decide
    exact Line.commentFits_iff.2 (hall verb (hnames hmem))
  have hlines : ∀ topic lines, .help topic lines ∈ medley →
      ∀ text ∈ lines, Line.CommentFits text := by
    intro topic lines hmem text htext
    have hsaid : text = "Says it again." := by
      simp only [medley, List.mem_cons, Registration.help.injEq, reduceCtorEq,
        List.not_mem_nil, or_false, false_or] at hmem
      rcases hmem with ⟨-, rfl⟩ | ⟨-, rfl⟩
      · exact List.mem_singleton.1 htext
      · exact absurd htext List.not_mem_nil
    rw [hsaid, Line.commentFits_iff]
    decide
  have hobliging : conversation.wire.outlet.Obliging := ⟨rfl, by decide, rfl⟩
  obtain ⟨⟨others, hincreasing, hmem, hagrees⟩, -⟩ :=
    help_agrees_with_dispatch () "ready" medley hverbs hlines
  obtain rfl : others = ["DATA", "ECHO"] := by
    refine List.Pairwise.eq_of_mem_iff hincreasing (by decide) fun verb ↦ (hmem verb).trans ⟨?_, ?_⟩
    · rintro ⟨hcustom, name, handler, hregistered, rfl⟩
      have hall : ∀ name ∈ ["Echo", "nop", "eCHO", "Data"],
          upperCase name ∉ ["NOP", "OPTION", "BYE", "RESET", "HELP"] →
            upperCase name ∈ ["DATA", "ECHO"] := by decide
      exact hall name (hnames hregistered) hcustom
    · intro hlisted
      rcases List.mem_pair.1 hlisted with rfl | rfl
      · exact ⟨by decide, "Data", ending (.ok ()), by simp [medley], by decide⟩
      · exact ⟨by decide, "Echo", ending (.ok ()), by simp [medley], by decide⟩
  refine ⟨hverbs, hlines, hobliging, ?_, ?_, ?_⟩
  · exact (hagrees conversation ⟨"HELP", []⟩ "" hobliging rfl).listing rfl rfl
  · exact (hagrees conversation ⟨"HELP", Utf8.encode " echo "⟩ " echo " hobliging
      (Utf8.decode?_encode _)).topic rfl (by decide) [] (by rfl)
  · obtain ⟨command, hlast, hperform⟩ :=
      (hagrees conversation ⟨"ECHO", []⟩ "" hobliging rfl).handler (.inl (by decide))
    have hlatest : (Registration.commandsFor "ECHO" medley).getLast? =
        some ⟨"eCHO", ending (.error (.report .notImplemented))⟩ := by rfl
    obtain rfl := Option.some.inj (hlatest.symm.trans hlast)
    exact hperform

end Conversation

end LineProtocol
