import LineProtocol.Proofs.Client.Answering

/-!
# What a client hears

A client that waits for a reply takes its lines one after the other. Lines from the middle of a
reply add to the data it has collected and nothing else (`advance_inner`). A closing line ends the
request (`advance_closing`). An inquiry is answered: with data and `END`, or with `CAN`, after
which the client waits for the end of the reply only (`answer_replies`); prepared answers that are
dependable are sent in full (`answer_current`). A client that has already cancelled passes over
inquiries.
-/

set_option autoImplicit false

namespace LineProtocol

/-- The data that a line of a reply carries. -/
def Line.data (line : Line) : Bytes :=
  if line.verb = "D" then line.parameters else []

theorem Line.textLossy_encode (verb text : String) :
    (Line.mk verb (Utf8.encode text)).textLossy = text :=
  Utf8.decodeLossy_encode text

theorem Line.data_of_isData {line : Line} (h : line.IsData) : line.data = line.parameters :=
  if_pos h.2

theorem Line.flatMap_data_of_isData {lines : List Line} (h : ∀ line ∈ lines, line.IsData) :
    lines.flatMap Line.data = lines.flatMap Line.parameters := by
  rw [List.flatMap_def, List.flatMap_def,
    List.map_congr_left fun line hmem ↦ data_of_isData (h line hmem)]

namespace Awaiting

/-- Whether the reply that is waited for has a single line. -/
def Single : Awaiting → Prop
  | .reply _ _ => False
  | .cancelReply _ => False
  | _ => True

/-- What a client waits for after lines from the middle of a reply. -/
def after (awaiting : Awaiting) (inner : List Line) : Awaiting :=
  match awaiting with
  | .reply collected answers => .reply (collected ++ inner.flatMap Line.data) answers
  | awaiting => awaiting

theorem after_nil (awaiting : Awaiting) : awaiting.after [] = awaiting := by
  cases awaiting with
  | reply collected answers => rw [after, List.flatMap_nil, List.append_nil]
  | _ => rfl

theorem after_cons (awaiting : Awaiting) (line : Line) (later : List Line) :
    awaiting.after (line :: later) = (awaiting.after [line]).after later := by
  cases awaiting with
  | reply collected answers =>
    simp only [after, List.flatMap_cons, List.flatMap_nil, List.append_nil, List.append_assoc]
  | _ => rfl

theorem single_after (awaiting : Awaiting) (inner : List Line) :
    (awaiting.after inner).Single ↔ awaiting.Single := by
  cases awaiting <;> rfl

theorem eq_cancelReply_of_after {awaiting : Awaiting} {inner : List Line} {reason : Failure}
    (h : awaiting.after inner = .cancelReply reason) : awaiting = .cancelReply reason := by
  cases awaiting with
  | reply collected answers => exact nomatch h
  | _ => exact h

end Awaiting

namespace Request

/-- What a client waits for that has made the request. -/
def awaiting : Request → Awaiting
  | .command _ _ answers => .reply [] answers
  | .option _ _ => .optionReply
  | .reset => .resetReply

/-- The line of the request, if there is one. -/
def composed : Request → Except Failure Line
  | .command verb parameters _ => Line.compose verb parameters
  | .option key value => Line.compose "OPTION" (Utf8.encode (Assignment.render key value))
  | .reset => Line.compose "RESET" []

theorem sendable_of_composed {request : Request} {command : Line}
    (h : request.composed = .ok command) : command.Sendable := by
  cases request <;> exact (Line.sendable_of_compose h).1

end Request

namespace Client

/-! ### One reading -/

theorem advance_returned (client : Client) (outcome : Except Failure Bytes) :
    client.advance (.returned outcome) = (.returned outcome, client) := by
  rw [advance]

section Reading

/-- The client whose reader has come further. -/
def past (client : Client) (reader : LineReader) : Client :=
  { client with wire := { client.wire with reader := reader } }

variable {client : Client} {next : LineReader} (awaiting : Awaiting)

theorem advance_of_value {line : Line}
    (hread : client.wire.reader.readLine = (.value line, next)) :
    client.advance (.waiting awaiting) =
      ((client.past next).hear line awaiting).2.advance
        ((client.past next).hear line awaiting).1 := by
  rw [advance]
  simp only
  rw [hread]
  rfl

theorem advance_of_error {cause : Failure}
    (hread : client.wire.reader.readLine = (.error cause, next)) :
    client.advance (.waiting awaiting) =
      (.returned (.error (lost cause awaiting)), client.past next) := by
  rw [advance]
  simp only
  rw [hread]
  rfl

theorem advance_of_waiting (hread : client.wire.reader.readLine = (.waiting, next)) :
    client.advance (.waiting awaiting) = (.waiting awaiting, client.past next) := by
  rw [advance]
  simp only
  rw [hread]
  rfl

end Reading

variable (ended : Bool) (later : List Line) (outlet : Outlet) (greeting : String)
  (awaiting : Awaiting) {line : Line}

theorem advance_waiting_nil :
    (Client.mk ⟨.facing false [], outlet⟩ greeting).advance (.waiting awaiting) =
      (.waiting awaiting, ⟨⟨.facing false [], outlet⟩, greeting⟩) :=
  advance_of_waiting awaiting LineReader.readLine_facing_nil

/-- Without anything to read a client stays as it is. -/
theorem advance_nil (turn : Turn) :
    (Client.mk ⟨.facing false [], outlet⟩ greeting).advance turn =
      (turn, ⟨⟨.facing false [], outlet⟩, greeting⟩) := by
  cases turn with
  | returned outcome => exact advance_returned _ outcome
  | waiting awaiting => exact advance_waiting_nil outlet greeting awaiting

/-- At the end of the stream the request is lost. -/
theorem advance_waiting_end :
    (Client.mk ⟨.facing true [], outlet⟩ greeting).advance (.waiting awaiting) =
      (.returned (.error (lost .closed awaiting)),
        ⟨⟨⟨[], true, ⟨[], true⟩⟩, outlet⟩, greeting⟩) :=
  advance_of_error awaiting LineReader.readLine_facing_end

/-- So is every later one. -/
theorem advance_waiting_spent :
    (Client.mk ⟨⟨[], true, ⟨[], true⟩⟩, outlet⟩ greeting).advance (.waiting awaiting) =
      (.returned (.error (lost .closed awaiting)),
        ⟨⟨⟨[], true, ⟨[], true⟩⟩, outlet⟩, greeting⟩) :=
  advance_of_error awaiting LineReader.readLine_spent

theorem advance_of_informs (hline : line.Sendable) (hinforms : line.onlyInforms = true) :
    (Client.mk ⟨.facing ended (line :: later), outlet⟩ greeting).advance (.waiting awaiting) =
      (Client.mk ⟨.facing ended later, outlet⟩ greeting).advance (.waiting awaiting) := by
  rw [advance]
  conv_rhs => rw [advance]
  simp only
  rw [LineReader.readLine_facing_of_informs ended later hline hinforms]

theorem advance_of_tells (hline : line.Sendable) (htells : line.onlyInforms = false) :
    (Client.mk ⟨.facing ended (line :: later), outlet⟩ greeting).advance (.waiting awaiting) =
      ((Client.mk ⟨.facing ended later, outlet⟩ greeting).hear line awaiting).2.advance
        ((Client.mk ⟨.facing ended later, outlet⟩ greeting).hear line awaiting).1 :=
  advance_of_value awaiting (LineReader.readLine_facing_of_tells ended later hline htells)

/-! ### The middle of a reply -/

theorem hear_inner {client : Client} (hline : line.IsInner) (hmany : ¬awaiting.Single) :
    client.hear line awaiting = (.waiting (awaiting.after [line]), client) := by
  have hverbs : line.verb ≠ "OK" ∧ line.verb ≠ "ERR" ∧ line.verb ≠ "INQUIRE" := by
    rcases hline.2 with h | h | h <;> rw [h] <;> decide
  obtain ⟨hok, herr, hinquire⟩ := hverbs
  cases awaiting with
  | reply collected answers =>
    simp only [hear, hok, herr, hinquire, if_false, Awaiting.after, List.flatMap_cons,
      List.flatMap_nil, List.append_nil, Line.data]
    split
    · rfl
    · rw [List.append_nil]
  | cancelReply reason => simp only [hear, hok, herr, or_self, if_false, Awaiting.after]
  | _ => exact absurd trivial hmany

theorem advance_inner_line (hline : line.IsInner) (hmany : ¬awaiting.Single) :
    (Client.mk ⟨.facing ended (line :: later), outlet⟩ greeting).advance (.waiting awaiting) =
      (Client.mk ⟨.facing ended later, outlet⟩ greeting).advance
        (.waiting (awaiting.after [line])) := by
  by_cases hinforms : line.onlyInforms = true
  case pos =>
    have hdata : line.verb ≠ "D" := by
      intro hverb
      rw [Line.onlyInforms_of_verb hverb (by decide) (by decide)] at hinforms
      exact Bool.false_ne_true hinforms
    have hafter : awaiting.after [line] = awaiting := by
      cases awaiting with
      | reply collected answers =>
        simp only [Awaiting.after, List.flatMap_cons, List.flatMap_nil, Line.data, hdata,
          if_false, List.append_nil]
      | _ => rfl
    rw [advance_of_informs ended later outlet greeting awaiting hline.1 hinforms, hafter]
  case neg =>
    rw [advance_of_tells ended later outlet greeting awaiting hline.1
      (Bool.not_eq_true _ ▸ hinforms), hear_inner awaiting hline hmany]

/-- Lines from the middle of a reply only add to what has been collected. -/
theorem advance_inner {inner : List Line} (hinner : ∀ line ∈ inner, line.IsInner)
    (hsingle : awaiting.Single → inner = []) :
    (Client.mk ⟨.facing ended (inner ++ later), outlet⟩ greeting).advance (.waiting awaiting) =
      (Client.mk ⟨.facing ended later, outlet⟩ greeting).advance
        (.waiting (awaiting.after inner)) := by
  induction inner generalizing awaiting with
  | nil => rw [List.nil_append, Awaiting.after_nil]
  | cons line rest ih =>
    have hsome : ¬awaiting.Single := fun h ↦ List.cons_ne_nil _ _ (hsingle h)
    have hrest : ¬(awaiting.after [line]).Single := by
      rwa [Awaiting.single_after]
    rw [List.cons_append, advance_inner_line ended _ outlet greeting awaiting
      (hinner line List.mem_cons_self) hsome,
      ih _ (fun line hmem ↦ hinner line (List.mem_cons_of_mem _ hmem)) fun h ↦ absurd h hrest,
      ← Awaiting.after_cons]

/-- A client that has heard no more than that waits for the rest of the reply. -/
theorem advance_inner_only {inner : List Line} (hinner : ∀ line ∈ inner, line.IsInner)
    (hsingle : awaiting.Single → inner = []) :
    (Client.mk ⟨.facing false inner, outlet⟩ greeting).advance (.waiting awaiting) =
      (.waiting (awaiting.after inner), ⟨⟨.facing false [], outlet⟩, greeting⟩) := by
  have hadvance := advance_inner false [] outlet greeting awaiting hinner hsingle
  rw [List.append_nil, advance_waiting_nil] at hadvance
  exact hadvance

/-- A reply that the stream cuts off is lost. -/
theorem advance_inner_end {inner : List Line} (hinner : ∀ line ∈ inner, line.IsInner)
    (collected : Bytes) (answers : Answers) :
    (Client.mk ⟨.facing true inner, outlet⟩ greeting).advance
        (.waiting (.reply collected answers)) =
      (.returned (.error .closed), ⟨⟨⟨[], true, ⟨[], true⟩⟩, outlet⟩, greeting⟩) := by
  have hadvance := advance_inner true [] outlet greeting (.reply collected answers) hinner
    False.elim
  rw [List.append_nil, advance_waiting_end] at hadvance
  exact hadvance

/-! ### The end of a reply -/

/-- A closing line ends any request. -/
theorem advance_closing (hline : line.IsClosing) :
    ∃ outcome heard,
      (Client.mk ⟨.facing ended (line :: later), outlet⟩ greeting).advance (.waiting awaiting) =
        (.returned outcome, ⟨⟨.facing ended later, outlet⟩, heard⟩) := by
  have hhear : ∃ outcome heard,
      (Client.mk ⟨.facing ended later, outlet⟩ greeting).hear line awaiting =
        (.returned outcome, ⟨⟨.facing ended later, outlet⟩, heard⟩) := by
    unfold hear
    rcases hline.2 with h | h
    · cases awaiting <;> simp [h]
    · cases awaiting <;> simp [h]
  obtain ⟨outcome, heard, hhear⟩ := hhear
  refine ⟨outcome, heard, ?_⟩
  rw [advance_of_tells ended later outlet greeting awaiting hline.1 hline.tells,
    hhear, advance_returned]

theorem reported_of_decode {fault : Fault} (h : Fault.decode line.textLossy = .ok fault) :
    reported line = .peer fault := by
  rw [reported, h]

/-- The closing line of a command says whether there is data or a fault. -/
theorem advance_closing_reply (collected : Bytes) (answers : Answers) (hline : line.IsClosing) :
    (Client.mk ⟨.facing ended (line :: later), outlet⟩ greeting).advance
        (.waiting (.reply collected answers)) =
      (.returned (if line.verb = "OK" then .ok collected else .error (reported line)),
        ⟨⟨.facing ended later, outlet⟩, greeting⟩) := by
  rw [advance_of_tells ended later outlet greeting _ hline.1 hline.tells]
  rcases hline.2 with h | h
  · simp [hear, h, advance_returned]
  · simp [hear, h, advance_returned]

/-! ### Short replies -/

/-- Who waits for the reply to a reset takes any other line for a wrong one. -/
theorem advance_reset_of_tells (hline : line.Sendable) (htells : line.onlyInforms = false)
    (hok : line.verb ≠ "OK") (herr : line.verb ≠ "ERR") :
    (Client.mk ⟨.facing ended (line :: later), outlet⟩ greeting).advance (.waiting .resetReply) =
      (.returned (.error (.invalidResponse ("not an OK response: " ++ line.verb))),
        ⟨⟨.facing ended later, outlet⟩, greeting⟩) := by
  rw [advance_of_tells ended later outlet greeting _ hline htells]
  simp only [hear, hok, herr, if_false, advance_returned]

/-- Lines from the middle of a reply are passed over by who waits for the reply to a reset, up to
the first that tells something. -/
theorem advance_reset_inner {inner : List Line} (hinner : ∀ line ∈ inner, line.IsInner) :
    (Client.mk ⟨.facing ended (inner ++ later), outlet⟩ greeting).advance (.waiting .resetReply) =
        (Client.mk ⟨.facing ended later, outlet⟩ greeting).advance (.waiting .resetReply) ∨
      ∃ verb left, (Client.mk ⟨.facing ended (inner ++ later), outlet⟩ greeting).advance
          (.waiting .resetReply) =
        (.returned (.error (.invalidResponse ("not an OK response: " ++ verb))),
          ⟨⟨.facing ended (left ++ later), outlet⟩, greeting⟩) := by
  induction inner with
  | nil => exact .inl rfl
  | cons line rest ih =>
    obtain ⟨hline, hrest⟩ := List.forall_mem_cons.1 hinner
    by_cases hinforms : line.onlyInforms = true
    case pos =>
      rw [List.cons_append, advance_of_informs ended _ outlet greeting _ hline.1 hinforms]
      exact ih hrest
    case neg =>
      have hverbs : line.verb ≠ "OK" ∧ line.verb ≠ "ERR" := by
        rcases hline.2 with h | h | h <;> rw [h] <;> decide
      exact .inr ⟨line.verb, rest, advance_reset_of_tells ended _ outlet greeting hline.1
        (Bool.not_eq_true _ ▸ hinforms) hverbs.1 hverbs.2⟩

/-! ### Requests -/

variable (reader : LineReader) (before : List Line)

/-- A request reads nothing. -/
theorem reader_ask (client : Client) (request : Request) :
    (client.ask request).2.wire.reader = client.wire.reader := by
  cases request <;> rfl

/-- A request writes its line and waits for the reply, or returns why there is no line. -/
theorem ask_holding (request : Request) :
    (Client.mk ⟨reader, .holding before⟩ greeting).ask request =
      match request.composed with
      | .ok command =>
        (.waiting request.awaiting, ⟨⟨reader, .holding (before ++ [command])⟩, greeting⟩)
      | .error cause => (.returned (.error cause), ⟨⟨reader, .holding before⟩, greeting⟩) := by
  have hsend : ∀ (awaiting : Awaiting) (verb : String) (parameters : Bytes),
      (Client.mk ⟨reader, .holding before⟩ greeting).afterWrite awaiting
          ((Outlet.holding before).sendLine verb parameters) =
        match Line.compose verb parameters with
        | .ok command => (.waiting awaiting, ⟨⟨reader, .holding (before ++ [command])⟩, greeting⟩)
        | .error cause => (.returned (.error cause), ⟨⟨reader, .holding before⟩, greeting⟩) := by
    intro awaiting verb parameters
    rw [Outlet.sendLine_holding]
    cases Line.compose verb parameters <;> rfl
  cases request with
  | command verb parameters answers => exact hsend (.reply [] answers) verb parameters
  | option key value =>
    exact hsend .optionReply "OPTION" (Utf8.encode (Assignment.render key value))
  | reset => exact hsend .resetReply "RESET" []

/-! ### Inquiries -/

variable (collected : Bytes)

theorem compose_end : Line.compose "END" [] = .ok ⟨"END", []⟩ := rfl

theorem compose_cancel : Line.compose "CAN" [] = .ok ⟨"CAN", []⟩ := rfl

theorem isFinal_end : (Line.mk "END" []).IsFinal :=
  ⟨(Line.sendable_of_compose compose_end).1, .inl rfl⟩

theorem isFinal_cancel : (Line.mk "CAN" []).IsFinal :=
  ⟨(Line.sendable_of_compose compose_cancel).1, .inr rfl⟩

theorem cancel_holding (reason : Failure) :
    (Client.mk ⟨reader, .holding before⟩ greeting).cancel reason =
      (.waiting (.cancelReply reason),
        ⟨⟨reader, .holding (before ++ [⟨"CAN", []⟩])⟩, greeting⟩) := by
  rw [cancel]
  simp only
  rw [Outlet.sendLine_holding, compose_cancel]
  rfl

theorem sendEnd_holding (answers : Answers) :
    (Client.mk ⟨reader, .holding before⟩ greeting).afterWrite (.reply collected answers)
        ((Outlet.holding before).sendLine "END" []) =
      (.waiting (.reply collected answers),
        ⟨⟨reader, .holding (before ++ [⟨"END", []⟩])⟩, greeting⟩) := by
  rw [Outlet.sendLine_holding, compose_end]
  rfl

/-- The last line of an answer, and what the client waits for then. -/
inductive Settles : Line → Awaiting → Prop
  | complete (collected : Bytes) (answers : Answers) :
    Settles ⟨"END", []⟩ (.reply collected answers)
  | refusal (reason : Failure) : Settles ⟨"CAN", []⟩ (.cancelReply reason)

theorem Settles.isFinal {final : Line} (h : Settles final awaiting) : final.IsFinal := by
  cases h with
  | complete collected answers => exact isFinal_end
  | refusal reason => exact isFinal_cancel

/-- An inquiry is answered by data and a last line, and then the client waits for more. -/
theorem answer_replies (answers : Answers) (inquiry : Line) :
    ∃ data final awaiting,
      (Client.mk ⟨reader, .holding before⟩ greeting).answer collected answers inquiry =
        (.waiting awaiting,
          ⟨⟨reader, .holding (before ++ (data ++ [final]))⟩, greeting⟩) ∧
      (∀ line ∈ data, line.IsData) ∧ Settles final awaiting := by
  unfold answer
  split
  case h_1 =>
    exact ⟨[], ⟨"CAN", []⟩, _, cancel_holding greeting reader before _,
      List.forall_mem_nil _, .refusal _⟩
  case h_2 prepared _ =>
    obtain ⟨data, sending, rest, hsend, hdata, hsending⟩ := prepared.send_holding before
    simp only
    rw [hsend]
    rcases hsending with rfl | ⟨cause, rfl⟩
    · refine ⟨data, ⟨"END", []⟩, .reply collected (answers.replace (keyword inquiry) rest), ?_,
        hdata, .complete _ _⟩
      have hsent := sendEnd_holding greeting reader (before ++ data) collected
        (answers.replace (keyword inquiry) rest)
      rw [List.append_assoc] at hsent
      exact hsent
    · refine ⟨data, ⟨"CAN", []⟩, .cancelReply (.io cause), ?_, hdata, .refusal _⟩
      have hsent := cancel_holding greeting reader (before ++ data) (.io cause)
      rw [List.append_assoc] at hsent
      exact hsent

/-- A keyword with a dependable answer is answered in full. -/
theorem answer_current {answers current : Answers} {asked : List String} {payload : Bytes}
    {inquiry : Line} (hcurrent : answers.Current asked current)
    (hcontent : answers.content asked (keyword inquiry) = some payload) :
    ∃ data left,
      (Client.mk ⟨reader, .holding before⟩ greeting).answer collected current inquiry =
        (.waiting (.reply collected left),
          ⟨⟨reader, .holding (before ++ (data ++ [⟨"END", []⟩]))⟩, greeting⟩) ∧
      (∀ line ∈ data, line.IsData) ∧ data.flatMap Line.parameters = payload ∧
      answers.Current (keyword inquiry :: asked) left := by
  obtain ⟨prepared, data, rest, hfind, hsend, hdata, hsent, hleft⟩ :=
    hcurrent.send hcontent before
  refine ⟨data, current.replace (keyword inquiry) rest, ?_, hdata, hsent, hleft⟩
  unfold answer
  rw [hfind]
  simp only
  rw [hsend]
  simp only
  have hend := sendEnd_holding greeting reader (before ++ data) collected
    (current.replace (keyword inquiry) rest)
  rw [List.append_assoc] at hend
  exact hend

theorem advance_inquiry (answers : Answers) (hline : line.IsInquiry) :
    (Client.mk ⟨.facing ended (line :: later), outlet⟩ greeting).advance
        (.waiting (.reply collected answers)) =
      ((Client.mk ⟨.facing ended later, outlet⟩ greeting).answer collected answers line).2.advance
        ((Client.mk ⟨.facing ended later, outlet⟩ greeting).answer collected answers line).1 := by
  rw [advance_of_tells ended later outlet greeting _ hline.1 hline.tells]
  simp [hear, hline.2]

/-- Who has cancelled does not answer. -/
theorem advance_inquiry_cancelled (reason : Failure) (hline : line.IsInquiry) :
    (Client.mk ⟨.facing ended (line :: later), outlet⟩ greeting).advance
        (.waiting (.cancelReply reason)) =
      (Client.mk ⟨.facing ended later, outlet⟩ greeting).advance
        (.waiting (.cancelReply reason)) := by
  rw [advance_of_tells ended later outlet greeting _ hline.1 hline.tells]
  simp [hear, hline.2]

end Client

end LineProtocol
