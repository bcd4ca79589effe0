import LineProtocol.Proofs.Client.Hearing
import LineProtocol.Proofs.Line.Delivery
import LineProtocol.Proofs.Reading.Lines

/-!
# The course of a command

A client that has asked for a command is in the hands of its server: any lines may come, in any
order. `Course` says what it does with them. It collects data and answers inquiries, each in its
turn, until an `OK` or `ERR` line comes or no line can be read (`Concludes`). At the first inquiry
that it has no answer for, or whose source fails, it writes `CAN`, and nothing after that: it passes
over everything up to the end of the reply and returns why it has cancelled (`Resigns`).

An outlet that takes what is written to it makes every inquiry come to one of the two
(`answer_obliging`). The two loops are followed line by line, by induction on what is left to read:
`advance_cancelled`, and `advance_reply` with one lemma for each kind of line (`Pursues`).
`transacts_of_encode` puts this together for a whole call.
-/

set_option autoImplicit false

namespace LineProtocol

/-! ### Sources -/

/-- Whatever this source fails with, the other one fails with too. -/
def Inlet.FailsLike (rest source : Inlet) : Prop :=
  ∀ cause, Arrival.failure cause ∈ rest.arrivals → Arrival.failure cause ∈ source.arrivals

namespace Inlet

variable {source rest : Inlet} {limit : Nat}

theorem FailsLike.refl (source : Inlet) : source.FailsLike source :=
  fun _ hmem ↦ hmem

theorem FailsLike.trans {first : Inlet} (h : rest.FailsLike source)
    (hfirst : source.FailsLike first) : rest.FailsLike first :=
  fun cause hmem ↦ hfirst cause (h cause hmem)

theorem failsLike_of_read {delivery : Delivery} (h : source.read limit = (delivery, rest)) :
    rest.FailsLike source := by
  obtain ⟨arrivals, ended⟩ := source
  intro cause hmem
  cases arrivals with
  | nil =>
    obtain ⟨-, rfl⟩ := Prod.mk.inj h
    exact hmem
  | cons arrival later =>
    cases arrival with
    | failure first =>
      obtain ⟨-, rfl⟩ := Prod.mk.inj h
      exact List.mem_cons_of_mem _ hmem
    | chunk octets =>
      obtain ⟨-, rfl⟩ := Prod.mk.inj h
      refine List.mem_cons_of_mem _ ?_
      dsimp only at hmem
      split at hmem
      · exact hmem
      · exact (List.mem_cons.1 hmem).resolve_left nofun

theorem mem_of_read_failed {cause : IoError} (h : source.read limit = (.failed cause, rest)) :
    Arrival.failure cause ∈ source.arrivals := by
  obtain ⟨arrivals, ended⟩ := source
  cases arrivals with
  | nil => cases ended <;> exact nomatch h
  | cons arrival later =>
    cases arrival with
    | chunk octets => exact nomatch h
    | failure first =>
      obtain ⟨hcause, -⟩ := Prod.mk.inj h
      obtain rfl := Delivery.failed.inj hcause
      exact List.mem_cons_self

end Inlet

/-- How sending on an obliging outlet can end: well, or where a source fails. -/
def Answer.Sending.EndsLike (sending : Answer.Sending) (source : Inlet) : Prop :=
  sending = .complete ∨ ∃ cause, sending = .sourceFailed cause ∧
    Arrival.failure cause ∈ source.arrivals ∧ cause.kind ≠ .interrupted

theorem Answer.Sending.EndsLike.of_failsLike {sending : Answer.Sending} {source rest : Inlet}
    (hsending : sending.EndsLike rest) (hrest : rest.FailsLike source) :
    sending.EndsLike source := by
  rcases hsending with hcomplete | ⟨cause, hfailed, hmem, hkind⟩
  · exact .inl hcomplete
  · exact .inr ⟨cause, hfailed, hrest cause hmem, hkind⟩

/-- Draining a source writes data and ends at the end of the source, or where it fails. -/
theorem Answer.drain_obliging {outlet : Outlet} (hobliging : outlet.Obliging) (source : Inlet) :
    ∃ data sending rest after, drain outlet source = (sending, rest, after) ∧
      outlet.Delivered data after ∧ (∀ line ∈ data, line.IsData) ∧ rest.FailsLike source ∧
      sending.EndsLike source := by
  fun_induction drain outlet source with
  | case1 outlet source rest hread =>
    exact ⟨[], .complete, rest, outlet, rfl, hobliging.delivered, nofun,
      Inlet.failsLike_of_read hread, .inl rfl⟩
  | case2 outlet source rest hread =>
    exact ⟨[], .complete, rest, outlet, rfl, hobliging.delivered, nofun,
      Inlet.failsLike_of_read hread, .inl rfl⟩
  | case3 outlet source cause rest hread hkind ih =>
    obtain ⟨data, sending, last, after, hdrain, hdelivered, hdata, hlast, hsending⟩ := ih hobliging
    have hrest := Inlet.failsLike_of_read hread
    exact ⟨data, sending, last, after, hdrain, hdelivered, hdata, hlast.trans hrest,
      hsending.of_failsLike hrest⟩
  | case4 outlet source cause rest hread hkind =>
    exact ⟨[], .sourceFailed cause, rest, outlet, rfl, hobliging.delivered, nofun,
      Inlet.failsLike_of_read hread, .inr ⟨cause, rfl, Inlet.mem_of_read_failed hread, hkind⟩⟩
  | case5 outlet source first others rest hread between hsend ih =>
    obtain ⟨found, hfound, hsent⟩ := Outlet.sendData_obliging (first :: others) hobliging
    obtain rfl := congrArg Prod.snd (hsend.symm.trans hfound)
    obtain ⟨data, sending, last, after, hdrain, hdelivered, hdata, hlast, hsending⟩ :=
      ih hsent.obliging
    have hrest := Inlet.failsLike_of_read hread
    refine ⟨Line.ofPayload (first :: others) ++ data, sending, last, after, hdrain,
      hsent.trans hdelivered, ?_, hlast.trans hrest, hsending.of_failsLike hrest⟩
    exact List.forall_mem_append.2 ⟨fun _ ↦ Line.isData_of_mem_ofPayload, hdata⟩
  | case6 outlet source first others rest hread cause between hsend =>
    obtain ⟨found, hfound, -⟩ := Outlet.sendData_obliging (first :: others) hobliging
    exact absurd (congrArg Prod.fst (hsend.symm.trans hfound)) nofun

/-! ### Inquiries -/

theorem Fault.invalidResponse_of_decode {parameters : String} {cause : Failure}
    (h : decode parameters = .error cause) : ∃ text, cause = .invalidResponse text := by
  unfold decode at h
  dsimp only at h
  split at h
  · exact ⟨_, (Except.error.inj h).symm⟩
  · exact nomatch h

namespace Answers

/-- An answer as it was prepared, and what may be left of it. -/
inductive Left : Option Answer → Option Answer → Prop
  | nothing : Left none none
  | octets (payload : Bytes) : Left (some (.octets payload)) (some (.octets payload))
  | source {inlet rest : Inlet} (hrest : rest.FailsLike inlet) :
    Left (some (.source inlet)) (some (.source rest))

/-- What may be left of the answers once some of them were sent. -/
def Follows (current answers : Answers) : Prop :=
  ∀ keyword, Left (answers.find? keyword) (current.find? keyword)

theorem follows_refl (answers : Answers) : answers.Follows answers := by
  intro keyword
  rcases answers.find? keyword with _ | payload | inlet
  · exact .nothing
  · exact .octets payload
  · exact .source (.refl inlet)

theorem Follows.replace {current answers : Answers} (hfollows : current.Follows answers)
    {keyword : String} {rest : Answer} (hrest : Left (answers.find? keyword) (some rest)) :
    (current.replace keyword rest).Follows answers := by
  intro other
  rw [find?_replace]
  split_ifs with hkeyword
  · rwa [hkeyword]
  · exact hfollows other

/-- The lines that answer an inquiry: the octets prepared for it, or data from its source, and
`END`. -/
inductive Gives (answers : Answers) (keyword : String) : List Line → Prop
  | octets {payload : Bytes} (hfind : answers.find? keyword = some (.octets payload)) :
    Gives answers keyword (Line.ofPayload payload ++ [⟨"END", []⟩])
  | source {inlet : Inlet} {data : List Line}
      (hfind : answers.find? keyword = some (.source inlet))
      (hdata : ∀ line ∈ data, line.IsData) :
    Gives answers keyword (data ++ [⟨"END", []⟩])

/-- The lines that cancel a command at an inquiry, and why: there is no answer, or its source
failed. -/
inductive Fails (answers : Answers) (keyword : String) : List Line → Failure → Prop
  | missing (hfind : answers.find? keyword = none) :
    Fails answers keyword [⟨"CAN", []⟩] (.missingAnswer keyword)
  | source {inlet : Inlet} {data : List Line} {cause : IoError}
      (hfind : answers.find? keyword = some (.source inlet))
      (hdata : ∀ line ∈ data, line.IsData) (hcause : Arrival.failure cause ∈ inlet.arrivals)
      (hkind : cause.kind ≠ .interrupted) :
    Fails answers keyword (data ++ [⟨"CAN", []⟩]) (.io cause)

end Answers

namespace Client

variable {client : Client}

/-- The client with another outlet. -/
def onto (client : Client) (outlet : Outlet) : Client :=
  { client with wire := { client.wire with outlet := outlet } }

theorem cancel_obliging (hobliging : client.wire.outlet.Obliging) (reason : Failure) :
    ∃ after, client.cancel reason = (.waiting (.cancelReply reason), client.onto after) ∧
      client.wire.outlet.Delivered [⟨"CAN", []⟩] after := by
  obtain ⟨after, hsend, hdelivered⟩ := Outlet.sendLine_obliging "CAN" [] hobliging
  refine ⟨after, ?_, hdelivered⟩
  rw [cancel, hsend, compose_cancel]
  rfl

theorem sendEnd_obliging (client : Client) {outlet : Outlet} (hobliging : outlet.Obliging)
    (awaiting : Awaiting) :
    ∃ after, client.afterWrite awaiting (outlet.sendLine "END" []) =
        (.waiting awaiting, client.onto after) ∧
      outlet.Delivered [⟨"END", []⟩] after := by
  obtain ⟨after, hsend, hdelivered⟩ := Outlet.sendLine_obliging "END" [] hobliging
  refine ⟨after, ?_, hdelivered⟩
  rw [hsend, compose_end]
  rfl

/-- An inquiry is answered from what was prepared for it, or the command is cancelled. -/
theorem answer_obliging (hobliging : client.wire.outlet.Obliging) (collected : Bytes)
    {answers current : Answers} (hfollows : current.Follows answers) (inquiry : Line) :
    ∃ awaiting lines after,
      client.answer collected current inquiry = (.waiting awaiting, client.onto after) ∧
      client.wire.outlet.Delivered lines after ∧
      ((∃ next, awaiting = .reply collected next ∧ next.Follows answers ∧
          answers.Gives (keyword inquiry) lines) ∨
        ∃ reason, awaiting = .cancelReply reason ∧
          answers.Fails (keyword inquiry) lines reason) := by
  have hleft := hfollows (keyword inquiry)
  have hreplaced : ∀ {rest}, Answers.Left (answers.find? (keyword inquiry)) (some rest) →
      (current.replace (keyword inquiry) rest).Follows answers := fun hrest ↦ hfollows.replace hrest
  unfold answer
  generalize hprepared : answers.find? (keyword inquiry) = prepared at hleft hreplaced
  generalize current.find? (keyword inquiry) = available at hleft ⊢
  cases hleft with
  | nothing =>
    obtain ⟨after, hcancel, hdelivered⟩ := cancel_obliging hobliging
      (.missingAnswer (keyword inquiry))
    exact ⟨_, _, after, hcancel, hdelivered, .inr ⟨_, rfl, .missing hprepared⟩⟩
  | octets payload =>
    obtain ⟨between, hsend, hdata⟩ := Outlet.sendData_obliging payload hobliging
    obtain ⟨after, hanswered, hend⟩ := sendEnd_obliging client hdata.obliging
      (.reply collected (current.replace (keyword inquiry) (.octets payload)))
    refine ⟨_, _, after, ?_, hdata.trans hend,
      .inl ⟨_, rfl, hreplaced (.octets payload), .octets hprepared⟩⟩
    simp only [Answer.send, hsend]
    exact hanswered
  | @source inlet left hrest =>
    obtain ⟨data, sending, rest, between, hdrain, hdelivered, hdata, hlast, hsending⟩ :=
      Answer.drain_obliging hobliging left
    rcases hsending.of_failsLike hrest with rfl | ⟨cause, rfl, hmem, hkind⟩
    · obtain ⟨after, hanswered, hend⟩ := sendEnd_obliging client hdelivered.obliging
        (.reply collected (current.replace (keyword inquiry) (.source rest)))
      refine ⟨_, _, after, ?_, hdelivered.trans hend,
        .inl ⟨_, rfl, hreplaced (.source (hlast.trans hrest)), .source hprepared hdata⟩⟩
      simp only [Answer.send, hdrain]
      exact hanswered
    · have hreached : (client.onto between).wire.outlet.Obliging := hdelivered.obliging
      obtain ⟨after, hcancel, hcancelled⟩ := cancel_obliging hreached (.io cause)
      refine ⟨_, _, after, ?_, hdelivered.trans hcancelled,
        .inr ⟨_, rfl, .source hprepared hdata hmem hkind⟩⟩
      simp only [Answer.send, hdrain]
      exact hcancel

end Client

/-! ### The course of a command -/

/-- The line ends a reply. -/
def Line.Ends (line : Line) : Prop :=
  line.verb = "OK" ∨ line.verb = "ERR"

namespace Client

/-- The inquiries among lines are answered, each in its turn. -/
def Answered (answers : Answers) (heard written : List Line) : Prop :=
  ∃ replies, written = replies.flatten ∧
    List.Forall₂ (fun inquiry reply ↦ answers.Gives (keyword inquiry) reply)
      (heard.filter (·.verb = "INQUIRE")) replies

/-- What a command comes to that has collected data when its reply ends. -/
inductive Concludes (collected : Bytes) : Reading Line → Turn → Prop
  | done {line : Line} (hverb : line.verb = "OK") :
    Concludes collected (.value line) (.returned (.ok collected))
  | fault {line : Line} {fault : Fault} (hverb : line.verb = "ERR")
      (hdecode : Fault.decode line.textLossy = .ok fault) :
    Concludes collected (.value line) (.returned (.error (.peer fault)))
  | malformed {line : Line} {text : String} (hverb : line.verb = "ERR")
      (hdecode : Fault.decode line.textLossy = .error (.invalidResponse text)) :
    Concludes collected (.value line) (.returned (.error (.invalidResponse text)))
  | lost {cause : Failure} (hcause : cause.IsUnread) :
    Concludes collected (.error cause) (.returned (.error cause))
  | waits (answers : Answers) :
    Concludes collected .waiting (.waiting (.reply collected answers))

/-- What a command comes to that was cancelled for a reason. -/
inductive Resigns (reason : Failure) : Reading Line → Turn → Prop
  | ended {line : Line} (hline : line.Ends) :
    Resigns reason (.value line) (.returned (.error reason))
  | lost (cause : Failure) : Resigns reason (.error cause) (.returned (.error reason))
  | waits : Resigns reason .waiting (.waiting (.cancelReply reason))

/-- How a command goes on that has collected data: the lines that it hears, what comes after them,
what it writes meanwhile, why it is cancelled if it is, and what it comes to. -/
inductive Course (answers : Answers) (collected : Bytes) :
    List Line → Reading Line → List Line → Option Failure → Turn → Prop
  | told {heard written : List Line} {stop : Reading Line} {turn : Turn}
      (hheard : ∀ line ∈ heard, ¬line.Ends) (hwritten : Answered answers heard written)
      (hstop : Concludes (collected ++ heard.flatMap Line.data) stop turn) :
    Course answers collected heard stop written none turn
  | cancelled {before later written refusal : List Line} {inquiry : Line} {reason : Failure}
      {stop : Reading Line} {turn : Turn}
      (hbefore : ∀ line ∈ before, ¬line.Ends) (hwritten : Answered answers before written)
      (hinquiry : inquiry.verb = "INQUIRE")
      (hrefusal : answers.Fails (keyword inquiry) refusal reason)
      (hlater : ∀ line ∈ later, ¬line.Ends) (hstop : Resigns reason stop turn) :
    Course answers collected (before ++ inquiry :: later) stop (written ++ refusal) (some reason)
      turn

/-! ### Line by line -/

theorem answered_nil (answers : Answers) : Answered answers [] [] :=
  ⟨[], rfl, .nil⟩

theorem Answered.cons_of_ne {answers : Answers} {line : Line} {heard written : List Line}
    (hverb : line.verb ≠ "INQUIRE") (hanswered : Answered answers heard written) :
    Answered answers (line :: heard) written := by
  obtain ⟨replies, hwritten, hreplies⟩ := hanswered
  refine ⟨replies, hwritten, ?_⟩
  rwa [List.filter_cons_of_neg (by simpa using hverb)]

theorem Answered.cons_inquiry {answers : Answers} {inquiry : Line} {reply heard written : List Line}
    (hverb : inquiry.verb = "INQUIRE") (hreply : answers.Gives (keyword inquiry) reply)
    (hanswered : Answered answers heard written) :
    Answered answers (inquiry :: heard) (reply ++ written) := by
  obtain ⟨replies, rfl, hreplies⟩ := hanswered
  refine ⟨reply :: replies, rfl, ?_⟩
  rw [List.filter_cons_of_pos (by simpa using hverb)]
  exact .cons hreply hreplies

section Line

variable {answers : Answers} {collected : Bytes} {heard written : List Line} {stop : Reading Line}
  {reason : Option Failure} {turn : Turn}

/-- A line that comes before adds what it carries. -/
theorem Course.cons_of_ne {line : Line} (hline : ¬line.Ends) (hverb : line.verb ≠ "INQUIRE")
    (hcourse : Course answers (collected ++ line.data) heard stop written reason turn) :
    Course answers collected (line :: heard) stop written reason turn := by
  cases hcourse with
  | told hheard hwritten hstop =>
    refine .told (List.forall_mem_cons.2 ⟨hline, hheard⟩) (hwritten.cons_of_ne hverb) ?_
    rwa [List.flatMap_cons, ← List.append_assoc]
  | cancelled hbefore hwritten hinquiry hrefusal hlater hstop =>
    exact .cancelled (List.forall_mem_cons.2 ⟨hline, hbefore⟩) (hwritten.cons_of_ne hverb)
      hinquiry hrefusal hlater hstop

theorem Course.cons_inquiry {inquiry : Line} {reply : List Line}
    (hverb : inquiry.verb = "INQUIRE") (hreply : answers.Gives (keyword inquiry) reply)
    (hcourse : Course answers collected heard stop written reason turn) :
    Course answers collected (inquiry :: heard) stop (reply ++ written) reason turn := by
  have hline : ¬inquiry.Ends := by
    rw [Line.Ends, hverb]
    decide
  have hdata : inquiry.data = [] := by
    rw [Line.data, hverb]
    rfl
  cases hcourse with
  | told hheard hwritten hstop =>
    refine .told (List.forall_mem_cons.2 ⟨hline, hheard⟩) (hwritten.cons_inquiry hverb hreply) ?_
    rwa [List.flatMap_cons, hdata, List.nil_append]
  | cancelled hbefore hwritten hinquiry hrefusal hlater hstop =>
    rw [← List.append_assoc]
    exact .cancelled (List.forall_mem_cons.2 ⟨hline, hbefore⟩)
      (hwritten.cons_inquiry hverb hreply) hinquiry hrefusal hlater hstop

end Line

/-- A client that has cancelled passes over everything up to the end of the reply. -/
theorem advance_cancelled (client : Client) (reason : Failure) :
    ∃ heard stop turn last,
      client.advance (.waiting (.cancelReply reason)) = (turn, client.past last) ∧
      client.wire.reader.Hears heard stop last ∧ (∀ line ∈ heard, ¬line.Ends) ∧
      Resigns reason stop turn := by
  induction hweight : client.wire.reader.weight using Nat.strongRecOn generalizing client with
  | ind weight ih =>
    subst hweight
    rcases hread : client.wire.reader.readLine with ⟨line | cause | _, next⟩
    case value =>
      rw [advance_of_value _ hread]
      by_cases hline : line.verb = "OK" ∨ line.verb = "ERR"
      · refine ⟨[], .value line, .returned (.error reason), next, ?_, ⟨_, .nothing _, hread⟩,
          nofun, .ended hline⟩
        rw [hear, if_pos hline]
        exact advance_returned _ _
      · obtain ⟨heard, stop, turn, last, hadvance, hhears, hheard, hstop⟩ :=
          ih _ (LineReader.weight_readLine_lt hread) (client.past next) rfl
        refine ⟨line :: heard, stop, turn, last, ?_, hhears.line hread,
          List.forall_mem_cons.2 ⟨hline, hheard⟩, hstop⟩
        rw [hear, if_neg hline]
        exact hadvance
    case error =>
      exact ⟨[], .error cause, _, next, advance_of_error _ hread, ⟨_, .nothing _, hread⟩, nofun,
        .lost cause⟩
    case waiting =>
      exact ⟨[], .waiting, _, next, advance_of_waiting _ hread, ⟨_, .nothing _, hread⟩, nofun,
        .waits⟩

/-- The fault of an `ERR` line, or what is wrong with it. -/
theorem concludes_of_fault (collected : Bytes) {line : Line} (hverb : line.verb = "ERR") :
    Concludes collected (.value line) (.returned (.error (reported line))) := by
  unfold reported
  cases hdecode : Fault.decode line.textLossy with
  | ok fault => exact .fault hverb hdecode
  | error cause =>
    obtain ⟨text, rfl⟩ := Fault.invalidResponse_of_decode hdecode
    exact .malformed hverb hdecode

/-- A client that waits for a reply, with some of the answers left, follows a course: it hears lines
and what comes after them, and writes its own. -/
def Pursues (client : Client) (collected : Bytes) (answers current : Answers) : Prop :=
  ∃ heard stop written reason turn last after,
    client.advance (.waiting (.reply collected current)) = (turn, (client.past last).onto after) ∧
      client.wire.reader.Hears heard stop last ∧ client.wire.outlet.Delivered written after ∧
      Course answers collected heard stop written reason turn

section Pursues

variable {client : Client} {collected : Bytes} {answers current : Answers} {line : Line}
  {next : LineReader}

/-- The last thing that is read for a command. -/
theorem pursues_of_stop {stop : Reading Line} {turn : Turn}
    (hobliging : client.wire.outlet.Obliging) (hread : client.wire.reader.readLine = (stop, next))
    (hadvance : client.advance (.waiting (.reply collected current)) = (turn, client.past next))
    (hstop : Concludes collected stop turn) : client.Pursues collected answers current := by
  refine ⟨[], stop, [], none, turn, next, client.wire.outlet, hadvance, ⟨_, .nothing _, hread⟩,
    hobliging.delivered, .told (List.forall_mem_nil _) (answered_nil answers) ?_⟩
  rwa [List.flatMap_nil, List.append_nil]

/-- A line that ends the reply. -/
theorem pursues_of_ends (hobliging : client.wire.outlet.Obliging)
    (hread : client.wire.reader.readLine = (.value line, next)) (hline : line.Ends) :
    client.Pursues collected answers current := by
  by_cases hok : line.verb = "OK"
  · have hadvance : client.advance (.waiting (.reply collected current)) =
        (.returned (.ok collected), client.past next) := by
      rw [advance_of_value _ hread, hear, if_pos hok, advance_returned]
    exact pursues_of_stop hobliging hread hadvance (.done hok)
  · have herr := hline.resolve_left hok
    have hadvance : client.advance (.waiting (.reply collected current)) =
        (.returned (.error (reported line)), client.past next) := by
      rw [advance_of_value _ hread, hear, if_neg hok, if_pos herr, advance_returned]
    exact pursues_of_stop hobliging hread hadvance (concludes_of_fault _ herr)

/-- An inquiry is answered, and the client goes on, or it cancels. -/
theorem pursues_of_inquiry (hobliging : client.wire.outlet.Obliging)
    (hread : client.wire.reader.readLine = (.value line, next)) (hinquiry : line.verb = "INQUIRE")
    (hfollows : current.Follows answers)
    (hlater : ∀ outlet left, outlet.Obliging → left.Follows answers →
      ((client.past next).onto outlet).Pursues collected answers left) :
    client.Pursues collected answers current := by
  have hreached : (client.past next).wire.outlet.Obliging := hobliging
  obtain ⟨awaiting, reply, between, hanswer, hdelivered, hawaiting⟩ :=
    answer_obliging hreached collected hfollows line
  have hadvance : client.advance (.waiting (.reply collected current)) =
      ((client.past next).onto between).advance (.waiting awaiting) := by
    have hok : line.verb ≠ "OK" := by rw [hinquiry]; decide
    have herr : line.verb ≠ "ERR" := by rw [hinquiry]; decide
    have hdata : line.verb ≠ "D" := by rw [hinquiry]; decide
    rw [advance_of_value _ hread, hear, if_neg hok, if_neg herr, if_neg hdata, if_pos hinquiry,
      hanswer]
  rcases hawaiting with ⟨left, rfl, hleft, hgives⟩ | ⟨reason, rfl, hfails⟩
  · obtain ⟨heard, stop, written, reason, turn, last, after, hturn, hhears, hwritten, hcourse⟩ :=
      hlater between left hdelivered.obliging hleft
    exact ⟨line :: heard, stop, reply ++ written, reason, turn, last, after, hadvance.trans hturn,
      hhears.line hread, hdelivered.trans hwritten, hcourse.cons_inquiry hinquiry hgives⟩
  · obtain ⟨heard, stop, turn, last, hturn, hhears, hheard, hstop⟩ :=
      advance_cancelled ((client.past next).onto between) reason
    have hcourse : Course answers collected ([] ++ line :: heard) stop ([] ++ reply)
        (some reason) turn :=
      .cancelled (List.forall_mem_nil _) (answered_nil answers) hinquiry hfails hheard hstop
    exact ⟨line :: heard, stop, reply, some reason, turn, last, between, hadvance.trans hturn,
      hhears.line hread, hdelivered, hcourse⟩

/-- Any other line is passed over, and what it carries is collected. -/
theorem pursues_of_other (hread : client.wire.reader.readLine = (.value line, next))
    (hline : ¬line.Ends) (hinquiry : line.verb ≠ "INQUIRE")
    (hlater : (client.past next).Pursues (collected ++ line.data) answers current) :
    client.Pursues collected answers current := by
  have hhear : (client.past next).hear line (.reply collected current) =
      (.waiting (.reply (collected ++ line.data) current), client.past next) := by
    obtain ⟨hok, herr⟩ := not_or.1 hline
    rw [hear, if_neg hok, if_neg herr, if_neg hinquiry, Line.data]
    split_ifs
    · rfl
    · rw [List.append_nil]
  obtain ⟨heard, stop, written, reason, turn, last, after, hturn, hhears, hwritten, hcourse⟩ :=
    hlater
  refine ⟨line :: heard, stop, written, reason, turn, last, after, ?_, hhears.line hread,
    hwritten, hcourse.cons_of_ne hline hinquiry⟩
  rw [advance_of_value _ hread, hhear]
  exact hturn

end Pursues

/-- A client that waits for a reply follows its course. -/
theorem advance_reply (client : Client) (hobliging : client.wire.outlet.Obliging)
    (collected : Bytes) {answers current : Answers} (hfollows : current.Follows answers) :
    client.Pursues collected answers current := by
  induction hweight : client.wire.reader.weight using Nat.strongRecOn
    generalizing client collected current with
  | ind weight ih =>
    subst hweight
    rcases hread : client.wire.reader.readLine with ⟨line | cause | _, next⟩
    case error =>
      exact pursues_of_stop hobliging hread (advance_of_error _ hread)
        (.lost (LineReader.isUnread_of_readLine hread))
    case waiting =>
      exact pursues_of_stop hobliging hread (advance_of_waiting _ hread) (.waits current)
    case value =>
      have hless := LineReader.weight_readLine_lt hread
      by_cases hline : line.Ends
      · exact pursues_of_ends hobliging hread hline
      by_cases hinquiry : line.verb = "INQUIRE"
      · exact pursues_of_inquiry hobliging hread hinquiry hfollows fun outlet left houtlet hleft ↦
          ih _ hless ((client.past next).onto outlet) houtlet collected hleft rfl
      · exact pursues_of_other hread hline hinquiry
          (ih _ hless (client.past next) hobliging (collected ++ line.data) hfollows rfl)

/-! ### Calls -/

theorem cancel_not_mem_of_gives {answers : Answers} {keyword : String} {reply : List Line}
    (hgives : answers.Gives keyword reply) : (⟨"CAN", []⟩ : Line) ∉ reply := by
  have hdata : ∀ {data : List Line}, (∀ line ∈ data, line.IsData) →
      (⟨"CAN", []⟩ : Line) ∉ data ++ [⟨"END", []⟩] := by
    intro data hdata hmem
    rcases List.mem_append.1 hmem with hmem | hmem
    · exact absurd (hdata _ hmem).2 (by decide)
    · exact absurd (congrArg Line.verb (List.mem_singleton.1 hmem)) (by decide)
  cases hgives with
  | octets hfind => exact hdata fun _ ↦ Line.isData_of_mem_ofPayload
  | source hfind hlines => exact hdata hlines

theorem Answered.cancel_not_mem {answers : Answers} {heard written : List Line}
    (hanswered : Answered answers heard written) : (⟨"CAN", []⟩ : Line) ∉ written := by
  obtain ⟨replies, rfl, hreplies⟩ := hanswered
  generalize heard.filter (·.verb = "INQUIRE") = inquiries at hreplies
  induction hreplies with
  | nil => exact List.not_mem_nil
  | cons hreply hlater ih => exact List.not_mem_append (cancel_not_mem_of_gives hreply) ih

section Course

variable {answers : Answers} {collected : Bytes} {heard written : List Line} {stop : Reading Line}
  {reason : Option Failure} {turn : Turn}

/-- `CAN` is written exactly if the command is cancelled. -/
theorem Course.cancel_mem_iff (hcourse : Course answers collected heard stop written reason turn) :
    (⟨"CAN", []⟩ : Line) ∈ written ↔ reason.isSome := by
  cases hcourse with
  | told hheard hwritten hstop => simpa using hwritten.cancel_not_mem
  | cancelled hbefore hwritten hinquiry hrefusal hlater hstop =>
    cases hrefusal with
    | missing hfind => simp
    | source hfind hdata hcause hkind => simp

/-- A cancelled command returns why it was. -/
theorem Course.returns_reason {failure : Failure}
    (hcourse : Course answers collected heard stop written (some failure) turn)
    (hstop : stop ≠ .waiting) : turn = .returned (.error failure) := by
  cases hcourse with
  | cancelled hbefore hwritten hinquiry hrefusal hlater hresigns =>
    cases hresigns with
    | ended hline => rfl
    | lost cause => rfl
    | waits => exact absurd rfl hstop

/-- Only a command that was cancelled for it returns that an answer is missing. -/
theorem Course.reason_of_missing {keyword : String}
    (hcourse : Course answers collected heard stop written reason
      (.returned (.error (.missingAnswer keyword)))) :
    reason = some (.missingAnswer keyword) := by
  cases hcourse with
  | told hheard hwritten hstop =>
    cases hstop with
    | lost hcause => exact hcause.elim
  | cancelled hbefore hwritten hinquiry hrefusal hlater hresigns =>
    cases hresigns with
    | ended hline => rfl
    | lost cause => rfl

theorem Course.returned_of_stop (hcourse : Course answers collected heard stop written reason turn)
    (hstop : stop ≠ .waiting) : ∃ outcome, turn = .returned outcome := by
  cases hcourse with
  | told hheard hwritten hconcludes =>
    cases hconcludes with
    | waits => exact absurd rfl hstop
    | _ => exact ⟨_, rfl⟩
  | cancelled hbefore hwritten hinquiry hrefusal hlater hresigns =>
    cases hresigns with
    | waits => exact absurd rfl hstop
    | _ => exact ⟨_, rfl⟩

end Course

/-- What a call for a command does: it hears lines and what comes after them, and writes the command
and further lines, for the reason given if it is cancelled. -/
structure Transacts (client : Client) (command : Bytes) (answers : Answers) (turn : Turn)
    (after : Client) (heard : List Line) (stop : Reading Line) (written : List Line)
    (reason : Option Failure) : Prop where
  course : Course answers [] heard stop written reason turn
  /-- The command and the further lines are all that is written. -/
  writes : after.wire.outlet.octets =
    client.wire.outlet.octets ++ command ++ written.flatMap Line.octets
  /-- The lines and what comes after them are all that is read. -/
  hears : client.wire.reader.Hears heard stop after.wire.reader
  /-- They are what the octets of the stream say, however these arrive. -/
  spells : ∀ stream, client.wire.reader.Owes stream → ∃ between left,
    ByteStream.Says stream heard between ∧ after.wire.reader.Owes left ∧
      (stop.isStreamFailure = true ∨ ByteStream.reading between = (stop.forgetLength, left))
  /-- `CAN` is written exactly if the command is cancelled. -/
  cancels : (⟨"CAN", []⟩ : Line) ∈ written ↔ reason.isSome
  /-- A cancelled command returns why. -/
  gives : ∀ failure, reason = some failure → stop ≠ .waiting → turn = .returned (.error failure)
  /-- That an answer is missing is returned only then. -/
  misses : ∀ keyword, turn = .returned (.error (.missingAnswer keyword)) →
    reason = some (.missingAnswer keyword)
  /-- On a stream that ends the call returns. -/
  returns : client.wire.reader.inlet.ended = true → ∃ outcome, turn = .returned outcome

/-- A call for a command that fits a line transacts it, whatever the server says. -/
theorem transacts_of_encode (client : Client) (hobliging : client.wire.outlet.Obliging)
    {verb : String} {parameters octets : Bytes} (hline : Line.encode verb parameters = .ok octets)
    (answers : Answers) :
    ∃ heard stop written reason,
      Transacts client octets answers (client.call (.command verb parameters answers)).1
        (client.call (.command verb parameters answers)).2 heard stop written reason := by
  obtain ⟨sent, hsend, hcommand⟩ := Outlet.sendLine_obliging verb parameters hobliging
  have hcomposed := Line.compose_of_encode hline
  have hoctets : (Line.mk (upperCase verb) parameters).octets = octets := by
    rw [Line.encode_eq_map_compose, hcomposed] at hline
    exact Except.ok.inj hline
  rw [hcomposed] at hsend hcommand
  obtain ⟨heard, stop, written, reason, turn, last, after, hadvance, hhears, hwritten, hcourse⟩ :=
    advance_reply (client.onto sent) hcommand.obliging [] (Answers.follows_refl answers)
  have hcall : client.call (.command verb parameters answers) =
      (turn, ((client.onto sent).past last).onto after) := by
    rw [call, ask, afterWrite, hsend]
    exact hadvance
  rw [hcall]
  refine ⟨heard, stop, written, reason,
    { course := hcourse
      writes := ?_
      hears := hhears
      spells := fun stream howes ↦ howes.hears hhears
      cancels := hcourse.cancel_mem_iff
      gives := ?_
      misses := ?_
      returns := fun hended ↦ hcourse.returned_of_stop (hhears.ne_waiting hended) }⟩
  · have hfirst : sent.octets = client.wire.outlet.octets ++ octets := by
      simpa [Line.sent, hoctets] using hcommand.octets
    rw [← hfirst]
    exact hwritten.octets
  · rintro failure rfl hstop
    exact hcourse.returns_reason hstop
  · rintro keyword rfl
    exact hcourse.reason_of_missing

/-- A server that inquires on after the source of an answer has failed, and octets that come and go
a few at a time. -/
theorem transacts_of_failing_source :
    let source : Inlet :=
      ⟨[.chunk [0x31], .failure ⟨.interrupted, ""⟩, .failure ⟨.other, "gone"⟩], true⟩
    let answers : Answers := [("A", .octets [0x25]), ("B", .source source)]
    let inlet : Inlet :=
      ⟨Inlet.carried ((Utf8.encode "D x\nINQUIRE A\nINQUIRE B\nINQUIRE C\nOK\n").map ([·])), true⟩
    let client := Client.ofWire (.ofHalves inlet { Outlet.fresh with cap := some 1 })
    client.wire.outlet.Obliging ∧ Line.encode "get" [] = .ok (Utf8.encode "GET\n") ∧
      ∃ heard stop written reason outcome,
        Transacts client (Utf8.encode "GET\n") answers (.returned outcome)
          (client.call (.command "get" [] answers)).2 heard stop written reason := by
  intro source answers inlet client
  have hobliging : client.wire.outlet.Obliging := ⟨rfl, nofun, rfl⟩
  have hline : Line.encode "get" [] = .ok (Utf8.encode "GET\n") := by decide +kernel
  obtain ⟨heard, stop, written, reason, htransacts⟩ :=
    transacts_of_encode client hobliging hline answers
  obtain ⟨outcome, houtcome⟩ := htransacts.returns rfl
  rw [houtcome] at htransacts
  exact ⟨hobliging, hline, heard, stop, written, reason, outcome, htransacts⟩

end Client

end LineProtocol
