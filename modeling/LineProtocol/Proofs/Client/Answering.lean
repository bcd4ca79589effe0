import LineProtocol.Proofs.Line.Channel
import LineProtocol.Client.Basic

/-!
# Answers and their sources

An answer is sent as `D` lines. A source is dependable if its failures are interruptions and if it
gives nothing more once it has given nothing. Such a source is sent whole the first time, whatever
the sizes of its reads, and is empty from then on (`drain_dependable`); another one may fail after
part of it was sent (`drain_holding`).

`Answers.content` is what the answers come to when a keyword is asked for, given the keywords
asked for before. `Current` says what a client has left of the answers then, and `Current.send`
that sending from it sends the content and leaves what remains for the next inquiry.
-/

set_option autoImplicit false

namespace LineProtocol

/-- Every failure is an interruption, and nothing follows an end of file. -/
def Arrival.Dependable : List Arrival → Prop
  | [] => True
  | .failure cause :: later => cause.kind = .interrupted ∧ Dependable later
  | .chunk octets :: later =>
    (octets = [] → later.flatMap Arrival.octets = []) ∧ Dependable later

/-- A source that is only ever interrupted and gives nothing more once it has given nothing. -/
def Inlet.Dependable (inlet : Inlet) : Prop :=
  Arrival.Dependable inlet.arrivals

namespace Answer

/-! ### Sources -/

variable (before : List Line) {source rest : Inlet}

theorem drain_of_nothing (hread : source.read sourceLength = (.octets [], rest)) :
    drain (.holding before) source = (.complete, rest, .holding before) := by
  rw [drain, hread]

theorem drain_of_pending (hread : source.read sourceLength = (.pending, rest)) :
    drain (.holding before) source = (.complete, rest, .holding before) := by
  rw [drain, hread]

theorem drain_of_octets {octets : Bytes} (hsome : octets ≠ [])
    (hread : source.read sourceLength = (.octets octets, rest)) :
    drain (.holding before) source =
      drain (.holding (before ++ Line.ofPayload octets)) rest := by
  obtain ⟨first, others, rfl⟩ := List.exists_cons_of_ne_nil hsome
  rw [drain, hread]
  simp only [Outlet.sendData_holding]

theorem drain_of_interrupted {cause : IoError} (hkind : cause.kind = .interrupted)
    (hread : source.read sourceLength = (.failed cause, rest)) :
    drain (.holding before) source = drain (.holding before) rest := by
  rw [drain, hread]
  simp only [hkind, if_true]

theorem drain_of_failed {cause : IoError} (hkind : cause.kind ≠ .interrupted)
    (hread : source.read sourceLength = (.failed cause, rest)) :
    drain (.holding before) source = (.sourceFailed cause, rest, .holding before) := by
  rw [drain, hread]
  simp only [hkind, if_false]

/-- Draining a source writes data and ends at the end of the source, or where it fails. -/
theorem drain_holding (source : Inlet) :
    ∃ data sending rest,
      drain (.holding before) source = (sending, rest, .holding (before ++ data)) ∧
      (∀ line ∈ data, line.IsData) ∧
      (sending = .complete ∨ ∃ cause, sending = .sourceFailed cause) := by
  induction hweight : source.weight using Nat.strongRecOn generalizing source before with
  | ind weight ih =>
    subst hweight
    have hnone : ∀ line ∈ ([] : List Line), line.IsData := List.forall_mem_nil _
    rcases hread : source.read sourceLength with ⟨octets | cause | _, rest⟩
    case octets =>
      by_cases hsome : octets = []
      · subst hsome
        refine ⟨[], .complete, rest, ?_, hnone, .inl rfl⟩
        rw [drain_of_nothing before hread, List.append_nil]
      · have hless := Inlet.weight_of_read_octets hread
        have hlength := List.length_pos_iff.2 hsome
        obtain ⟨data, sending, final, hdrain, hdata, hsending⟩ :=
          ih rest.weight (by omega) (before ++ Line.ofPayload octets) rest rfl
        refine ⟨Line.ofPayload octets ++ data, sending, final, ?_, ?_, hsending⟩
        · rw [drain_of_octets before hsome hread, hdrain, List.append_assoc]
        · exact List.forall_mem_append.2 ⟨fun _ ↦ Line.isData_of_mem_ofPayload, hdata⟩
    case failed =>
      by_cases hkind : cause.kind = .interrupted
      · obtain ⟨data, sending, final, hdrain, hdata, hsending⟩ :=
          ih rest.weight (Inlet.weight_of_read_failed hread) before rest rfl
        refine ⟨data, sending, final, ?_, hdata, hsending⟩
        rw [drain_of_interrupted before hkind hread, hdrain]
      · refine ⟨[], .sourceFailed cause, rest, ?_, hnone, .inr ⟨cause, rfl⟩⟩
        rw [drain_of_failed before hkind hread, List.append_nil]
    case pending =>
      refine ⟨[], .complete, rest, ?_, hnone, .inl rfl⟩
      rw [drain_of_pending before hread, List.append_nil]

/-- What a read call on a dependable source does: it finds the end, or takes octets off the front,
or is interrupted. -/
theorem read_dependable (h : source.Dependable) :
    (∃ rest, (source.read sourceLength = (.octets [], rest) ∨
        source.read sourceLength = (.pending, rest)) ∧
      source.unread = [] ∧ rest.Dependable ∧ rest.unread = []) ∨
    (∃ octets rest, source.read sourceLength = (.octets octets, rest) ∧ octets ≠ [] ∧
      source.unread = octets ++ rest.unread ∧ rest.Dependable) ∨
    ∃ cause rest, source.read sourceLength = (.failed cause, rest) ∧ cause.kind = .interrupted ∧
      source.unread = rest.unread ∧ rest.Dependable := by
  obtain ⟨arrivals, ended⟩ := source
  cases arrivals with
  | nil =>
    refine .inl ⟨⟨[], ended⟩, ?_, rfl, trivial, rfl⟩
    cases ended
    · exact .inr rfl
    · exact .inl rfl
  | cons arrival later =>
    cases arrival with
    | failure cause => exact .inr (.inr ⟨cause, ⟨later, ended⟩, rfl, h.1, rfl, h.2⟩)
    | chunk octets =>
      by_cases hempty : octets = []
      · subst hempty
        exact .inl ⟨⟨later, ended⟩, .inl rfl, h.1 rfl, h.2, h.1 rfl⟩
      by_cases hlength : octets.length ≤ sourceLength
      · exact .inr (.inl ⟨octets, ⟨later, ended⟩, Inlet.read_chunk later ended hlength, hempty,
          rfl, h.2⟩)
      · refine .inr (.inl ⟨octets.take sourceLength,
          ⟨.chunk (octets.drop sourceLength) :: later, ended⟩, ?_, ?_, ?_, ?_, h.2⟩)
        · simp only [Inlet.read, if_neg hlength]
        · rw [Ne, List.take_eq_nil_iff]
          rintro (hzero | hnil)
          · exact absurd hzero (by decide)
          · exact hempty hnil
        · simp only [Inlet.unread, List.flatMap_cons, Arrival.octets]
          rw [← List.append_assoc, List.take_append_drop]
        · intro hnil
          rw [List.drop_eq_nil_iff] at hnil
          exact absurd hnil hlength

/-- A dependable source is drained whole, and nothing is left of it. -/
theorem drain_dependable (h : source.Dependable) :
    ∃ data rest,
      drain (.holding before) source = (.complete, rest, .holding (before ++ data)) ∧
      (∀ line ∈ data, line.IsData) ∧ data.flatMap Line.parameters = source.unread ∧
      rest.Dependable ∧ rest.unread = [] := by
  induction hweight : source.weight using Nat.strongRecOn generalizing source before with
  | ind weight ih =>
    subst hweight
    rcases read_dependable h with ⟨rest, hread, hunread, hrest, hnone⟩ |
      ⟨octets, rest, hread, hsome, hunread, hrest⟩ | ⟨cause, rest, hread, hkind, hunread, hrest⟩
    · refine ⟨[], rest, ?_, List.forall_mem_nil _, hunread.symm, hrest, hnone⟩
      rw [List.append_nil]
      rcases hread with hread | hread
      · exact drain_of_nothing before hread
      · exact drain_of_pending before hread
    · have hless := Inlet.weight_of_read_octets hread
      have hlength := List.length_pos_iff.2 hsome
      obtain ⟨data, final, hdrain, hdata, hsent, hfinal, hnone⟩ :=
        ih rest.weight (by omega) (before ++ Line.ofPayload octets) hrest rfl
      refine ⟨Line.ofPayload octets ++ data, final, ?_, ?_, ?_, hfinal, hnone⟩
      · rw [drain_of_octets before hsome hread, hdrain, List.append_assoc]
      · exact List.forall_mem_append.2 ⟨fun _ ↦ Line.isData_of_mem_ofPayload, hdata⟩
      · rw [List.flatMap_append, Line.flatMap_parameters_ofPayload, hsent, hunread]
    · obtain ⟨data, final, hdrain, hdata, hsent, hfinal, hnone⟩ :=
        ih rest.weight (Inlet.weight_of_read_failed hread) before hrest rfl
      refine ⟨data, final, ?_, hdata, hsent.trans hunread.symm, hfinal, hnone⟩
      rw [drain_of_interrupted before hkind hread, hdrain]

/-- Sending an answer writes data, unless its source fails before the end. -/
theorem send_holding (answer : Answer) :
    ∃ data sending rest,
      answer.send (.holding before) = (sending, rest, .holding (before ++ data)) ∧
      (∀ line ∈ data, line.IsData) ∧
      (sending = .complete ∨ ∃ cause, sending = .sourceFailed cause) := by
  cases answer with
  | octets payload =>
    refine ⟨Line.ofPayload payload, .complete, .octets payload, ?_,
      fun line ↦ Line.isData_of_mem_ofPayload, .inl rfl⟩
    rw [send, Outlet.sendData_holding]
  | source inlet =>
    obtain ⟨data, sending, rest, hdrain, hdata, hsending⟩ := drain_holding before inlet
    refine ⟨data, sending, .source rest, ?_, hdata, hsending⟩
    rw [send, hdrain]

end Answer

/-! ### Prepared answers -/

namespace Answers

/-- What the answers come to for a keyword when the given ones were asked for before: octets are
the same every time, and a source is used up by the first inquiry. -/
def content (answers : Answers) (asked : List String) (keyword : String) : Option Bytes :=
  match answers.find? keyword with
  | none => none
  | some (.octets payload) => some payload
  | some (.source inlet) => some (if keyword ∈ asked then [] else inlet.unread)

/-- Every source among the answers is dependable. -/
def Dependable (answers : Answers) : Prop :=
  ∀ keyword inlet, answers.find? keyword = some (.source inlet) → inlet.Dependable

/-- An answer as it was prepared, and what is left of it. -/
inductive Remains (asked : Prop) : Option Answer → Option Answer → Prop
  | nothing : Remains asked none none
  | octets (payload : Bytes) : Remains asked (some (.octets payload)) (some (.octets payload))
  | source (inlet : Inlet) (hasked : ¬asked) (hinlet : inlet.Dependable) :
      Remains asked (some (.source inlet)) (some (.source inlet))
  | drained (inlet rest : Inlet) (hasked : asked) (hrest : rest.Dependable)
      (hunread : rest.unread = []) : Remains asked (some (.source inlet)) (some (.source rest))

/-- What is left of the answers once the given keywords were asked for. -/
def Current (answers : Answers) (asked : List String) (current : Answers) : Prop :=
  ∀ keyword, Remains (keyword ∈ asked) (answers.find? keyword) (current.find? keyword)

theorem current_nil {answers : Answers} (h : answers.Dependable) :
    Current answers [] answers := by
  intro keyword
  rcases hfind : answers.find? keyword with _ | payload | inlet
  · exact .nothing
  · exact .octets payload
  · exact .source inlet List.not_mem_nil (h keyword inlet hfind)

theorem find?_filter_ne {keyword other : String} (answers : Answers) (h : other ≠ keyword) :
    find? (answers.filter (·.1 ≠ keyword)) other = answers.find? other := by
  unfold find?
  induction answers with
  | nil => rfl
  | cons pair later ih =>
    by_cases hkey : pair.1 = keyword
    · have hskip : (other == pair.1) = false := by
        rw [hkey]
        exact beq_false_of_ne h
      rw [List.filter_cons_of_neg (by simp [hkey]), List.lookup_cons, hskip, ih]
    · rw [List.filter_cons_of_pos (by simp [hkey]), List.lookup_cons, List.lookup_cons, ih]

theorem find?_replace (answers : Answers) (keyword other : String) (answer : Answer) :
    (answers.replace keyword answer).find? other =
      if other = keyword then some answer else answers.find? other := by
  by_cases h : other = keyword
  · subst h
    simp [replace, find?]
  · have hskip : (other == keyword) = false := beq_false_of_ne h
    rw [if_neg h, ← find?_filter_ne answers h, replace, find?, List.lookup_cons, hskip]
    rfl

/-- Sending what is left of an answer sends what the answer comes to, and what is left after that
is what remains once its keyword was asked for. -/
theorem Current.send {answers current : Answers} {asked : List String} {keyword : String}
    {payload : Bytes} (hcurrent : Current answers asked current)
    (hcontent : answers.content asked keyword = some payload) (before : List Line) :
    ∃ prepared data rest, current.find? keyword = some prepared ∧
      prepared.send (.holding before) = (.complete, rest, .holding (before ++ data)) ∧
      (∀ line ∈ data, line.IsData) ∧ data.flatMap Line.parameters = payload ∧
      Current answers (keyword :: asked) (current.replace keyword rest) := by
  have hothers : ∀ rest : Answer,
      Remains True (answers.find? keyword) (some rest) →
      Current answers (keyword :: asked) (current.replace keyword rest) := by
    intro rest hrest other
    rw [find?_replace]
    by_cases h : other = keyword
    · subst h
      simpa using hrest
    · simpa [h] using hcurrent other
  have hkeyword := hcurrent keyword
  unfold content at hcontent
  generalize answers.find? keyword = prepared at hkeyword hcontent hothers
  generalize current.find? keyword = left at hkeyword
  cases hkeyword with
  | nothing => exact nomatch hcontent
  | octets sent =>
    obtain rfl := Option.some.inj hcontent
    refine ⟨.octets sent, Line.ofPayload sent, .octets sent, rfl, ?_,
      fun line ↦ Line.isData_of_mem_ofPayload, Line.flatMap_parameters_ofPayload sent,
      hothers _ (.octets sent)⟩
    rw [Answer.send, Outlet.sendData_holding]
  | source inlet hasked hinlet =>
    simp only [hasked, if_false, Option.some.injEq] at hcontent
    obtain ⟨data, rest, hdrain, hdata, hsent, hrest, hunread⟩ :=
      Answer.drain_dependable before hinlet
    refine ⟨.source inlet, data, .source rest, rfl, ?_, hdata, hsent.trans hcontent,
      hothers _ (.drained inlet rest trivial hrest hunread)⟩
    rw [Answer.send, hdrain]
  | drained inlet left hasked hleft hempty =>
    simp only [hasked, if_true, Option.some.injEq] at hcontent
    obtain ⟨data, rest, hdrain, hdata, hsent, hrest, hunread⟩ :=
      Answer.drain_dependable before hleft
    refine ⟨.source left, data, .source rest, rfl, ?_, hdata,
      (hsent.trans hempty).trans hcontent, hothers _ (.drained inlet rest trivial hrest hunread)⟩
    rw [Answer.send, hdrain]

end Answers

end LineProtocol
