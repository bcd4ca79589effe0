import LineProtocol.Proofs.Line.Refusal

/-!
# Only whole lines are written

A writer has calls for lines of a verb, for payloads, faults, comments, status lines and inquiries.
Whatever they are given, what they write on a stream that takes it is whole lines of their own
verb (`Line.Whole`): the only line feed of a line is its last octet, so no argument can smuggle in
a line of another kind. `wholeLines_of_performAll` says this of any sequence of calls, and that
each call but that for a payload writes one line if it goes well and nothing if it does not.
-/

set_option autoImplicit false

namespace LineProtocol

/-- A whole line of a verb: the verb in upper case, nothing more or a space and what follows it,
and the line feed. There is no other line feed, and behind the verb neither carriage return nor
backslash. -/
structure Line.Whole (verb : String) (octets : Bytes) : Prop where
  length : octets.length ≤ maxLength
  feed : octets.count Octet.lf = 1
  shape : ∃ tail, octets = Utf8.encode (upperCase verb) ++ tail ++ [Octet.lf] ∧
    (tail = [] ∨ tail.head? = some Octet.space) ∧
    ∀ octet ∈ tail, octet ≠ Octet.cr ∧ octet ≠ 0x5C

/-- A call of a writer. -/
inductive Sending where
  | line (verb : String) (parameters : Bytes)
  | data (payload : Bytes)
  | fault (fault : Fault)
  | comment (text : String)
  | status (keyword text : String)
  | inquiry (keyword : String)

namespace Sending

/-- The verb of what a call writes. -/
def verb : Sending → String
  | .line verb _ => verb
  | .data _ => "D"
  | .fault _ => "ERR"
  | .comment _ => "#"
  | .status _ _ => "S"
  | .inquiry _ => "INQUIRE"

/-- Whether a call writes a payload, which can take any number of lines. -/
def isData : Sending → Bool
  | .data _ => true
  | .line _ _ | .fault _ | .comment _ | .status _ _ | .inquiry _ => false

/-- The parameters of the one line that a call writes if it writes no payload. -/
def parameters : Sending → Bytes
  | .line _ parameters => parameters
  | .data payload => payload
  | .fault reported => Utf8.encode reported.shortened.encode
  | .comment text => Utf8.encode text
  | .status keyword text =>
    Utf8.encode (if text = "" then keyword else keyword ++ " " ++ text)
  | .inquiry keyword => Utf8.encode keyword

/-- One line for a call that went well and none for one that failed, unless a flush can fail and
that behind the line did. -/
def Accounts (flushCause? : Option IoError) (result : Except Failure Unit) (lines : List Bytes) :
    Prop :=
  match result with
  | .ok () => lines.length = 1
  | .error cause =>
    lines = [] ∨ (∃ flushCause ∈ flushCause?, cause = .io flushCause) ∧ lines.length = 1

theorem Accounts.of_later {before after : Option IoError} {result : Except Failure Unit}
    {lines : List Bytes} (h : Accounts after result lines)
    (hflush : after = before ∨ after = none) : Accounts before result lines := by
  rcases hflush with rfl | rfl
  · exact h
  · cases result with
    | ok done => exact h
    | error cause =>
      refine h.imp_right fun hunflushed ↦ ?_
      obtain ⟨⟨flushCause, hmem, -⟩, -⟩ := hunflushed
      exact absurd hmem (Option.not_mem_none flushCause)

end Sending

namespace Outlet

/-- Makes a call. -/
def perform (outlet : Outlet) : Sending → Except Failure Unit × Outlet
  | .line verb parameters => outlet.sendLine verb parameters
  | .data payload => outlet.sendData payload
  | .fault reported => outlet.sendFault reported
  | .comment text => outlet.sendComment text
  | .status keyword text => outlet.sendStatus keyword text
  | .inquiry keyword => outlet.sendLine "INQUIRE" (Utf8.encode keyword)

/-- Makes calls one after the other and gives how each went. -/
def performAll (outlet : Outlet) : List Sending → List (Except Failure Unit) × Outlet
  | [] => ([], outlet)
  | sending :: later =>
    let (result, between) := outlet.perform sending
    let (results, after) := between.performAll later
    (result :: results, after)

end Outlet

/-! ### Lines -/

/-- A line that can be sent is whole. -/
theorem Line.Sendable.whole {line : Line} {verb : String} (h : line.Sendable)
    (hverb : line.verb = upperCase verb) : Line.Whole verb line.octets where
  length := length_octets h
  feed := by
    have hstem : Octet.lf ∉ stem (Utf8.encode line.verb) line.parameters :=
      lf_not_mem_stem h.verb
    rw [octets, List.count_append, List.count_eq_zero.2 hstem]
    rfl
  shape := by
    have hupper : (Utf8.encode line.verb).map Octet.upper = Utf8.encode (upperCase verb) := by
      rw [← Utf8.encode_upperCase, h.upper, hverb]
    refine ⟨_, by rw [octets, stem, hupper], ?_, fun octet hmem ↦ ?_⟩
    · split
      · exact .inl rfl
      · exact .inr rfl
    · split at hmem
      · exact absurd hmem List.not_mem_nil
      · rcases List.mem_cons.1 hmem with rfl | hmem
        · exact ⟨by decide, by decide⟩
        · exact ⟨(Escape.mem_encode hmem).1, (Escape.mem_encode hmem).2.2⟩

theorem Line.whole_of_compose {verb : String} {parameters : Bytes} {line : Line}
    (h : compose verb parameters = .ok line) : Line.Whole verb line.octets := by
  obtain ⟨hsendable, rfl⟩ := sendable_of_compose h
  exact hsendable.whole rfl

namespace Outlet

/-! ### Calls -/

variable {outlet : Outlet}

/-- A call that writes no payload writes its one line, if that can be composed. -/
theorem perform_eq_sendEncoded {sending : Sending} (h : sending.isData = false) :
    outlet.perform sending =
      outlet.sendEncoded ((Line.compose sending.verb sending.parameters).map Line.octets) := by
  cases sending with
  | data payload => exact nomatch h
  | fault reported =>
    rw [perform, sendFault, Fault.line_eq]
    rfl
  | comment text =>
    rw [perform, sendComment, sendLine, Line.encode_eq_map_compose]
    rfl
  | status keyword text =>
    rw [perform, sendStatus, sendLine, Line.encode_eq_map_compose]
    rfl
  | _ =>
    rw [perform, sendLine, Line.encode_eq_map_compose]
    rfl

/-- What a call writes on an outlet without a limit. -/
structure Adds (before : Outlet) (sending : Sending) (lines : List Bytes)
    (result : Except Failure Unit) (after : Outlet) : Prop where
  octets : after.octets = before.octets ++ lines.flatten
  whole : ∀ line ∈ lines, Line.Whole sending.verb line
  limit : after.limit = none
  flushed : after.flushCause? = before.flushCause? ∨ after.flushCause? = none
  accounts : sending.isData = false → Sending.Accounts before.flushCause? result lines

theorem adds_of_sends {before after : Outlet} {sending : Sending} {lines : List Line}
    {result : Except Failure Unit} (hlimit : before.limit = none)
    (h : before.Sends (lines.map Line.octets).flatten result after)
    (hwhole : ∀ line ∈ lines, Line.Whole sending.verb line.octets)
    (hone : sending.isData = false → lines.length = 1) :
    before.Adds sending (lines.map Line.octets) result after := by
  obtain ⟨hoctets, hkept, hflushed, hresult⟩ := h.of_unlimited hlimit
  refine ⟨hoctets, List.forall_mem_map.2 hwhole, hkept, hflushed, fun hdata ↦ ?_⟩
  have hlength : (lines.map Line.octets).length = 1 := (List.length_map _).trans (hone hdata)
  rcases hresult with rfl | ⟨cause, hcause, rfl⟩
  · exact hlength
  · exact .inr ⟨⟨cause, hcause, rfl⟩, hlength⟩

/-- Every call adds whole lines of its verb. -/
theorem perform_adds (hlimit : outlet.limit = none) (sending : Sending) :
    ∃ lines, outlet.Adds sending lines (outlet.perform sending).1 (outlet.perform sending).2 := by
  have hnothing : ∀ result : Except Failure Unit,
      (sending.isData = false → Sending.Accounts outlet.flushCause? result []) →
        outlet.Adds sending [] result outlet := fun result hresult ↦
    ⟨(List.append_nil _).symm, List.forall_mem_nil _, hlimit, .inl rfl, hresult⟩
  by_cases hdata : sending.isData = false
  case pos =>
    rw [perform_eq_sendEncoded hdata]
    cases hcompose : Line.compose sending.verb sending.parameters with
    | error cause => exact ⟨[], hnothing _ fun _ ↦ .inl rfl⟩
    | ok line =>
      have hwhole : ∀ sent ∈ [line], Line.Whole sending.verb sent.octets :=
        List.forall_mem_singleton.2 (Line.whole_of_compose hcompose)
      have hsent := sendEach_sends outlet ([line].map Line.octets)
      exact ⟨_, adds_of_sends hlimit hsent hwhole fun _ ↦ rfl⟩
  case neg =>
    cases sending with
    | data payload =>
      rw [perform, sendData]
      by_cases hempty : payload.isEmpty = true
      · rw [if_pos hempty]
        exact ⟨[], hnothing _ fun h ↦ absurd h hdata⟩
      · rw [if_neg hempty, Line.dataLines_eq]
        refine ⟨_, adds_of_sends hlimit (sendEach_sends outlet _) (fun line hmem ↦ ?_)
          fun h ↦ absurd h hdata⟩
        obtain ⟨hverb, -, hsendable⟩ := Line.mem_ofPayload hmem
        have hupper : upperCase "D" = "D" := by decide
        exact hsendable.whole (hverb.trans hupper.symm)
    | _ => exact absurd rfl hdata

/-- Calls one after the other write whole lines, each call only lines of its own verb, whatever
they are given and also if flushes fail. Each call that is not for a payload accounts for one line
if it goes well and for none if it fails; only if the flush fails behind a line is that line
written all the same. -/
theorem wholeLines_of_performAll (outlet : Outlet) (hroom : outlet.room = none)
    (hcap : outlet.cap ≠ some 0) (sendings : List Sending) :
    ∃ blocks : List (List Bytes),
      (outlet.performAll sendings).2.octets = outlet.octets ++ blocks.flatten.flatten ∧
      List.Forall₂ (fun sending lines ↦ ∀ line ∈ lines, Line.Whole sending.verb line)
        sendings blocks ∧
      List.Forall₂ (fun (sending, result) lines ↦ sending.isData = false →
          Sending.Accounts outlet.flushCause? result lines)
        (sendings.zip (outlet.performAll sendings).1) blocks := by
  have hlimit : outlet.limit = none := by rw [limit, if_neg hcap, hroom]
  clear hroom hcap
  induction sendings generalizing outlet with
  | nil => exact ⟨[], (List.append_nil _).symm, .nil, .nil⟩
  | cons sending later ih =>
    obtain ⟨lines, hadds⟩ := perform_adds hlimit sending
    obtain ⟨blocks, hoctets, hwhole, haccounts⟩ := ih (outlet.perform sending).2 hadds.limit
    refine ⟨lines :: blocks, ?_, .cons hadds.whole hwhole, .cons hadds.accounts ?_⟩
    · rw [List.flatten_cons, List.flatten_append, ← List.append_assoc, ← hadds.octets]
      exact hoctets
    · exact haccounts.imp fun pair lines h hdata ↦ (h hdata).of_later hadds.flushed

/-- A comment, a line and a payload with line feeds and a verb with a space, on an outlet that takes
one octet at a time. -/
theorem wholeLines_of_injection :
    let outlet : Outlet := { Outlet.fresh with cap := some 1, interruptions := [2] }
    let sendings : List Sending := [.comment "done\nOK", .line "TWO WORDS" [], .data [0x0A]]
    outlet.room = none ∧ outlet.cap ≠ some 0 ∧
      (outlet.performAll sendings).2.octets = Utf8.encode "# done%0AOK\nD %0A\n" ∧
      ∃ blocks : List (List Bytes),
        (outlet.performAll sendings).2.octets = outlet.octets ++ blocks.flatten.flatten ∧
        List.Forall₂ (fun sending lines ↦ ∀ line ∈ lines, Line.Whole sending.verb line)
          sendings blocks ∧
        List.Forall₂ (fun (sending, result) lines ↦ sending.isData = false →
            Sending.Accounts outlet.flushCause? result lines)
          (sendings.zip (outlet.performAll sendings).1) blocks := by
  intro outlet sendings
  have hcap : outlet.cap ≠ some 0 := by decide
  exact ⟨rfl, hcap, by decide +kernel, wholeLines_of_performAll outlet rfl hcap sendings⟩

end Outlet

end LineProtocol
