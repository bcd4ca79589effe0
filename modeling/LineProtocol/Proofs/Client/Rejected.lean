import LineProtocol.Proofs.Client.Hearing
import LineProtocol.Proofs.Line.Acceptance

/-!
# Requests that are never made

A request whose line is refused returns at once, and the client is what it was before
(`call_of_refused`): nothing has been written and nothing read. `Client.Event` is what can happen to
a client afterwards, on its own side and on the other, and the same events come to the same with the
refused request and without it. Only until the next request can the two be told apart, by how the
last one ended (`after_returned`).

Which lines are refused, and that their readers would not have let them pass either, is said
together with it in `after_refused`.
-/

set_option autoImplicit false

namespace LineProtocol

namespace Request

/-- The verb of the request's line. -/
def verb : Request → String
  | .command verb _ _ => verb
  | .option _ _ => "OPTION"
  | .reset => "RESET"

/-- The parameters of the request's line. -/
def parameters : Request → Bytes
  | .command _ parameters _ => parameters
  | .option key value => Utf8.encode (Assignment.render key value)
  | .reset => []

end Request

theorem Outlet.sendLine_of_refused {verb : String} {parameters : Bytes} {cause : Failure}
    (outlet : Outlet) (h : Line.encode verb parameters = .error cause) :
    outlet.sendLine verb parameters = (.error cause, outlet) := by
  rw [sendLine, h, sendEncoded]

namespace Client

/-- What can happen to a client. It makes one request at a time and goes on whenever there is more
to read. -/
inductive Event where
  | request (request : Request)
  /-- The client says goodbye. -/
  | close
  | receive (arrivals : List Arrival)
  /-- The server sends no more. -/
  | finish
  /-- The server reads no more. -/
  | broken (cause : IoError)

/-- Whether the client itself does something. -/
def Event.IsCall : Event → Prop
  | .request _ => True
  | .close => True
  | _ => False

/-- Where the request stands and the client after an event. A client that still waits can do nothing
else. -/
def step (state : Turn × Client) : Event → Turn × Client
  | .request request =>
    match state.1 with
    | .returned _ => state.2.call request
    | .waiting _ => state
  | .close =>
    match state.1 with
    | .returned _ => (.returned (state.2.close.1.map fun _ ↦ []), state.2.close.2)
    | .waiting _ => state
  | .receive arrivals => (state.2.receive arrivals).advance state.1
  | .finish => state.2.finish.advance state.1
  | .broken cause => (state.1, state.2.broken cause)

/-- The same after a number of events. -/
def after (state : Turn × Client) (events : List Event) : Turn × Client :=
  events.foldl step state

/-! ### A refused request -/

theorem ask_of_refused {request : Request} {cause : Failure} (client : Client)
    (h : Line.encode request.verb request.parameters = .error cause) :
    client.ask request = (.returned (.error cause), client) := by
  have hrefused : ∀ awaiting, client.afterWrite awaiting
      (client.wire.outlet.sendLine request.verb request.parameters) =
        (.returned (.error cause), client) := by
    intro awaiting
    rw [client.wire.outlet.sendLine_of_refused h]
    rfl
  cases request with
  | command verb parameters answers => exact hrefused (.reply [] answers)
  | option key value => exact hrefused .optionReply
  | reset => exact hrefused .resetReply

/-- A request whose line is refused returns why, and nothing else has happened. -/
theorem call_of_refused {request : Request} {cause : Failure} (client : Client)
    (h : Line.encode request.verb request.parameters = .error cause) :
    client.call request = (.returned (.error cause), client) := by
  rw [call, ask_of_refused client h]
  exact advance_returned client _

/-- How the last request ended makes no difference to an event. It can still be told if the event
is not the client's own. -/
theorem step_returned (first second : Except Failure Bytes) (client : Client) (event : Event) :
    (event.IsCall ∧ step (.returned first, client) event = step (.returned second, client) event) ∨
      ¬event.IsCall ∧ ∃ next, step (.returned first, client) event = (.returned first, next) ∧
        step (.returned second, client) event = (.returned second, next) := by
  cases event with
  | request request => exact .inl ⟨trivial, rfl⟩
  | close => exact .inl ⟨trivial, rfl⟩
  | receive arrivals =>
    exact .inr ⟨id, _, advance_returned _ first, advance_returned _ second⟩
  | finish => exact .inr ⟨id, _, advance_returned _ first, advance_returned _ second⟩
  | broken cause => exact .inr ⟨id, _, rfl, rfl⟩

/-- How the last request ended makes no difference to what happens then. It can be told until the
client does something again. -/
theorem after_returned (first second : Except Failure Bytes) (client : Client)
    (events : List Event) :
    ((∃ event ∈ events, event.IsCall) ∧
        after (.returned first, client) events = after (.returned second, client) events) ∨
      (¬∃ event ∈ events, event.IsCall) ∧
        ∃ next, after (.returned first, client) events = (.returned first, next) ∧
          after (.returned second, client) events = (.returned second, next) := by
  induction events generalizing client with
  | nil => exact .inr ⟨by simp, client, rfl, rfl⟩
  | cons event later ih =>
    simp only [after, List.foldl_cons, List.exists_mem_cons_iff] at ih ⊢
    rcases step_returned first second client event with
      ⟨hcall, hsame⟩ | ⟨hidle, next, hfirst, hsecond⟩
    · exact .inl ⟨.inl hcall, by rw [hsame]⟩
    · rw [hfirst, hsecond]
      rcases ih next with ⟨hcall, hsame⟩ | ⟨hnone, hlast⟩
      · exact .inl ⟨.inr hcall, hsame⟩
      · exact .inr ⟨fun h ↦ h.elim hidle hnone, hlast⟩

/-- A line is refused for its verb exactly if that is empty or holds a blank or a control, and else
for its length exactly if its reader, in whatever chunks it came, would fail for the length as well.
To refuse it changes nothing: a request that is refused returns why, and whatever happens to the
client later, it returns, writes and reads what it would if the request had not been made. -/
theorem after_refused (verb : String) (parameters : Bytes) :
    let octets := Utf8.encode verb
    let line := octets.map Octet.upper ++
      (if parameters.isEmpty then [] else Octet.space :: Escape.encode parameters) ++ [Octet.lf]
    let refused := octets = [] ∨
      ∃ octet ∈ octets, Octet.isBlank octet = true ∨ Octet.isControl octet = true
    (Line.encode verb parameters = .error (.invalidVerb verb) ↔ refused) ∧
      (¬refused →
        Line.encode verb parameters =
          (if line.length ≤ Line.maxLength then .ok line
            else .error (.lineTooLong line.length Line.maxLength)) ∧
        ∀ (reader : LineReader) (later : Bytes), reader.Owes (line ++ later) →
          reader.inlet.failures = 0 →
            if line.length ≤ Line.maxLength then
              ∃ rest, reader.nextRaw = (.value (some line.dropLast), rest) ∧ rest.Owes later
            else ∃ length, reader.nextRaw.1 = .error (.lineTooLong length Line.maxLength)) ∧
      ∀ cause, Line.encode verb parameters = .error cause →
        (∀ outlet : Outlet, outlet.sendLine verb parameters = (.error cause, outlet)) ∧
        ∀ request : Request, request.verb = verb → request.parameters = parameters →
          ∀ (client : Client) (before : Except Failure Bytes) (later : List Event),
            let told := after (.returned before, client) (.request request :: later)
            let untold := after (.returned before, client) later
            client.call request = (.returned (.error cause), client) ∧ told.2 = untold.2 ∧
              ((∃ event ∈ later, event.IsCall) → told.1 = untold.1) := by
  intro octets line refused
  have hrefused : Line.isVerb octets = false ↔ refused := Line.isVerb_eq_false_iff
  have hdrop : line.dropLast = Line.stem octets parameters := List.dropLast_concat
  refine ⟨Line.encode_eq_invalidVerb_iff.trans hrefused, fun haccepted ↦ ?_, fun cause hcause ↦ ?_⟩
  · have hverb : Line.isVerb octets = true := by
      rw [← Bool.not_eq_false]
      exact fun hnone ↦ haccepted (hrefused.1 hnone)
    refine ⟨Line.encode_of_isVerb hverb parameters, fun reader later howes hfailures ↦ ?_⟩
    split
    case isTrue hlength =>
      rw [hdrop]
      exact LineReader.nextRaw_of_render howes hfailures hverb hlength
    case isFalse hlength =>
      exact LineReader.lineTooLong_of_render howes hfailures hverb hlength
  · refine ⟨fun outlet ↦ outlet.sendLine_of_refused hcause, ?_⟩
    rintro request rfl rfl client before later told untold
    have hcall := call_of_refused client hcause
    have htold : told = after (.returned (.error cause), client) later := by
      simp only [told, after, List.foldl_cons, step, hcall]
    refine ⟨hcall, ?_⟩
    rw [htold]
    rcases after_returned (.error cause) before client later with ⟨-, hsame⟩ | ⟨hnone, next, hlast⟩
    · exact ⟨congrArg Prod.snd hsame, fun _ ↦ congrArg Prod.fst hsame⟩
    · simp only [untold, hlast.1, hlast.2, true_and]
      exact fun hcall ↦ absurd hcall hnone

/-- Of percent signs a `GET` takes 331: with one more its line would have 1001 octets. The client
that tried is answered afterwards as if it had not. -/
theorem after_refused_of_percent_signs :
    let parameters : Bytes := List.replicate 332 Escape.percent
    let refused : Request := .command "get" parameters []
    let client : Client := ⟨⟨.facing false [], .holding []⟩, "hello"⟩
    let later : List Event :=
      [.request (.command "nop" [] []), .receive [.chunk [0x4F, 0x4B, 0x0A]]]
    Line.encode "get" parameters = .error (.lineTooLong 1001 Line.maxLength) ∧
      client.call refused = (.returned (.error (.lineTooLong 1001 Line.maxLength)), client) ∧
      after (.returned (.ok []), client) (.request refused :: later) =
        (.returned (.ok []), ⟨⟨.facing false [], .holding [⟨"NOP", []⟩]⟩, "hello"⟩) := by
  intro parameters refused client later
  have hverb : Line.isVerb (Utf8.encode "get") = true := by decide
  have hlength : (Line.render (Utf8.encode "get") parameters).length = 1001 := by
    have hsome : parameters.isEmpty = false := rfl
    rw [Line.length_render, Line.lengthOf, hsome, Escape.encodedLength_replicate]
    decide
  have hrefused : Line.encode "get" parameters = .error (.lineTooLong 1001 Line.maxLength) := by
    rw [Line.encode_of_isVerb hverb, hlength]
    rfl
  have huntold : after (.returned (.ok []), client) later =
      (.returned (.ok []), ⟨⟨.facing false [], .holding [⟨"NOP", []⟩]⟩, "hello"⟩) := by
    have hcommand : Line.compose "nop" [] = .ok ⟨"NOP", []⟩ := by decide
    have hclosing : (Line.mk "OK" []).IsClosing :=
      ⟨⟨by decide, by decide, by decide⟩, .inl rfl⟩
    have hasked : step (.returned (.ok []), client) (.request (.command "nop" [] [])) =
        (.waiting (.reply [] []), ⟨⟨.facing false [], .holding [⟨"NOP", []⟩]⟩, "hello"⟩) := by
      simp only [step, call, client, ask_holding, Request.composed, hcommand]
      exact advance_waiting_nil _ _ _
    simp only [later, after, List.foldl_cons, List.foldl_nil, hasked]
    exact advance_closing_reply false [] _ _ [] [] hclosing
  obtain ⟨-, -, hatomic⟩ := after_refused "get" parameters
  obtain ⟨hcall, hclient, hturn⟩ :=
    (hatomic _ hrefused).2 refused rfl rfl client (.ok []) later
  rw [huntold] at hclient hturn
  refine ⟨hrefused, hcall, Prod.ext (hturn ⟨_, List.mem_cons_self, trivial⟩) hclient⟩

end Client

end LineProtocol
