import LineProtocol.Proofs.Client.Hearing
import LineProtocol.Proofs.Reading.StreamRoundTrip
import LineProtocol.Proofs.Server.Chronicle

/-!
# Faults that pass through proxies

A proxy runs a command of its own client by asking a server further up. When that server reports a
fault the proxy's handler fails with it, and the proxy reports it in turn. `passAlong` follows a
failure down a line of proxies: each writes its closing line and goes on, and the next client makes
of that line what it makes of it.

The first line may lose the end of a message. What a client makes of it is then a fixed point: it is
written as the line it was read from (`Fault.line_heard_shortened`), so nothing more is lost however
many proxies follow. `passAlong_of_line` is this for a whole line of them, and `forwarded_unchanged`
says which fault it is that all the clients see.
-/

set_option autoImplicit false

namespace LineProtocol

/-- A client that waits for a reply, and the way on which octets come to it. -/
structure Recipient where
  client : Client
  awaiting : Awaiting
  /-- It has not cancelled the request. -/
  expectant : ∀ reason, awaiting ≠ .cancelReply reason
  /-- The client's reader once octets are on their way to it. -/
  carry : Bytes → LineReader
  /-- The octets come first, in whatever chunks, and no read call fails. -/
  carries : ∀ octets, ∃ later, (carry octets).Owes (octets ++ later)
  intact : ∀ octets, (carry octets).inlet.failures = 0

/-- What becomes of the client's request when octets reach it. -/
def Recipient.told (recipient : Recipient) (octets : Bytes) : Turn :=
  let client := recipient.client
  ({ client with wire := { client.wire with reader := recipient.carry octets } }.advance
    (.waiting recipient.awaiting)).1

/-- The client that waits for a command's reply, on a stream that cuts octets in a given way. -/
def Recipient.ofCut (client : Client) (cut : Bytes → List Bytes)
    (hcut : ∀ octets, (cut octets).flatten = octets) : Recipient where
  client := client
  awaiting := .reply [] []
  expectant := fun _ h ↦ nomatch h
  carry := fun octets ↦ .ofInlet ⟨Inlet.carried (cut octets), true⟩
  carries := by
    intro octets
    have hunread : (Inlet.mk (Inlet.carried (cut octets)) true).unread = octets := by
      conv_rhs => rw [← hcut octets]
      rw [Inlet.unread, Inlet.carried, List.flatMap_map]
      induction cut octets with
      | nil => rfl
      | cons chunk later ih => cases chunk <;> simpa [Arrival.octets] using ih
    have hchunks : ∀ arrival ∈ Inlet.carried (cut octets), arrival ≠ .chunk [] := by
      intro arrival hmem hempty
      obtain ⟨chunk, hchunk, rfl⟩ := List.mem_map.1 hmem
      obtain rfl := Arrival.chunk.inj hempty
      simp at hchunk
    have hfinite : (Inlet.mk (Inlet.carried (cut octets)) true).Finite := ⟨rfl, hchunks⟩
    have howes := LineReader.owes_ofInlet hfinite
    rw [hunread] at howes
    exact ⟨[], by rwa [List.append_nil]⟩
  intact := by
    intro octets
    refine List.countP_eq_zero.2 fun arrival hmem ↦ ?_
    obtain ⟨chunk, -, rfl⟩ := List.mem_map.1 hmem
    exact Bool.false_ne_true

/-- A conversation whose handler has asked a server further up, and the client of the conversation.
Whatever the handler did before that is on its wire. -/
structure Proxy extends Recipient where
  State : Type
  conversation : Conversation State
  verb : String
  parameters : String
  /-- The state that the handler leaves. -/
  state : State
  /-- The wire as the handler leaves it. -/
  handled : Wire
  obliging : handled.outlet.Obliging

namespace Proxy

/-- The conversation when the handler has failed with what it met further up. -/
def failing (proxy : Proxy) (cause : Failure) : Conversation proxy.State :=
  proxy.conversation.settle proxy.verb proxy.parameters
    (.finished (proxy.state, .error (.ofFailure cause)), proxy.handled)

/-- What the conversation writes then. -/
def written (proxy : Proxy) (cause : Failure) : Bytes :=
  (proxy.failing cause).wire.outlet.octets.drop proxy.handled.outlet.octets.length

/-- A failure on its way down a line of proxies: what each of them writes, and what becomes of its
client's request. It goes no further than a client that does not fail. -/
def passAlong : List Proxy → Failure → List (Bytes × Turn)
  | [], _ => []
  | proxy :: later, cause =>
    let octets := proxy.written cause
    let turn := proxy.told octets
    (octets, turn) :: match turn with
      | .returned (.error next) => passAlong later next
      | _ => []

end Proxy

/-! ### One line -/

/-- Whoever waits for a reply takes an `ERR` line for the fault that it reports. -/
theorem Client.hear_error {line : Line} (hverb : line.verb = "ERR") (client : Client)
    {awaiting : Awaiting} (hexpectant : ∀ reason, awaiting ≠ .cancelReply reason) :
    client.hear line awaiting = (.returned (.error (reported line)), client) := by
  cases awaiting with
  | cancelReply reason => exact absurd rfl (hexpectant reason)
  | _ => simp [hear, hverb]

/-- A client that the line of a fault reaches fails with what a reader makes of that fault. -/
theorem Recipient.told_line (recipient : Recipient) {fault : Fault} {octets : Bytes}
    (hname : '<' ∉ fault.name.toList) (hline : fault.line = .ok octets) :
    recipient.told octets = .returned (.error (.peer fault.shortened.heard)) := by
  have hencoded : Line.encode "ERR" (Utf8.encode fault.shortened.encode) = .ok octets := by
    rw [Line.encode_eq_map_compose, ← hline, Fault.line_eq]
    rfl
  obtain ⟨later, howes⟩ := recipient.carries octets
  obtain ⟨rest, hread, -, -⟩ :=
    howes.readLine_of_encoded (recipient.intact octets) hencoded rfl
  have hverb : upperCase "ERR" = "ERR" := by decide
  have hreported : Client.reported ⟨upperCase "ERR", Utf8.encode fault.shortened.encode⟩ =
      .peer fault.shortened.heard := by
    refine Client.reported_of_decode ?_
    rw [Line.textLossy_encode]
    exact fault.decode_shortened hname
  rw [told]
  simp only
  rw [Client.advance_of_value _ hread, Client.hear_error hverb _ recipient.expectant,
    Client.advance_returned, hreported]

namespace Proxy

/-- A proxy that met a fault further up reports it and goes on. -/
theorem failing_peer (proxy : Proxy) {fault : Fault} {octets : Bytes}
    (hline : fault.line = .ok octets) :
    (proxy.failing (.peer fault)).phase = .ready ∧
      (proxy.failing (.peer fault)).wire.outlet.octets =
        proxy.handled.outlet.octets ++ octets := by
  obtain ⟨line, hcomposed, rfl⟩ : ∃ line, fault.composed = .ok line ∧ line.octets = octets := by
    rw [Fault.line_eq] at hline
    cases hcomposed : fault.composed with
    | error cause =>
      rw [hcomposed] at hline
      exact nomatch hline
    | ok line =>
      rw [hcomposed] at hline
      exact ⟨line, rfl, Except.ok.inj hline⟩
  have hclosing : Outcome.closing (.error (.ofFailure (.peer fault))) = .ok line := hcomposed
  obtain ⟨outlet, hsent, hclosed⟩ := Conversation.close_obliging
    ⟨proxy.handled, proxy.state, proxy.conversation.phase, proxy.conversation.calls ++
      [.command proxy.verb proxy.parameters proxy.state (.error (.ofFailure (.peer fault)))]⟩
    (.error (.ofFailure (.peer fault))) proxy.obliging
  rw [failing, Conversation.settle, hclosed, hclosing]
  rw [hclosing] at hsent
  refine ⟨rfl, ?_⟩
  rw [hsent.octets]
  simp [Line.sent]

/-- A failure goes down a line of proxies unchanged if its line tells each client of it. -/
theorem passAlong_of_line {fault : Fault} {octets : Bytes} (hline : fault.line = .ok octets)
    (htold : ∀ recipient : Recipient,
      recipient.told octets = .returned (.error (.peer fault))) (proxies : List Proxy) :
    passAlong proxies (.peer fault) =
      List.replicate proxies.length (octets, .returned (.error (.peer fault))) := by
  induction proxies with
  | nil => rfl
  | cons proxy later ih =>
    have hwritten : proxy.written (.peer fault) = octets := by
      rw [written, (proxy.failing_peer hline).2, List.drop_left]
    rw [passAlong]
    simp only [hwritten, htold proxy.toRecipient]
    rw [ih, List.length_cons, List.replicate_succ]

end Proxy

/-! ### A whole line of proxies -/

/-- A fault that can be reported, and whose name has no opening bracket, is the same one for every
client down a line of proxies. It has the numbers and the name of the fault that was reported first
and the beginning of its message, or all of it if that fits; every proxy writes the very line that
was written first, and goes on. -/
theorem Fault.forwarded_unchanged (fault : Fault) (octets : Bytes)
    (hname : '<' ∉ fault.name.toList) (hline : fault.line = .ok octets) :
    ∃ heard : Fault,
      heard.origin.number = fault.origin.number ∧ heard.code.number = fault.code.number ∧
      heard.name = fault.name ∧ heard.message.toList <+: fault.message.toList ∧
      ((∃ whole, Line.encode "ERR" (Utf8.encode fault.encode) = .ok whole) →
        heard.message = fault.message) ∧
      (∀ outlet : Outlet, outlet.Obliging → ∃ after,
        outlet.sendFault fault = (.ok (), after) ∧ after.octets = outlet.octets ++ octets) ∧
      (∀ recipient : Recipient, recipient.told octets = .returned (.error (.peer heard))) ∧
      ∀ proxies : List Proxy,
        Proxy.passAlong proxies (.peer heard) =
            List.replicate proxies.length (octets, .returned (.error (.peer heard))) ∧
          ∀ proxy ∈ proxies, (proxy.failing (.peer heard)).phase = .ready ∧
            (proxy.failing (.peer heard)).wire.outlet.octets =
              proxy.handled.outlet.octets ++ octets := by
  have htold : ∀ recipient : Recipient,
      recipient.told octets = .returned (.error (.peer fault.shortened.heard)) :=
    fun recipient ↦ recipient.told_line hname hline
  have hagain : fault.shortened.heard.line = .ok octets := line_heard_shortened hline
  refine ⟨fault.shortened.heard, number_ofNumber_origin (number_origin_lt _),
    number_ofNumber_code (number_code_lt _), rfl, fault.shortened_isPrefix, ?_, ?_, htold,
    fun proxies ↦ ⟨Proxy.passAlong_of_line hagain htold proxies,
      fun proxy _ ↦ proxy.failing_peer hagain⟩⟩
  · rintro ⟨whole, hwhole⟩
    rw [shortened_of_encode hwhole]
    rfl
  · intro outlet hobliging
    obtain ⟨after, hsend, hsent⟩ := Outlet.sendFault_obliging fault hobliging
    rw [Fault.line_eq] at hline
    cases hcomposed : fault.composed with
    | error cause =>
      rw [hcomposed] at hline
      exact nomatch hline
    | ok line =>
      rw [hcomposed] at hline hsend hsent
      obtain rfl := Except.ok.inj hline
      refine ⟨after, hsend, ?_⟩
      rw [hsent.octets]
      simp [Line.sent]

/-- A fault with unregistered numbers, a closing bracket in its name and a message that ends in a
tag and a space, behind two proxies whose octets arrive one at a time. -/
theorem Fault.forwarded_unchanged_of_tag :
    let fault : Fault := ⟨.other 143, .other 65537, "a> b", " see <docs> "⟩
    let octets : Bytes := Utf8.encode "ERR 251658241  see <docs>  <a> b>\n"
    let wire : Wire := .ofHalves .quiet .fresh
    let recipient := Recipient.ofCut (.ofWire wire) (fun octets ↦ octets.map ([·]))
      List.flatMap_singleton'
    let proxy : Proxy :=
      { recipient with
        State := Unit, conversation := ⟨wire, (), .ready, []⟩, verb := "X", parameters := ""
        state := (), handled := wire, obliging := ⟨rfl, nofun, rfl⟩ }
    '<' ∉ fault.name.toList ∧ fault.line = .ok octets ∧
      ∃ heard : Fault,
        heard.origin.number = 15 ∧ heard.code.number = 1 ∧ heard.name = "a> b" ∧
        heard.message = " see <docs> " ∧
        recipient.told octets = .returned (.error (.peer heard)) ∧
        Proxy.passAlong [proxy, proxy] (.peer heard) =
          [(octets, .returned (.error (.peer heard))),
            (octets, .returned (.error (.peer heard)))] := by
  intro fault octets wire recipient proxy
  have hname : '<' ∉ fault.name.toList := by decide
  have hline : fault.line = .ok octets := by decide +kernel
  have hwhole : Line.encode "ERR" (Utf8.encode fault.encode) = .ok octets := by decide +kernel
  obtain ⟨heard, horigin, hcode, hsame, -, hmessage, -, htold, hproxies⟩ :=
    Fault.forwarded_unchanged fault octets hname hline
  exact ⟨hname, hline, heard, horigin, hcode, hsame, hmessage ⟨octets, hwhole⟩, htold recipient,
    (hproxies [proxy, proxy]).1⟩

end LineProtocol
