import Mathlib.Tactic.SplitIfs
import LineProtocol.Duplex
import LineProtocol.Proofs.Client.Hearing

/-!
# Requests without a reply

A client can give its reads a time limit, and a read that gives up ends the request with a failure
(`Client.expire`). A request that has failed so, or that the client has cancelled, is `Forsaken`:
it will return no data and no fault, whatever arrives (`Forsaken.advance`). A client with no answers
prepared forsakes a request as soon as it is asked for something (`forsaken_answer_nil`).
-/

set_option autoImplicit false

namespace LineProtocol

/-- The client goes on, and if it still waits then, its read gives up. -/
def Client.expire (client : Client) (turn : Turn) : Turn × Client :=
  match client.advance turn with
  | (.returned outcome, heard) => (.returned outcome, heard)
  | (.waiting awaiting, heard) =>
    (heard.receive [.failure Duplex.timedOut]).advance (.waiting awaiting)

/-- A request that will return no data and no fault any more. -/
def Turn.Forsaken (turn : Turn) : Prop :=
  ∃ cause : Failure, (∀ fault, cause ≠ .peer fault) ∧
    (turn = .returned (.error cause) ∨ turn = .waiting (.cancelReply cause))

namespace Turn

theorem forsaken_of_error {cause : Failure} (h : ∀ fault, cause ≠ .peer fault) :
    Forsaken (.returned (.error cause)) :=
  ⟨cause, h, .inl rfl⟩

theorem forsaken_closed : Forsaken (.returned (.error .closed)) :=
  forsaken_of_error fun _ h ↦ nomatch h

theorem Forsaken.not_told {outcome : Except Failure Bytes} (h : Forsaken (.returned outcome)) :
    ¬((∃ data, outcome = .ok data) ∨ ∃ fault, outcome = .error (.peer fault)) := by
  obtain ⟨cause, hcause, hturn | hturn⟩ := h
  · obtain rfl := Turn.returned.inj hturn
    rintro (⟨data, hdata⟩ | ⟨fault, hfault⟩)
    · exact nomatch hdata
    · exact hcause fault (Except.error.inj hfault)
  · exact nomatch hturn

/-- Whatever arrives, a forsaken request stays so. -/
theorem Forsaken.advance (client : Client) {turn : Turn} (h : turn.Forsaken) :
    (client.advance turn).1.Forsaken := by
  obtain ⟨cause, hcause, rfl | rfl⟩ := h
  · rw [Client.advance_returned]
    exact forsaken_of_error hcause
  generalize hturn : Turn.waiting (.cancelReply cause) = turn
  fun_induction Client.advance client turn with
  | case1 client outcome => exact nomatch hturn
  | case2 client awaiting reader hread => exact ⟨cause, hcause, .inr hturn.symm⟩
  | case3 client awaiting failure reader hread =>
    obtain rfl := Turn.waiting.inj hturn
    exact forsaken_of_error hcause
  | case4 client awaiting line reader hread heard ih =>
    obtain rfl := Turn.waiting.inj hturn
    simp only [heard, Client.hear] at ih ⊢
    split
    · rw [Client.advance_returned]
      exact forsaken_of_error hcause
    · rename_i hother
      simp only [if_neg hother] at ih
      exact ih trivial

theorem forsaken_expire {client : Client} {turn : Turn} (h : (client.advance turn).1.Forsaken) :
    (client.expire turn).1.Forsaken := by
  unfold Client.expire
  generalize client.advance turn = heard at h ⊢
  obtain ⟨outcome | awaiting, client⟩ := heard
  · exact h
  · exact h.advance _

end Turn

namespace Client

variable (outlet : Outlet) (greeting : String)

theorem expire_of_returned {client : Client} {turn : Turn} {outcome : Except Failure Bytes}
    (h : (client.advance turn).1 = .returned outcome) :
    (client.expire turn).1 = .returned outcome := by
  unfold expire
  generalize client.advance turn = heard at h ⊢
  obtain ⟨next, client⟩ := heard
  simp only at h
  rw [h]

/-- A read that gives up ends the request. -/
theorem expire_of_waiting {client : Client} {turn : Turn} {awaiting : Awaiting}
    (h : client.advance turn =
      (.waiting awaiting, ⟨⟨.facing false [], outlet⟩, greeting⟩)) :
    (client.expire turn).1 = .returned (.error (lost (.io Duplex.timedOut) awaiting)) := by
  have hread : (LineReader.mk [] false ⟨[.failure Duplex.timedOut], false⟩).readLine =
      (.error (.io Duplex.timedOut), .facing false []) := by
    have hraw : (LineReader.mk [] false ⟨[.failure Duplex.timedOut], false⟩).nextRaw =
        (.error (.io Duplex.timedOut), .facing false []) := by
      rw [LineReader.nextRaw, show LineReader.cut [] = .unfinished from rfl]
      rfl
    rw [LineReader.readLine, hraw]
  have hreceive : ((Client.mk ⟨.facing false [], outlet⟩ greeting).receive
      [.failure Duplex.timedOut]).wire.reader =
        ⟨[], false, ⟨[.failure Duplex.timedOut], false⟩⟩ := rfl
  rw [expire, h]
  simp only
  rw [advance]
  simp only
  rw [hreceive, hread]

/-- Without answers an inquiry is called off. -/
theorem forsaken_answer_nil (client : Client) (collected : Bytes) (inquiry : Line) :
    (client.answer collected [] inquiry).1.Forsaken := by
  have hnone : ∀ fault, Failure.missingAnswer (keyword inquiry) ≠ .peer fault :=
    fun fault h ↦ nomatch h
  have hanswer : client.answer collected [] inquiry =
      client.cancel (.missingAnswer (keyword inquiry)) := rfl
  rw [hanswer, cancel]
  split
  · exact ⟨_, hnone, .inr rfl⟩
  · exact ⟨_, hnone, .inl rfl⟩

end Client

namespace Outlet

theorem sendEach_ne_peer (outlet : Outlet) (lines : List Bytes) (fault : Fault) :
    (outlet.sendEach lines).1 ≠ .error (.peer fault) := by
  induction lines generalizing outlet with
  | nil =>
    rw [sendEach]
    split <;> simp
  | cons octets rest ih =>
    rw [sendEach]
    split
    · exact ih _
    · simp

/-- Writing a line fails with nothing that the other side reported. -/
theorem sendLine_ne_peer {outlet : Outlet} {verb : String} {parameters : Bytes}
    {cause : Failure} (h : (outlet.sendLine verb parameters).1 = .error cause) (fault : Fault) :
    cause ≠ .peer fault := by
  rintro rfl
  rw [sendLine, Line.encode] at h
  split_ifs at h
  · simp [sendEncoded] at h
  · simp [sendEncoded] at h
  · exact sendEach_ne_peer outlet _ fault h

end Outlet

end LineProtocol
