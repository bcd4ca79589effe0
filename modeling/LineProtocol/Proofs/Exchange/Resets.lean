import LineProtocol.Proofs.Exchange.InStep

/-!
# Resets with a handler

A blueprint may have a handler for `RESET`, and that handler may send whatever a handler may send.
The client reads a single line, though. If this is not the closing line the reset returns that it
was misled and leaves the rest of the reply unread. As long as that has not happened client and
conversation stay in step, whatever handlers there are (`inTransit_of_not_misled`).
-/

set_option autoImplicit false

namespace LineProtocol

namespace Exchange

variable {σ : Type}

/-- A reset that has taken some other line for the one that closes its reply. -/
def Misled (exchange : Exchange σ) : Prop :=
  ∃ verb, exchange.turn = .returned (.error (.invalidResponse ("not an OK response: " ++ verb)))

/-- Whenever a request has returned, and no reset was misled up to then, either the conversation is
over, or it waits for the next command and not one octet is left of the reply. -/
theorem inTransit_of_not_misled (blueprint : Blueprint σ) (gone : IoError) (events : List Event)
    (outcome : Except Failure Bytes)
    (hheard : ∀ before, before <+: events → ¬((start blueprint gone).after blueprint before).Misled)
    (hreturned : ((start blueprint gone).after blueprint events).turn = .returned outcome) :
    let exchange := (start blueprint gone).after blueprint events
    exchange.server.isOver = true ∨
      (exchange.server.phase = .ready ∧ exchange.inTransit = []) := by
  intro exchange
  have hattuned : exchange.Attuned Terms.anything :=
    attuned_after blueprint ⟨fun _ ↦ .inl trivial, .inl trivial⟩
      (attuned_start blueprint _ gone) (fun _ _ ↦ trivial)
      fun before hbefore hmisled ↦ hheard before hbefore hmisled.2
  rcases hattuned.inStep hreturned with hover | hstep
  · exact .inl hover
  · exact .inr ⟨hstep.ready, inTransit_of_linked hstep.linked⟩

/-- A blueprint whose reset takes some steps and ends well. -/
def resetting (steps : Program Unit) : Blueprint Unit :=
  (Blueprint.plain () "ready").withCommand "RESET" fun _ _ ↦
    steps.bind fun _ ↦ .done ((), .ok ())

/-- A reset whose whole reply is handed over before the client goes on. -/
def resetOnce : List Event :=
  [.move (.toClient 1), .move .client, .request .reset, .move (.toServer 1), .move .server,
    .move (.toClient 2), .move .client]

/-- A handler that reports its progress misleads nobody. -/
theorem inTransit_of_progress :
    let blueprint := resetting (.status "PROGRESS" "half" fun _ ↦ .done ())
    let exchange := (start blueprint ⟨.brokenPipe, "gone"⟩).after blueprint resetOnce
    (∀ before, before <+: resetOnce →
        ¬((start blueprint ⟨.brokenPipe, "gone"⟩).after blueprint before).Misled) ∧
      exchange.turn = .returned (.ok []) ∧
      (exchange.server.isOver = true ∨
        (exchange.server.phase = .ready ∧ exchange.inTransit = [])) := by
  intro blueprint exchange
  have hfine : ∀ before ∈ resetOnce.inits,
      ((start blueprint ⟨.brokenPipe, "gone"⟩).after blueprint before).outcome?.all
        (·.isOk) = true := by
    decide +kernel
  have hheard : ∀ before, before <+: resetOnce →
      ¬((start blueprint ⟨.brokenPipe, "gone"⟩).after blueprint before).Misled := by
    rintro before hbefore ⟨verb, hmisled⟩
    have hok := hfine before ((List.mem_inits _ _).2 hbefore)
    rw [outcome?, hmisled] at hok
    exact Bool.false_ne_true hok
  have hturn : exchange.turn = .returned (.ok []) := turn_of_outcome? (by decide +kernel)
  exact ⟨hheard, hturn, inTransit_of_not_misled blueprint ⟨.brokenPipe, "gone"⟩ resetOnce _ hheard
    hturn⟩

/-- One that sends data does: the closing line of its reply is left for the next request. -/
theorem inTransit_of_data :
    let blueprint := resetting (.data (Utf8.encode "junk") fun _ ↦ .done ())
    let exchange := (start blueprint ⟨.brokenPipe, "gone"⟩).after blueprint resetOnce
    exchange.outcome? = some (.error (.invalidResponse "not an OK response: D")) ∧
      exchange.server.isOver = false ∧ exchange.inTransit = Utf8.encode "OK\n" := by
  decide +kernel

end Exchange

end LineProtocol
