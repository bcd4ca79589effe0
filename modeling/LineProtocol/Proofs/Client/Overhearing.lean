import LineProtocol.Proofs.Client.Hearing
import LineProtocol.Proofs.Server.Notices

/-!
# Clients that are told less

A client in front of a thinned row of lines reads what it reads in front of the whole row, unless
what is missing is a bare status line (`LineReader.Thins.readLine`). That one is not skipped. A
client in the middle of a reply passes it over all the same; one that waits for a single line would
take it for its answer. Apart from this the client does the same (`Client.Thins.advance`).
-/

set_option autoImplicit false

namespace LineProtocol

variable {bares : Prop}

namespace LineReader

theorem readLine_of_atEnd (inlet : Inlet) :
    (LineReader.mk [] true inlet).readLine = (.error .closed, ⟨[], true, inlet⟩) := by
  have hraw : (LineReader.mk [] true inlet).nextRaw = (.value none, ⟨[], true, inlet⟩) := by
    rw [nextRaw, show cut [] = .unfinished from rfl]
    rfl
  rw [readLine, hraw]

/-- Two readers in front of a row of lines and in front of the same row thinned, or at the end of
their streams. -/
inductive Thins (bares : Prop) : LineReader → LineReader → Prop
  | facing (ended : Bool) {loud quiet : List Line} (h : Line.Thinned bares loud quiet) :
    Thins bares (.facing ended loud) (.facing ended quiet)
  | spent (inlet inlet' : Inlet) : Thins bares ⟨[], true, inlet⟩ ⟨[], true, inlet'⟩

variable {loud quiet : LineReader}

theorem bare_tells : Line.bare.onlyInforms = false := by decide

/-- A thinned row of lines reads like the whole row, or like what follows a bare status line. -/
theorem Thins.readLine (h : loud.Thins bares quiet) :
    (bares ∧ ∃ rest rest', loud.readLine = (.value .bare, rest) ∧ rest.Thins bares rest' ∧
        quiet.readLine = rest'.readLine) ∨
      (quiet.readLine.1 = loud.readLine.1 ∧ loud.readLine.2.Thins bares quiet.readLine.2) := by
  cases h with
  | spent inlet inlet' =>
    rw [readLine_of_atEnd, readLine_of_atEnd]
    exact .inr ⟨rfl, .spent inlet inlet'⟩
  | facing ended h =>
    induction h with
    | nil =>
      cases ended with
      | false =>
        rw [readLine_facing_nil]
        exact .inr ⟨rfl, .facing false .nil⟩
      | true =>
        rw [readLine_facing_end]
        exact .inr ⟨rfl, .spent _ _⟩
    | @keep line loud quiet hline h ih =>
      by_cases hinforms : line.onlyInforms = true
      · rw [readLine_facing_of_informs ended loud hline hinforms,
          readLine_facing_of_informs ended quiet hline hinforms]
        exact ih
      · have htells := Bool.not_eq_true _ ▸ hinforms
        rw [readLine_facing_of_tells ended loud hline htells,
          readLine_facing_of_tells ended quiet hline htells]
        exact .inr ⟨rfl, .facing ended h⟩
    | @drop line loud quiet hline hmissing h ih =>
      rcases hmissing with hinforms | ⟨hbares, rfl⟩
      · rw [readLine_facing_of_informs ended loud hline hinforms]
        exact ih
      · rw [readLine_facing_of_tells ended loud hline bare_tells]
        exact .inl ⟨hbares, _, _, rfl, .facing ended h, rfl⟩

end LineReader

namespace Client

/-! ### What the reader does not touch -/

variable (client : Client) (reader : LineReader)

theorem ask_past (request : Request) :
    (client.past reader).ask request =
      ((client.ask request).1, (client.ask request).2.past reader) := by
  cases request <;> rfl

theorem cancel_past (reason : Failure) :
    (client.past reader).cancel reason =
      ((client.cancel reason).1, (client.cancel reason).2.past reader) := by
  rw [cancel, cancel, show (client.past reader).wire.outlet = client.wire.outlet from rfl]
  split <;> rfl

theorem answer_past (collected : Bytes) (answers : Answers) (line : Line) :
    (client.past reader).answer collected answers line =
      ((client.answer collected answers line).1,
        (client.answer collected answers line).2.past reader) := by
  rw [answer, answer, show (client.past reader).wire.outlet = client.wire.outlet from rfl]
  split
  · exact cancel_past client reader _
  split
  · rfl
  · rfl
  · exact cancel_past { client with wire := { client.wire with outlet := _ } } reader _

theorem hear_past (line : Line) (awaiting : Awaiting) :
    (client.past reader).hear line awaiting =
      ((client.hear line awaiting).1, (client.hear line awaiting).2.past reader) := by
  cases awaiting with
  | reply collected answers =>
    simp only [hear, answer_past]
    split_ifs <;> rfl
  | _ =>
    simp only [hear]
    split_ifs <;> rfl

/-- A client in the middle of a reply passes a bare status line over. -/
theorem hear_bare {awaiting : Awaiting} (hmany : ¬awaiting.Single) :
    client.hear .bare awaiting = (.waiting awaiting, client) := by
  cases awaiting with
  | reply collected answers => rfl
  | cancelReply reason => rfl
  | _ => exact absurd trivial hmany

variable {client} {next : Awaiting}

theorem not_single_of_cancel {reason : Failure}
    (h : (client.cancel reason).1 = .waiting next) : ¬next.Single := by
  unfold cancel at h
  split at h
  · obtain rfl := Turn.waiting.inj h
    exact id
  · cases h

theorem not_single_of_answer {collected : Bytes} {answers : Answers} {line : Line}
    (h : (client.answer collected answers line).1 = .waiting next) : ¬next.Single := by
  unfold answer at h
  split at h
  · exact not_single_of_cancel h
  split at h
  case h_1 rest outlet hsend =>
    unfold afterWrite at h
    cases hwritten : (outlet.sendLine "END" []).1 with
    | ok done =>
      rw [hwritten] at h
      obtain rfl := Turn.waiting.inj h
      exact id
    | error cause =>
      rw [hwritten] at h
      cases h
  case h_2 => cases h
  case h_3 => exact not_single_of_cancel h

/-- A client that goes on waiting after a line is in the middle of a reply. -/
theorem not_single_of_hear {line : Line} {awaiting : Awaiting}
    (h : (client.hear line awaiting).1 = .waiting next) : ¬next.Single := by
  cases awaiting with
  | reply collected answers =>
    simp only [hear] at h
    split_ifs at h with hok herr hdata hinquire
    · obtain rfl := Turn.waiting.inj h
      exact id
    · exact not_single_of_answer h
    · obtain rfl := Turn.waiting.inj h
      exact id
  | cancelReply reason =>
    simp only [hear] at h
    split_ifs at h
    obtain rfl := Turn.waiting.inj h
    exact id
  | _ =>
    simp only [hear] at h
    split_ifs at h

variable (client)

theorem advance_of_same_reading {first second : LineReader} (awaiting : Awaiting)
    (h : first.readLine = second.readLine) :
    (client.past first).advance (.waiting awaiting) =
      (client.past second).advance (.waiting awaiting) := by
  rw [advance, advance]
  simp only [past]
  rw [h]

/-! ### Two clients -/

/-- The second client has heard and written what the first one has, and has the same before it,
thinned. -/
def Thins (bares : Prop) (loud quiet : Client) : Prop :=
  ∃ reader, quiet = loud.past reader ∧ loud.wire.reader.Thins bares reader

variable {loud quiet : Client}

/-- A client that is told less does the same, unless it waits for a single line and the next that it
reads is a bare status line. -/
theorem Thins.advance (h : loud.Thins bares quiet) {turn : Turn}
    (hheard : bares → ∀ awaiting, turn = .waiting awaiting → awaiting.Single →
      ∀ rest, loud.wire.reader.readLine ≠ (.value .bare, rest)) :
    (quiet.advance turn).1 = (loud.advance turn).1 ∧
      (loud.advance turn).2.Thins bares (quiet.advance turn).2 := by
  fun_induction Client.advance loud turn generalizing quiet with
  | case1 loud outcome =>
    rw [advance_returned]
    exact ⟨rfl, h⟩
  | case2 loud awaiting reader hread =>
    obtain ⟨reader', rfl, hthins⟩ := h
    rcases hthins.readLine with ⟨-, rest, rest', hbare, -⟩ | ⟨hsame, hrest⟩
    · cases hread.symm.trans hbare
    · rw [hread] at hsame hrest
      rw [advance_of_waiting awaiting (Prod.ext hsame rfl)]
      exact ⟨rfl, _, rfl, hrest⟩
  | case3 loud awaiting cause reader hread =>
    obtain ⟨reader', rfl, hthins⟩ := h
    rcases hthins.readLine with ⟨-, rest, rest', hbare, -⟩ | ⟨hsame, hrest⟩
    · cases hread.symm.trans hbare
    · rw [hread] at hsame hrest
      rw [advance_of_error awaiting (Prod.ext hsame rfl)]
      exact ⟨rfl, _, rfl, hrest⟩
  | case4 loud awaiting line reader hread heard =>
    rename_i ih
    obtain ⟨reader', rfl, hthins⟩ := h
    rcases hthins.readLine with ⟨hbares, rest, rest', hbare, hrest, hquiet⟩ | ⟨hsame, hrest⟩
    · -- the first client hears a line that is not there for the second
      obtain ⟨hline, rfl⟩ := Prod.mk.inj (hread.symm.trans hbare)
      obtain rfl := Reading.value.inj hline
      have hmany : ¬awaiting.Single := fun hsingle ↦
        hheard hbares awaiting rfl hsingle _ hread
      have hpassed : heard = (.waiting awaiting, loud.past reader) := hear_bare _ hmany
      rw [advance_of_same_reading loud awaiting hquiet]
      rw [hpassed] at ih ⊢
      refine ih ⟨rest', rfl, hrest⟩ fun _ other hother hsingle ↦ ?_
      exact absurd (Turn.waiting.inj hother ▸ hsingle) hmany
    · rw [hread] at hsame hrest
      have hpast : ((loud.past reader').past reader'.readLine.2).hear line awaiting =
          (heard.1, heard.2.past reader'.readLine.2) :=
        hear_past (loud.past reader) reader'.readLine.2 line awaiting
      rw [advance_of_value awaiting (Prod.ext hsame rfl),
        show (loud.past reader').wire.reader = reader' from rfl, hpast]
      refine ih ⟨_, rfl, ?_⟩ fun _ next hnext hsingle ↦ absurd hsingle (not_single_of_hear hnext)
      rw [reader_hear]
      exact hrest

/-- A request is made in the same way. -/
theorem Thins.ask (h : loud.Thins bares quiet) (request : Request) :
    (quiet.ask request).1 = (loud.ask request).1 ∧
      (loud.ask request).2.Thins bares (quiet.ask request).2 := by
  obtain ⟨reader, rfl, hthins⟩ := h
  rw [ask_past]
  refine ⟨rfl, reader, rfl, ?_⟩
  rw [reader_ask]
  exact hthins

end Client

end LineProtocol
