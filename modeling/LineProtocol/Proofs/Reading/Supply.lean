import LineProtocol.Proofs.Reading.Lines
import LineProtocol.Server.Program

/-!
# Reading what has come and reading it all

A reader in front of a stream that is still coming gives what it would give in front of the whole
stream, or has to wait. If it has to wait it has kept what it took, so once the rest has come it
goes on as if the rest had been there before. `LineReader.supplied` is the reader with the rest of
its stream, and the same holds on every level: a read call (`Inlet.read_supplied`), a raw line, a
line (`readLine_supplied`) and an inquiry (`gather_supplied`).
-/

set_option autoImplicit false

namespace LineProtocol

namespace Inlet

/-- The inlet with the rest of its stream. -/
def supplied (more : List Arrival) (inlet : Inlet) : Inlet :=
  (inlet.push more).finish

/-- The stream has not ended, or nothing more comes. -/
def Admits (more : List Arrival) (inlet : Inlet) : Prop :=
  inlet.ended = false ∨ more = []

variable {more : List Arrival} {inlet rest : Inlet} {limit : Nat} {delivery : Delivery}

theorem read_supplied (hadmits : inlet.Admits more) (h : inlet.read limit = (delivery, rest))
    (hfound : delivery ≠ .pending) :
    rest.Admits more ∧ (inlet.supplied more).read limit = (delivery, rest.supplied more) := by
  obtain ⟨arrivals, ended⟩ := inlet
  match arrivals with
  | [] =>
    cases ended with
    | false =>
      obtain ⟨rfl, -⟩ := Prod.mk.inj h
      exact absurd rfl hfound
    | true =>
      obtain ⟨rfl, rfl⟩ := Prod.mk.inj h
      obtain rfl : more = [] := hadmits.resolve_left (by simp)
      exact ⟨.inr rfl, rfl⟩
  | .failure cause :: later =>
    obtain ⟨rfl, rfl⟩ := Prod.mk.inj h
    exact ⟨hadmits, rfl⟩
  | .chunk octets :: later =>
    obtain ⟨rfl, rfl⟩ := Prod.mk.inj h
    refine ⟨hadmits, ?_⟩
    simp only [supplied, push, finish, List.cons_append, read]
    split <;> rfl

end Inlet

namespace LineReader

/-- The reader with the rest of its stream. -/
def supplied (more : List Arrival) (reader : LineReader) : LineReader :=
  { reader with inlet := reader.inlet.supplied more }

variable {more : List Arrival} {reader rest : LineReader}

theorem supplied_nil (h : reader.inlet.ended = true) : reader.supplied [] = reader := by
  obtain ⟨buffer, atEnd, arrivals, ended⟩ := reader
  obtain rfl : ended = true := h
  simp only [supplied, Inlet.supplied, Inlet.push, Inlet.finish, List.append_nil]

theorem last_supplied (reader : LineReader) :
    (reader.supplied more).last = (reader.last.1, reader.last.2.supplied more) := by
  rw [last, last, show (reader.supplied more).buffer = reader.buffer from rfl]
  split <;> rfl

theorem admits_last (h : reader.inlet.Admits more) : reader.last.2.inlet.Admits more := by
  unfold last
  split <;> exact h

theorem last_ne_waiting (reader : LineReader) : reader.last.1 ≠ .waiting := by
  unfold last
  split <;> exact nofun

/-- What a reading that has not waited found, or what the reading comes to now. -/
def orAgain {α : Type} (more : List Arrival) (again : LineReader → Reading α × LineReader) :
    Reading α × LineReader → Reading α × LineReader
  | (.waiting, rest) => again (rest.supplied more)
  | (found, rest) => (found, rest.supplied more)

theorem orAgain_of_ne {α : Type} (again : LineReader → Reading α × LineReader)
    {found : Reading α × LineReader} (h : found.1 ≠ .waiting) :
    orAgain more again found = (found.1, found.2.supplied more) := by
  obtain ⟨found, rest⟩ := found
  cases found with
  | waiting => exact absurd rfl h
  | _ => rfl

/-- What a read call makes of a reader that needs it. -/
def given (reader : LineReader) : Delivery × Inlet → Reading (Option Bytes) × LineReader
  | (.octets [], inlet) => { reader with atEnd := true, inlet := inlet }.last
  | (.octets (octet :: octets), inlet) =>
    nextRaw { reader with buffer := reader.buffer ++ octet :: octets, inlet := inlet }
  | (.failed cause, inlet) =>
    if cause.kind = .interrupted then nextRaw { reader with inlet := inlet }
    else (.error (.io cause), { reader with inlet := inlet })
  | (.pending, inlet) => (.waiting, { reader with inlet := inlet })

theorem nextRaw_of_read_call {buffer : Bytes} {atEnd : Bool} {inlet : Inlet}
    {delivery : Delivery × Inlet} (hcut : cut buffer = .unfinished) (hend : ¬atEnd = true)
    (hread : inlet.read readLength = delivery) :
    nextRaw ⟨buffer, atEnd, inlet⟩ = given ⟨buffer, atEnd, inlet⟩ delivery := by
  subst hread
  rw [nextRaw, hcut]
  simp only [hend, Bool.false_eq_true, if_false]
  split <;> next hread => rw [hread]; rfl

theorem nextRaw_supplied (hadmits : reader.inlet.Admits more) :
    reader.nextRaw.2.inlet.Admits more ∧
      (reader.supplied more).nextRaw = orAgain more nextRaw reader.nextRaw := by
  fun_induction nextRaw reader with
  | case1 reader raw left hcut =>
    refine ⟨hadmits, ?_⟩
    rw [nextRaw, show (reader.supplied more).buffer = reader.buffer from rfl, hcut]
    rfl
  | case2 reader length hcut =>
    refine ⟨hadmits, ?_⟩
    rw [nextRaw, show (reader.supplied more).buffer = reader.buffer from rfl, hcut]
    rfl
  | case3 reader hcut hend =>
    refine ⟨admits_last hadmits, ?_⟩
    rw [orAgain_of_ne _ (last_ne_waiting reader), ← last_supplied, nextRaw,
      show (reader.supplied more).buffer = reader.buffer from rfl, hcut]
    simp only [show (reader.supplied more).atEnd = reader.atEnd from rfl, hend, if_true]
  | case4 reader hcut hend inlet hread =>
    obtain ⟨hlater, hsupplied⟩ := Inlet.read_supplied hadmits hread (by simp)
    refine ⟨admits_last hlater, ?_⟩
    rw [orAgain_of_ne _ (last_ne_waiting _), ← last_supplied]
    exact nextRaw_of_read_call hcut hend hsupplied
  | case5 reader hcut hend octet octets inlet hread ih =>
    obtain ⟨hlater, hsupplied⟩ := Inlet.read_supplied hadmits hread (by simp)
    exact ⟨(ih hlater).1, (nextRaw_of_read_call hcut hend hsupplied).trans (ih hlater).2⟩
  | case6 reader hcut hend cause inlet hread hkind ih =>
    obtain ⟨hlater, hsupplied⟩ := Inlet.read_supplied hadmits hread (by simp)
    refine ⟨(ih hlater).1, Eq.trans ?_ (ih hlater).2⟩
    exact (nextRaw_of_read_call hcut hend hsupplied).trans (if_pos hkind)
  | case7 reader hcut hend cause inlet hread hkind =>
    obtain ⟨hlater, hsupplied⟩ := Inlet.read_supplied hadmits hread (by simp)
    exact ⟨hlater, (nextRaw_of_read_call hcut hend hsupplied).trans (if_neg hkind)⟩
  | case8 reader hcut hend inlet hread =>
    obtain rfl := Inlet.eq_of_read_pending hread
    exact ⟨hadmits, rfl⟩

/-- A line that is read is read the same if more follows. -/
theorem readLine_supplied (hadmits : reader.inlet.Admits more) :
    reader.readLine.2.inlet.Admits more ∧
      (reader.supplied more).readLine = orAgain more readLine reader.readLine := by
  have hraw := nextRaw_supplied hadmits
  fun_induction readLine reader with
  | case1 reader rest hnext =>
    rw [hnext] at hraw
    refine ⟨hraw.1, ?_⟩
    rw [readLine, hraw.2]
    rfl
  | case2 reader raw rest hnext hskip ih =>
    rw [hnext] at hraw
    obtain ⟨hadmitted, hlater⟩ := ih hraw.1 (nextRaw_supplied hraw.1)
    refine ⟨hadmitted, Eq.trans ?_ hlater⟩
    rw [readLine, hraw.2]
    simp only [orAgain, hskip, if_true]
  | case3 reader raw rest hnext hkeep =>
    rw [hnext] at hraw
    refine ⟨hraw.1, ?_⟩
    rw [readLine, hraw.2]
    simp only [orAgain, hkeep]
    cases Line.parse raw <;> rfl
  | case4 reader cause rest hnext =>
    rw [hnext] at hraw
    refine ⟨hraw.1, ?_⟩
    rw [readLine, hraw.2]
    rfl
  | case5 reader rest hnext =>
    rw [hnext] at hraw
    refine ⟨hraw.1, ?_⟩
    -- the raw line that is still missing is the first one of what has been kept
    have hagain : (reader.supplied more).nextRaw = (rest.supplied more).nextRaw := hraw.2
    rw [readLine, hagain, ← readLine]
    rfl

end LineReader

namespace Program

/-- What an inquiry came to, or what it comes to now. -/
def orAgain (more : List Arrival) : Inquiry × LineReader → Inquiry × LineReader
  | (.waiting collected, rest) => gather collected (rest.supplied more)
  | (.answered outcome, rest) => (.answered outcome, rest.supplied more)

/-- An inquiry that is answered gets the same answer if more follows. -/
theorem gather_supplied {more : List Arrival} {reader : LineReader} (collected : Bytes)
    (hadmits : reader.inlet.Admits more) :
    (gather collected reader).2.inlet.Admits more ∧
      gather collected (reader.supplied more) = orAgain more (gather collected reader) := by
  have hread := LineReader.readLine_supplied hadmits
  fun_induction gather collected reader with
  | case1 collected reader rest hline =>
    rw [hline] at hread
    refine ⟨hread.1, ?_⟩
    have hagain : (reader.supplied more).readLine = (rest.supplied more).readLine := hread.2
    rw [gather, hagain, ← gather]
    rfl
  | case2 collected reader cause rest hline =>
    rw [hline] at hread
    refine ⟨hread.1, ?_⟩
    rw [gather, hread.2]
    rfl
  | case3 collected reader line rest hline hdata ih =>
    rw [hline] at hread
    obtain ⟨hadmitted, hlater⟩ := ih hread.1 (LineReader.readLine_supplied hread.1)
    refine ⟨hadmitted, Eq.trans ?_ hlater⟩
    rw [gather, hread.2]
    simp only [LineReader.orAgain, hdata, if_true]
  | case4 collected reader line rest hline hdata hend =>
    rw [hline] at hread
    refine ⟨hread.1, ?_⟩
    rw [gather, hread.2]
    simp only [LineReader.orAgain, hend, if_true]
    rfl
  | case5 collected reader line rest hline hdata hend hcan =>
    rw [hline] at hread
    refine ⟨hread.1, ?_⟩
    rw [gather, hread.2]
    simp only [LineReader.orAgain, hcan, if_true]
    rfl
  | case6 collected reader line rest hline hdata hend hcan =>
    rw [hline] at hread
    refine ⟨hread.1, ?_⟩
    rw [gather, hread.2]
    simp only [LineReader.orAgain, hdata, hend, hcan, if_false]
    rfl

end Program

end LineProtocol
