import LineProtocol.Proofs.Line.Sending
import LineProtocol.Proofs.Reading.StreamRoundTrip

/-!
# Reading line after line

A reader that gives one line after the other, and then fails or has to wait: `LineReader.Reads`
says which lines it gives, and `LineReader.Hears` what comes after them as well. `ByteStream.Says`
is the same for the octets of a stream. Whatever the chunks in which a stream arrives, a reader
gives the lines that its octets say (`Owes.hears`), and those are the lines that were written
(`readAs_flatMap_octets`). On a stream that ends it never has to wait.
-/

set_option autoImplicit false

namespace LineProtocol

/-! ### Input that ends -/

theorem Inlet.read_of_ended {inlet : Inlet} (limit : Nat) (h : inlet.ended = true) :
    (inlet.read limit).1 ≠ .pending ∧ (inlet.read limit).2.ended = true := by
  obtain ⟨arrivals, ended⟩ := inlet
  obtain rfl : ended = true := h
  match arrivals with
  | [] => exact ⟨nofun, rfl⟩
  | .failure cause :: later => exact ⟨nofun, rfl⟩
  | .chunk octets :: later => exact ⟨nofun, rfl⟩

namespace LineReader

variable {reader rest : LineReader}

/-- On a stream that ends no reader has to wait. -/
theorem nextRaw_of_ended (h : reader.inlet.ended = true) :
    reader.nextRaw.1 ≠ .waiting ∧ reader.nextRaw.2.inlet.ended = true := by
  have hlast : ∀ {before : LineReader}, before.inlet.ended = true →
      before.last.1 ≠ .waiting ∧ before.last.2.inlet.ended = true := by
    intro before hbefore
    unfold last
    split <;> exact ⟨by simp, hbefore⟩
  fun_induction nextRaw reader with
  | case1 reader raw rest hcut => exact ⟨by simp, h⟩
  | case2 reader length hcut => exact ⟨by simp, h⟩
  | case3 reader hcut hend => exact hlast h
  | case4 reader hcut hend inlet hread =>
    have hread' := Inlet.read_of_ended readLength h
    rw [hread] at hread'
    exact hlast hread'.2
  | case5 reader hcut hend octet octets inlet hread ih =>
    have hread' := Inlet.read_of_ended readLength h
    rw [hread] at hread'
    exact ih hread'.2
  | case6 reader hcut hend cause inlet hread hkind ih =>
    have hread' := Inlet.read_of_ended readLength h
    rw [hread] at hread'
    exact ih hread'.2
  | case7 reader hcut hend cause inlet hread hkind =>
    have hread' := Inlet.read_of_ended readLength h
    rw [hread] at hread'
    exact ⟨by simp, hread'.2⟩
  | case8 reader hcut hend inlet hread =>
    have hread' := Inlet.read_of_ended readLength h
    rw [hread] at hread'
    exact absurd rfl hread'.1

theorem readLine_of_ended (h : reader.inlet.ended = true) :
    reader.readLine.1 ≠ .waiting ∧ reader.readLine.2.inlet.ended = true := by
  have hraw := nextRaw_of_ended h
  fun_induction readLine reader with
  | case1 reader rest hnext => exact ⟨by simp, by rw [hnext] at hraw; exact hraw.2⟩
  | case2 reader raw rest hnext hskip ih =>
    rw [hnext] at hraw
    exact ih hraw.2 (nextRaw_of_ended hraw.2)
  | case3 reader raw rest hnext =>
    rw [hnext] at hraw
    refine ⟨?_, hraw.2⟩
    cases Line.parse raw <;> simp [Reading.ofExcept]
  | case4 reader cause rest hnext => exact ⟨by simp, by rw [hnext] at hraw; exact hraw.2⟩
  | case5 reader rest hnext =>
    rw [hnext] at hraw
    exact absurd rfl hraw.1

theorem ended_of_readLine {found : Reading Line}
    (h : reader.inlet.ended = true) (hread : reader.readLine = (found, rest)) :
    found ≠ .waiting ∧ rest.inlet.ended = true := by
  have hkept := readLine_of_ended h
  rwa [hread] at hkept

end LineReader

/-- The failures of reading a line. -/
def Failure.IsUnread : Failure → Prop
  | .io _ => True
  | .closed => True
  | .decode _ => True
  | .lineTooLong _ _ => True
  | _ => False

theorem Line.isUnread_of_parse {raw : Bytes} {cause : Failure} (h : parse raw = .error cause) :
    cause.IsUnread := by
  unfold parse unescape at h
  split at h
  · exact nomatch h
  · next escaped _ =>
    cases hdecode : Escape.decode escaped with
    | ok parameters =>
      rw [hdecode] at h
      exact nomatch h
    | error offset =>
      rw [hdecode] at h
      obtain rfl := Except.error.inj h
      trivial

namespace LineReader

variable {reader rest : LineReader}

theorem isUnread_of_nextRaw {cause : Failure} (h : reader.nextRaw = (.error cause, rest)) :
    cause.IsUnread := by
  have hlast : ∀ {before : LineReader}, before.last ≠ (.error cause, rest) := by
    intro before
    unfold last
    split <;> simp
  fun_induction nextRaw reader with
  | case1 => simp at h
  | case2 reader length hcut =>
    obtain rfl := Reading.error.inj (congrArg Prod.fst h)
    trivial
  | case3 => exact absurd h hlast
  | case4 => exact absurd h hlast
  | case5 reader hcut hend octet octets inlet hread ih => exact ih h
  | case6 reader hcut hend failure inlet hread hkind ih => exact ih h
  | case7 reader hcut hend failure inlet hread hkind =>
    obtain rfl := Reading.error.inj (congrArg Prod.fst h)
    trivial
  | case8 => simp at h

theorem isUnread_of_readLine {cause : Failure} (h : reader.readLine = (.error cause, rest)) :
    cause.IsUnread := by
  fun_induction readLine reader with
  | case1 =>
    obtain rfl := Reading.error.inj (congrArg Prod.fst h)
    trivial
  | case2 reader raw next hraw hskip ih => exact ih h
  | case3 reader raw next hraw hkeep =>
    obtain ⟨hparse, -⟩ := Prod.mk.inj h
    cases hfound : Line.parse raw with
    | ok line =>
      rw [hfound] at hparse
      simp [Reading.ofExcept] at hparse
    | error found =>
      rw [hfound] at hparse
      obtain rfl := Reading.error.inj hparse
      exact Line.isUnread_of_parse hfound
  | case4 reader failure next hraw =>
    obtain rfl := Reading.error.inj (congrArg Prod.fst h)
    exact isUnread_of_nextRaw hraw
  | case5 => simp at h

/-- The reader gives these lines one after the other. -/
inductive Reads : LineReader → List Line → LineReader → Prop
  | nothing (reader : LineReader) : Reads reader [] reader
  | line {reader next last : LineReader} {line : Line} {later : List Line}
      (hread : reader.readLine = (.value line, next)) (hlater : Reads next later last) :
      Reads reader (line :: later) last

/-- The reader gives these lines, and what it gives then is no such line any more. -/
def Hears (reader : LineReader) (lines : List Line) (stop : Reading Line)
    (last : LineReader) : Prop :=
  ∃ between, reader.Reads lines between ∧ between.readLine = (stop, last)

theorem Hears.line {next last : LineReader} {line : Line} {later : List Line} {stop : Reading Line}
    (hread : reader.readLine = (.value line, next)) (hlater : next.Hears later stop last) :
    reader.Hears (line :: later) stop last := by
  obtain ⟨between, hlines, hstop⟩ := hlater
  exact ⟨between, .line hread hlines, hstop⟩

theorem ended_of_reads {lines : List Line} {last : LineReader} (hreads : reader.Reads lines last)
    (hended : reader.inlet.ended = true) : last.inlet.ended = true := by
  induction hreads with
  | nothing => exact hended
  | line hread hlater ih => exact ih (ended_of_readLine hended hread).2

/-- A reader of a stream that ends is not kept waiting. -/
theorem Hears.ne_waiting {lines : List Line} {stop : Reading Line} {last : LineReader}
    (hhears : reader.Hears lines stop last) (hended : reader.inlet.ended = true) :
    stop ≠ .waiting := by
  obtain ⟨between, hlines, hstop⟩ := hhears
  exact (ended_of_readLine (ended_of_reads hlines hended) hstop).1

end LineReader

/-- The octets say these lines, and then others. -/
inductive ByteStream.Says : Bytes → List Line → Bytes → Prop
  | nothing (octets : Bytes) : Says octets [] octets
  | line {octets next left : Bytes} {line : Line} {later : List Line}
      (hreading : reading octets = (.value line, next)) (hlater : Says next later left) :
      Says octets (line :: later) left

/-- The octets say just one way as long as lines of one kind come. -/
theorem ByteStream.Says.unique {kind : Line → Prop} {octets left other : Bytes}
    {lines others : List Line} (h : Says octets lines left) (hother : Says octets others other)
    (hlines : ∀ line ∈ lines, kind line) (hothers : ∀ line ∈ others, kind line)
    (hleft : ∀ line, (reading left).1 = .value line → ¬kind line)
    (hlast : ∀ line, (reading other).1 = .value line → ¬kind line) :
    lines = others ∧ left = other := by
  induction h generalizing others with
  | nothing octets =>
    cases hother with
    | nothing => exact ⟨rfl, rfl⟩
    | line hreading _ =>
      exact absurd (hothers _ List.mem_cons_self) (hleft _ (congrArg Prod.fst hreading))
  | line hreading hlater ih =>
    cases hother with
    | nothing => exact absurd (hlines _ List.mem_cons_self) (hlast _ (congrArg Prod.fst hreading))
    | line hother hrest =>
      obtain ⟨hline, rfl⟩ := Prod.mk.inj (hreading.symm.trans hother)
      obtain ⟨rfl, rfl⟩ := ih hrest (List.forall_mem_cons.1 hlines).2
        (List.forall_mem_cons.1 hothers).2 hleft
      exact ⟨congrArg (· :: _) (Reading.value.inj hline), rfl⟩

namespace LineReader

variable {reader last : LineReader} {octets : Bytes} {lines : List Line}

/-- A reader gives the lines that the octets say which it owes. -/
theorem Owes.reads (howes : reader.Owes octets) (hreads : reader.Reads lines last) :
    ∃ left, ByteStream.Says octets lines left ∧ last.Owes left ∧
      last.inlet.failures ≤ reader.inlet.failures := by
  induction hreads generalizing octets with
  | nothing reader => exact ⟨octets, .nothing octets, howes, Nat.le_refl _⟩
  | line hread hlater ih =>
    have hfound := howes.readLine
    rw [hread] at hfound
    cases hfound with
    | found hreading howes hplain hfailures =>
      obtain ⟨left, hsays, hlast, hless⟩ := ih howes
      exact ⟨left, .line hreading hsays, hlast, Nat.le_trans hless hfailures⟩

/-- What comes after the lines is what the octets say next, or the stream fails and the octets still
say it. -/
theorem Owes.hears_or_fails {stop : Reading Line} (howes : reader.Owes octets)
    (hhears : reader.Hears lines stop last) :
    ∃ between left, ByteStream.Says octets lines between ∧ last.Owes left ∧
      ((stop.isStreamFailure = true ∧ last.inlet.failures < reader.inlet.failures ∧
          ByteStream.reading left = ByteStream.reading between) ∨
        ByteStream.reading between = (stop.forgetLength, left)) := by
  obtain ⟨reached, hlines, hstop⟩ := hhears
  obtain ⟨between, hsays, hreached, hless⟩ := howes.reads hlines
  have hfound := hreached.readLine
  rw [hstop] at hfound
  cases hfound with
  | failed hlast hleft hfailures =>
    exact ⟨between, _, hsays, hlast, .inl ⟨rfl, Nat.lt_of_lt_of_le hfailures hless, hleft⟩⟩
  | overlong hreading hlast hcut hfailures => exact ⟨between, _, hsays, hlast, .inr hreading⟩
  | found hreading hlast hplain hfailures =>
    rw [← hplain.forgetLength] at hreading
    exact ⟨between, _, hsays, hlast, .inr hreading⟩

/-- What comes after the lines is what the octets say next, or the stream fails. -/
theorem Owes.hears {stop : Reading Line} (howes : reader.Owes octets)
    (hhears : reader.Hears lines stop last) :
    ∃ between left, ByteStream.Says octets lines between ∧ last.Owes left ∧
      (stop.isStreamFailure = true ∨ ByteStream.reading between = (stop.forgetLength, left)) := by
  obtain ⟨between, left, hsays, hlast, hstop⟩ := howes.hears_or_fails hhears
  exact ⟨between, left, hsays, hlast, hstop.imp_left And.left⟩

/-- Whoever has these octets before him, in whatever chunks they come, reads these lines, and has
left what follows them. -/
def ReadAs (octets : Bytes) (lines : List Line) : Prop :=
  ∀ (reader : LineReader) (later : Bytes), reader.Owes (octets ++ later) →
    reader.inlet.failures = 0 →
      ∃ rest, reader.Reads lines rest ∧ rest.Owes later ∧ rest.inlet.failures = 0

theorem Reads.append {between : LineReader} {later : List Line} (h : reader.Reads lines between)
    (hlater : between.Reads later last) : reader.Reads (lines ++ later) last := by
  induction h with
  | nothing => exact hlater
  | line hread _ ih => exact .line hread (ih hlater)

theorem ReadAs.append {more : Bytes} {later : List Line} (h : ReadAs octets lines)
    (hmore : ReadAs more later) : ReadAs (octets ++ more) (lines ++ later) := by
  intro reader left howes hfailures
  rw [List.append_assoc] at howes
  obtain ⟨between, hlines, hbetween, hnone⟩ := h reader _ howes hfailures
  obtain ⟨rest, hlater, hrest⟩ := hmore between left hbetween hnone
  exact ⟨rest, hlines.append hlater, hrest⟩

/-- A line that tells something is read as it was written. -/
theorem readAs_octets {line : Line} (hsendable : line.Sendable)
    (htells : line.onlyInforms = false) : ReadAs line.octets [line] := by
  intro reader later howes hfailures
  obtain ⟨rest, hread, hrest⟩ := howes.readLine_of_encoded hfailures hsendable.encode_eq htells
  rw [hsendable.upper] at hread
  exact ⟨rest, .line hread (.nothing rest), hrest⟩

theorem readAs_flatMap_octets (hlines : ∀ line ∈ lines, line.Sendable ∧ line.onlyInforms = false) :
    ReadAs (lines.flatMap Line.octets) lines := by
  induction lines with
  | nil => exact fun reader later howes hfailures ↦ ⟨reader, .nothing reader, howes, hfailures⟩
  | cons line lines ih =>
    obtain ⟨⟨hsendable, htells⟩, hlater⟩ := List.forall_mem_cons.1 hlines
    exact (readAs_octets hsendable htells).append (ih hlater)

end LineReader

end LineProtocol
