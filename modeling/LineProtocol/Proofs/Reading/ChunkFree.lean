import LineProtocol.Proofs.Reading.ByteStream

/-!
# Reading depends on the octets alone

A byte string that ends is delivered in chunks, with failures of single read calls between them.
`LineReader.Owes` is the invariant: what a reader has in its buffer and what is still to arrive
are together the octets that it owes, and once it has met the end nothing is to arrive.

`Inlet.read_cases` says what one read call on such a stream can do. From it follow the laws of
`nextRaw` and of `readLine`: either the call fails with the stream and the octets owed stay as
they were, or it gives what `ByteStream.segment` and `ByteStream.reading` say of the octets owed,
and it owes what they leave. `Owes.heard_readings` is the result for any number of calls.
-/

set_option autoImplicit false

namespace LineProtocol

/-! ### Streams that end -/

/-- Whether an arrival is a failure that a read call reports. After an interruption the same call
is made again. -/
def Arrival.isReported : Arrival → Bool
  | .chunk _ => false
  | .failure cause => cause.kind ≠ .interrupted

namespace Inlet

/-- How many failures will be reported. -/
def failures (inlet : Inlet) : Nat :=
  inlet.arrivals.countP Arrival.isReported

/-- A stream that ends once all has arrived, and not before. -/
structure Finite (inlet : Inlet) : Prop where
  ended : inlet.ended = true
  chunks : ∀ arrival ∈ inlet.arrivals, arrival ≠ .chunk []

/-- A read call finds the end, takes octets from the front, or fails and takes none. -/
theorem read_cases {inlet : Inlet} (hfinite : inlet.Finite) :
    (inlet.arrivals = [] ∧ inlet.read LineReader.readLength = (.octets [], inlet)) ∨
      (∃ octet octets rest, inlet.read LineReader.readLength = (.octets (octet :: octets), rest) ∧
        inlet.unread = octet :: octets ++ rest.unread ∧ rest.Finite ∧
        rest.failures = inlet.failures) ∨
      ∃ cause rest, inlet.read LineReader.readLength = (.failed cause, rest) ∧
        rest.unread = inlet.unread ∧ rest.Finite ∧
        rest.failures + (if cause.kind = .interrupted then 0 else 1) = inlet.failures := by
  obtain ⟨arrivals, ended⟩ := inlet
  obtain ⟨hended, hchunks⟩ := hfinite
  obtain rfl : ended = true := hended
  match arrivals with
  | [] => exact .inl ⟨rfl, rfl⟩
  | .failure cause :: later =>
    refine .inr (.inr ⟨cause, ⟨later, true⟩, rfl, ?_, ⟨rfl, ?_⟩, ?_⟩)
    · simp [unread, Arrival.octets]
    · exact fun arrival hmem ↦ hchunks arrival (List.mem_cons_of_mem _ hmem)
    · by_cases hkind : cause.kind = .interrupted <;>
        simp [failures, Arrival.isReported, hkind]
  | .chunk [] :: later => exact absurd rfl (hchunks (.chunk []) List.mem_cons_self)
  | .chunk (octet :: octets) :: later =>
    have hlater : ∀ arrival ∈ later, arrival ≠ .chunk [] :=
      fun arrival hmem ↦ hchunks arrival (List.mem_cons_of_mem _ hmem)
    by_cases hlength : (octet :: octets).length ≤ LineReader.readLength
    · refine .inr (.inl ⟨octet, octets, ⟨later, true⟩, ?_, ?_, ⟨rfl, hlater⟩, ?_⟩)
      · simp only [read, if_pos hlength, List.take_of_length_le hlength]
      · simp [unread, Arrival.octets]
      · simp [failures, Arrival.isReported]
    · -- the rest of a chunk is a chunk too, and not empty
      refine .inr (.inl ⟨octet, octets.take 1023,
        ⟨.chunk ((octet :: octets).drop LineReader.readLength) :: later, true⟩, ?_, ?_,
        ⟨rfl, ?_⟩, ?_⟩)
      · simp only [read, if_neg hlength]
        rfl
      · have hsplit : octet :: octets.take 1023 ++ octets.drop 1023 = octet :: octets := by
          rw [List.cons_append, List.take_append_drop]
        simp only [unread, List.flatMap_cons, Arrival.octets]
        rw [← List.append_assoc]
        exact congrArg (· ++ _) hsplit.symm
      · intro arrival hmem
        rcases List.mem_cons.1 hmem with rfl | hmem
        · intro heq
          have hdrop := congrArg List.length (Arrival.chunk.inj heq)
          rw [List.length_drop, List.length_nil] at hdrop
          omega
        · exact hlater arrival hmem
      · simp [failures, Arrival.isReported]

variable {inlet rest : Inlet}

theorem Finite.of_read_end (hfinite : inlet.Finite)
    (h : inlet.read LineReader.readLength = (.octets [], rest)) :
    inlet.arrivals = [] ∧ rest = inlet := by
  rcases read_cases hfinite with ⟨harrivals, h'⟩ | ⟨_, _, _, h', -⟩ | ⟨_, _, h', -⟩
  · exact ⟨harrivals, (Prod.mk.inj (h.symm.trans h')).2⟩
  · exact absurd (h.symm.trans h') (by simp)
  · exact absurd (h.symm.trans h') (by simp)

theorem Finite.of_read_octets {octet : UInt8} {octets : Bytes} (hfinite : inlet.Finite)
    (h : inlet.read LineReader.readLength = (.octets (octet :: octets), rest)) :
    inlet.unread = octet :: octets ++ rest.unread ∧ rest.Finite ∧
      rest.failures = inlet.failures := by
  rcases read_cases hfinite with ⟨-, h'⟩ | ⟨_, _, _, h', hrest⟩ | ⟨_, _, h', -⟩
  · exact absurd (h.symm.trans h') (by simp)
  · obtain ⟨htaken, rfl⟩ := Prod.mk.inj (h.symm.trans h')
    obtain ⟨rfl, rfl⟩ := List.cons.inj (Delivery.octets.inj htaken)
    exact hrest
  · exact absurd (h.symm.trans h') (by simp)

theorem Finite.of_read_failed {cause : IoError} (hfinite : inlet.Finite)
    (h : inlet.read LineReader.readLength = (.failed cause, rest)) :
    rest.unread = inlet.unread ∧ rest.Finite ∧
      rest.failures + (if cause.kind = .interrupted then 0 else 1) = inlet.failures := by
  rcases read_cases hfinite with ⟨-, h'⟩ | ⟨_, _, _, h', -⟩ | ⟨_, _, h', hrest⟩
  · exact absurd (h.symm.trans h') (by simp)
  · exact absurd (h.symm.trans h') (by simp)
  · obtain ⟨hcause, rfl⟩ := Prod.mk.inj (h.symm.trans h')
    obtain rfl := Delivery.failed.inj hcause
    exact hrest

theorem Finite.read_ne_pending (hfinite : inlet.Finite) :
    inlet.read LineReader.readLength ≠ (.pending, rest) := by
  intro h
  rcases read_cases hfinite with ⟨-, h'⟩ | ⟨_, _, _, h', -⟩ | ⟨_, _, h', -⟩ <;>
    exact absurd (h.symm.trans h') (by simp)

end Inlet

namespace LineReader

/-- A reader with the given octets still to give. -/
structure Owes (reader : LineReader) (octets : Bytes) : Prop where
  split : reader.buffer ++ reader.inlet.unread = octets
  finite : reader.inlet.Finite
  atEnd : reader.atEnd = true → reader.inlet.arrivals = []

/-- A reader at the start of a stream owes all its octets. -/
theorem owes_ofInlet {inlet : Inlet} (hfinite : inlet.Finite) :
    (ofInlet inlet).Owes inlet.unread :=
  ⟨rfl, hfinite, fun h ↦ absurd h Bool.false_ne_true⟩

/-- A reader at the start of a stream that comes in chunks owes them one after the other. -/
theorem owes_of_chunks {chunks : List Bytes} (hchunks : ∀ chunk ∈ chunks, chunk ≠ []) :
    (ofInlet ⟨chunks.map .chunk, true⟩).Owes chunks.flatten ∧
      (ofInlet ⟨chunks.map .chunk, true⟩).inlet.failures = 0 := by
  have hoctets : (chunks.map Arrival.chunk).flatMap Arrival.octets = chunks.flatten := by
    rw [List.flatMap_map, List.flatMap_def]
    exact congrArg List.flatten (List.map_id chunks)
  constructor
  · rw [← hoctets]
    refine owes_ofInlet ⟨rfl, fun arrival hmem ↦ ?_⟩
    obtain ⟨chunk, hchunk, rfl⟩ := List.mem_map.1 hmem
    exact fun h ↦ hchunks chunk hchunk (Arrival.chunk.inj h)
  · refine List.countP_eq_zero.2 fun arrival hmem ↦ ?_
    obtain ⟨chunk, -, rfl⟩ := List.mem_map.1 hmem
    exact Bool.false_ne_true

variable {reader : LineReader} {octets : Bytes}

theorem Owes.buffer_of_nothing_to_come (howes : reader.Owes octets)
    (harrivals : reader.inlet.arrivals = []) : reader.buffer = octets := by
  have hunread : reader.inlet.unread = [] := by rw [Inlet.unread, harrivals, List.flatMap_nil]
  rw [← howes.split, hunread, List.append_nil]

/-- Where a call for the next line may leave a reader that owed octets: it failed with the stream
and owes what it owed before, or it gave the first segment of what it owed. -/
inductive NextRaw (reader : LineReader) (octets : Bytes) :
    Reading (Option Bytes) × LineReader → Prop where
  | failed {cause : IoError} {rest : LineReader} (howes : rest.Owes octets)
      (hfailures : rest.inlet.failures < reader.inlet.failures) :
      NextRaw reader octets (.error (.io cause), rest)
  | line {raw left : Bytes} {rest : LineReader}
      (hsegment : ByteStream.segment octets = .line raw left) (howes : rest.Owes left)
      (hfailures : rest.inlet.failures ≤ reader.inlet.failures) :
      NextRaw reader octets (.value (some raw), rest)
  | overlong {length : Nat} {rest : LineReader}
      (hsegment : ByteStream.segment octets = .overlong) (howes : rest.Owes octets)
      (hcut : cut rest.buffer = .overlong length)
      (hfailures : rest.inlet.failures ≤ reader.inlet.failures) :
      NextRaw reader octets (.error (.lineTooLong length Line.maxLength), rest)
  | nothing {rest : LineReader} (hsegment : ByteStream.segment octets = .nothing)
      (howes : rest.Owes octets) (hfailures : rest.inlet.failures ≤ reader.inlet.failures) :
      NextRaw reader octets (.value none, rest)

theorem NextRaw.of_le {later : LineReader} {result : Reading (Option Bytes) × LineReader}
    (h : NextRaw later octets result) (hle : later.inlet.failures ≤ reader.inlet.failures) :
    NextRaw reader octets result := by
  cases h with
  | failed howes hfailures => exact .failed howes (Nat.lt_of_lt_of_le hfailures hle)
  | line hsegment howes hfailures => exact .line hsegment howes (Nat.le_trans hfailures hle)
  | overlong hsegment howes hcut hfailures =>
    exact .overlong hsegment howes hcut (Nat.le_trans hfailures hle)
  | nothing hsegment howes hfailures => exact .nothing hsegment howes (Nat.le_trans hfailures hle)

/-- At the end of its stream a reader gives the last segment. -/
theorem Owes.last (howes : reader.Owes octets) (harrivals : reader.inlet.arrivals = [])
    (hcut : cut reader.buffer = .unfinished) : NextRaw reader octets reader.last := by
  obtain rfl := howes.buffer_of_nothing_to_come harrivals
  have hsegment := ByteStream.segment_of_cut_unfinished hcut
  unfold LineReader.last
  split
  case isTrue hempty =>
    rw [if_pos hempty] at hsegment
    exact .nothing hsegment howes (Nat.le_refl _)
  case isFalse hempty =>
    rw [if_neg hempty] at hsegment
    refine .line hsegment ⟨?_, howes.finite, fun _ ↦ harrivals⟩ (Nat.le_refl _)
    rw [List.nil_append, Inlet.unread, harrivals, List.flatMap_nil]

theorem Owes.nextRaw (howes : reader.Owes octets) : NextRaw reader octets reader.nextRaw := by
  fun_induction LineReader.nextRaw reader with
  | case1 reader raw left hcut =>
    have hsegment := ByteStream.segment_of_cut_line reader.inlet.unread hcut
    rw [howes.split] at hsegment
    exact .line hsegment ⟨rfl, howes.finite, howes.atEnd⟩ (Nat.le_refl _)
  | case2 reader length hcut =>
    have hsegment := ByteStream.segment_of_cut_overlong reader.inlet.unread hcut
    rw [howes.split] at hsegment
    exact .overlong hsegment howes hcut (Nat.le_refl _)
  | case3 reader hcut hend => exact howes.last (howes.atEnd hend) hcut
  | case4 reader hcut hend inlet hread =>
    obtain ⟨harrivals, rfl⟩ := howes.finite.of_read_end hread
    have hended : Owes ⟨reader.buffer, true, reader.inlet⟩ octets :=
      ⟨howes.split, howes.finite, fun _ ↦ harrivals⟩
    exact (hended.last harrivals hcut).of_le (Nat.le_refl _)
  | case5 reader hcut hend octet taken inlet hread ih =>
    obtain ⟨hunread, hfinite, hfailures⟩ := howes.finite.of_read_octets hread
    have hlonger : Owes ⟨reader.buffer ++ octet :: taken, reader.atEnd, inlet⟩ octets := by
      refine ⟨?_, hfinite, fun h ↦ absurd h hend⟩
      rw [← howes.split, hunread, List.append_assoc]
    exact (ih hlonger).of_le (Nat.le_of_eq hfailures)
  | case6 reader hcut hend cause inlet hread hkind ih =>
    obtain ⟨hunread, hfinite, hfailures⟩ := howes.finite.of_read_failed hread
    have hkept : Owes ⟨reader.buffer, reader.atEnd, inlet⟩ octets :=
      ⟨by rw [← howes.split, hunread], hfinite, fun h ↦ absurd h hend⟩
    exact (ih hkept).of_le (by rw [← hfailures]; exact Nat.le_add_right _ _)
  | case7 reader hcut hend cause inlet hread hkind =>
    obtain ⟨hunread, hfinite, hfailures⟩ := howes.finite.of_read_failed hread
    have hkept : Owes ⟨reader.buffer, reader.atEnd, inlet⟩ octets :=
      ⟨by rw [← howes.split, hunread], hfinite, fun h ↦ absurd h hend⟩
    rw [if_neg hkind] at hfailures
    exact .failed hkept (by rw [← hfailures]; exact Nat.lt_succ_self _)
  | case8 reader hcut hend inlet hread => exact absurd hread howes.finite.read_ne_pending

/-! ### Lines -/

/-- Where a call for the next line that does not only inform may leave a reader that owed octets:
it failed with the stream and still owes the same reading, or it gave that reading. -/
inductive ReadLine (reader : LineReader) (octets : Bytes) :
    Reading Line × LineReader → Prop where
  | failed {cause : IoError} {rest : LineReader} {left : Bytes} (howes : rest.Owes left)
      (hleft : ByteStream.reading left = ByteStream.reading octets)
      (hfailures : rest.inlet.failures < reader.inlet.failures) :
      ReadLine reader octets (.error (.io cause), rest)
  | overlong {length : Nat} {rest : LineReader} {left : Bytes}
      (hreading : ByteStream.reading octets = (.error (.lineTooLong 0 Line.maxLength), left))
      (howes : rest.Owes left) (hcut : cut rest.buffer = .overlong length)
      (hfailures : rest.inlet.failures ≤ reader.inlet.failures) :
      ReadLine reader octets (.error (.lineTooLong length Line.maxLength), rest)
  | found {result : Reading Line} {rest : LineReader} {left : Bytes}
      (hreading : ByteStream.reading octets = (result, left)) (howes : rest.Owes left)
      (hplain : result.IsPlain)
      (hfailures : rest.inlet.failures ≤ reader.inlet.failures) :
      ReadLine reader octets (result, rest)

theorem ReadLine.of_le {later : LineReader} {left : Bytes} {result : Reading Line × LineReader}
    (h : ReadLine later left result) (hle : later.inlet.failures ≤ reader.inlet.failures)
    (hreading : ByteStream.reading left = ByteStream.reading octets) :
    ReadLine reader octets result := by
  cases h with
  | failed howes hleft hfailures =>
    exact .failed howes (hleft.trans hreading) (Nat.lt_of_lt_of_le hfailures hle)
  | overlong hoverlong howes hcut hfailures =>
    exact .overlong (hreading ▸ hoverlong) howes hcut (Nat.le_trans hfailures hle)
  | found hfound howes hplain hfailures =>
    exact .found (hreading ▸ hfound) howes hplain (Nat.le_trans hfailures hle)

/-- Parsing a line can only find a bad escape. -/
theorem isPlain_ofExcept_parse (raw : Bytes) : (Reading.ofExcept (Line.parse raw)).IsPlain := by
  unfold Line.parse Line.unescape
  split
  · trivial
  · cases Escape.decode _ <;> trivial

theorem Owes.readLine (howes : reader.Owes octets) : ReadLine reader octets reader.readLine := by
  fun_induction LineReader.readLine reader generalizing octets with
  | case1 reader rest hraw =>
    have hnext := howes.nextRaw
    rw [hraw] at hnext
    cases hnext with
    | nothing hsegment howes hfailures =>
      exact .found (ByteStream.reading_of_nothing hsegment) howes trivial hfailures
  | case2 reader raw rest hraw hskip ih =>
    have hnext := howes.nextRaw
    rw [hraw] at hnext
    cases hnext with
    | line hsegment howes hfailures =>
      exact (ih howes).of_le hfailures (ByteStream.reading_of_skipped hsegment hskip).symm
  | case3 reader raw rest hraw hkeep =>
    have hnext := howes.nextRaw
    rw [hraw] at hnext
    cases hnext with
    | line hsegment howes hfailures =>
      rw [Bool.not_eq_true] at hkeep
      exact .found (ByteStream.reading_of_line hsegment hkeep) howes (isPlain_ofExcept_parse raw)
        hfailures
  | case4 reader cause rest hraw =>
    have hnext := howes.nextRaw
    rw [hraw] at hnext
    cases hnext with
    | failed howes hfailures => exact .failed howes rfl hfailures
    | overlong hsegment howes hcut hfailures =>
      exact .overlong (ByteStream.reading_of_overlong hsegment) howes hcut hfailures
  | case5 reader rest hraw =>
    have hnext := howes.nextRaw
    rw [hraw] at hnext
    cases hnext

/-! ### Reading again and again -/

/-- The results of reading again and again. -/
def readings : Nat → LineReader → List (Reading Line)
  | 0, _ => []
  | count + 1, reader => reader.readLine.1 :: readings count reader.readLine.2

/-- An overlong line is what every further call finds. -/
theorem readings_of_overlong {length : Nat} (hcut : cut reader.buffer = .overlong length)
    (count : Nat) :
    readings count reader =
      List.replicate count (.error (.lineTooLong length Line.maxLength)) := by
  have hraw : reader.nextRaw = (.error (.lineTooLong length Line.maxLength), reader) := by
    rw [LineReader.nextRaw, hcut]
  have hline : reader.readLine = (.error (.lineTooLong length Line.maxLength), reader) := by
    rw [LineReader.readLine, hraw]
  induction count with
  | zero => rfl
  | succ count ih => rw [readings, hline, ih, List.replicate_succ]

/-- The results that are no failures of the stream, without the lengths of overlong lines. -/
def heard (results : List (Reading Line)) : List (Reading Line) :=
  (results.filter fun result ↦ !result.isStreamFailure).map Reading.forgetLength

theorem heard_cons_failed (cause : IoError) (results : List (Reading Line)) :
    heard (.error (.io cause) :: results) = heard results := rfl

theorem heard_cons_overlong (length limit : Nat) (results : List (Reading Line)) :
    heard (.error (.lineTooLong length limit) :: results) =
      .error (.lineTooLong 0 limit) :: heard results := rfl

theorem heard_cons_plain {result : Reading Line} (hplain : result.IsPlain)
    (results : List (Reading Line)) : heard (result :: results) = result :: heard results := by
  unfold heard
  rw [List.filter_cons_of_pos (by simp [hplain.isStreamFailure]), List.map_cons,
    hplain.forgetLength]

theorem byteStream_readings_congr {left right : Bytes}
    (h : ByteStream.reading left = ByteStream.reading right) (count : Nat) :
    ByteStream.readings count left = ByteStream.readings count right := by
  cases count with
  | zero => rfl
  | succ count => rw [ByteStream.readings, ByteStream.readings, h]

/-- What is heard of a reader that owes octets is what they say, and failures of the stream keep
back no more results than there are such failures. -/
theorem Owes.heard_readings (howes : reader.Owes octets) (count : Nat) :
    heard (readings count reader) =
        ByteStream.readings (heard (readings count reader)).length octets ∧
      count ≤ (heard (readings count reader)).length + reader.inlet.failures := by
  induction count generalizing reader octets with
  | zero => exact ⟨rfl, Nat.zero_le _⟩
  | succ count ih =>
    have hline := howes.readLine
    rw [readings]
    generalize reader.readLine = result at hline
    cases hline with
    | failed howes hleft hfailures =>
      obtain ⟨hheard, hcount⟩ := ih howes
      dsimp only
      rw [heard_cons_failed, ← byteStream_readings_congr hleft]
      exact ⟨hheard, by omega⟩
    | overlong hreading howes hcut hfailures =>
      obtain ⟨hheard, hcount⟩ := ih howes
      dsimp only
      rw [heard_cons_overlong, List.length_cons, ByteStream.readings, hreading, ← hheard]
      exact ⟨rfl, by omega⟩
    | found hreading howes hplain hfailures =>
      obtain ⟨hheard, hcount⟩ := ih howes
      dsimp only
      rw [heard_cons_plain hplain, List.length_cons, ByteStream.readings, hreading, ← hheard]
      exact ⟨rfl, by omega⟩

theorem Owes.readings_after_overlong (howes : reader.Owes octets) {count length limit : Nat}
    {earlier later : List (Reading Line)}
    (h : readings count reader = earlier ++ .error (.lineTooLong length limit) :: later) :
    ∀ result ∈ later, result = .error (.lineTooLong length limit) := by
  induction count generalizing reader octets earlier with
  | zero => simp [readings] at h
  | succ count ih =>
    have hline := howes.readLine
    rw [readings] at h
    generalize reader.readLine = result at hline h
    cases earlier with
    | nil =>
      obtain ⟨hfirst, rfl⟩ := List.cons.inj h
      cases hline with
      | failed => simp at hfirst
      | overlong hreading howes hcut hfailures =>
        obtain ⟨rfl, rfl⟩ := Failure.lineTooLong.inj (Reading.error.inj hfirst)
        rw [readings_of_overlong hcut]
        exact fun result hmem ↦ List.eq_of_mem_replicate hmem
      | found hreading howes hplain hfailures =>
        dsimp only at hfirst
        subst hfirst
        exact hplain.elim
    | cons first earlier =>
      obtain ⟨-, hrest⟩ := List.cons.inj h
      cases hline with
      | failed howes hleft hfailures => exact ih howes hrest
      | overlong hreading howes hcut hfailures => exact ih howes hrest
      | found hreading howes hplain hfailures => exact ih howes hrest

/-- Without failures of the stream, and without overlong lines, reading gives just what the octets
say. -/
theorem Owes.readings_eq (howes : reader.Owes octets) (hfailures : reader.inlet.failures = 0)
    {count : Nat} (hplain : ∀ result ∈ ByteStream.readings count octets, result.IsPlain) :
    readings count reader = ByteStream.readings count octets := by
  induction count generalizing reader octets with
  | zero => rfl
  | succ count ih =>
    have hline := howes.readLine
    rw [ByteStream.readings] at hplain
    have hlater := fun result hmem ↦ hplain result (List.mem_cons_of_mem _ hmem)
    rw [readings, ByteStream.readings]
    generalize reader.readLine = result at hline
    cases hline with
    | failed howes hleft hless => omega
    | overlong hreading howes hcut hless =>
      rw [hreading] at hplain
      exact (hplain _ List.mem_cons_self).elim
    | found hreading howes _ hless =>
      rw [hreading] at hlater ⊢
      rw [ih howes (by omega) hlater]

/-- Reading a byte string that ends, again and again, gives what its octets say, however they
arrive and whatever failures come between them. The failures of the stream among the results are
at most those that came, and no line is ever found behind an overlong one. -/
theorem heard_readings_eq_byteStream (arrivals : List Arrival)
    (hchunks : ∀ arrival ∈ arrivals, arrival ≠ .chunk []) (count : Nat) :
    let results := readings count (ofInlet ⟨arrivals, true⟩)
    heard results =
        ByteStream.readings (heard results).length (arrivals.flatMap Arrival.octets) ∧
      count ≤ (heard results).length + arrivals.countP Arrival.isReported ∧
      ∀ earlier later length limit,
        results = earlier ++ .error (.lineTooLong length limit) :: later →
          ∀ result ∈ later, result = .error (.lineTooLong length limit) := by
  have howes : (ofInlet ⟨arrivals, true⟩).Owes (arrivals.flatMap Arrival.octets) :=
    owes_ofInlet ⟨rfl, hchunks⟩
  obtain ⟨hheard, hcount⟩ := howes.heard_readings count
  exact ⟨hheard, hcount, fun earlier later length limit h ↦ howes.readings_after_overlong h⟩

/-- A carriage return and its line feed that are kept apart by an interruption and a failure, in
a stream whose last line has no end. -/
theorem heard_readings_of_parted_line_end :
    let arrivals : List Arrival :=
      [.chunk [0x4F, 0x4B, 0x0D], .failure ⟨.interrupted, "interrupted"⟩,
        .failure ⟨.timedOut, "read timed out"⟩, .chunk [0x0A, 0x25], .chunk [0x58]]
    (∀ arrival ∈ arrivals, arrival ≠ .chunk []) ∧
      let results := readings 4 (ofInlet ⟨arrivals, true⟩)
      heard results =
          ByteStream.readings (heard results).length [0x4F, 0x4B, 0x0D, 0x0A, 0x25, 0x58] ∧
        4 ≤ (heard results).length + 1 ∧
        ∀ earlier later length limit,
          results = earlier ++ .error (.lineTooLong length limit) :: later →
            ∀ result ∈ later, result = .error (.lineTooLong length limit) :=
  ⟨by decide, heard_readings_eq_byteStream _ (by decide) 4⟩

end LineReader

end LineProtocol
