import LineProtocol.Proofs.Line.EscapedForm
import LineProtocol.Proofs.Reading.StreamRoundTrip

/-!
# A last line without a line feed

A stream need not end in a line feed: what is left then is a last line. It is read as if the line
feed stood there, but for one thing. The carriage return that a line feed takes with it stays where
no line feed follows, and then it is the last octet of the parameters, or of a verb that has none
(`Retains`). Whether the line only informs, whether it fits and whether its escapes can be read does
not depend on the carriage return (`isInformational_dropReturn`, `parse_concat_return`).

`ByteStream.Terminates` puts the next reading of a stream beside that of the stream with the line
feed, and `readings_of_terminated` is what follows for all readings.
-/

set_option autoImplicit false

namespace LineProtocol

/-! ### A carriage return at the end -/

/-- A line that was read with the carriage return at its end, and the same line without it. -/
inductive Retains : Reading Line → Reading Line → Prop
  | parameters (verb : String) (parameters : Bytes) :
    Retains (.value ⟨verb, parameters ++ [Octet.cr]⟩) (.value ⟨verb, parameters⟩)
  | verb (verb : String) : Retains (.value ⟨verb ++ "\r", []⟩) (.value ⟨verb, []⟩)

namespace Line

theorem unescape_concat_return (escaped : Bytes) :
    unescape (escaped ++ [Octet.cr]) = (unescape escaped).map (· ++ [Octet.cr]) := by
  have hplain : Octet.cr ≠ Escape.percent := by decide
  have hdecode := Escape.decodeFrom_concat hplain rfl 0 escaped
  rw [unescape, Escape.decode, hdecode, unescape, Escape.decode]
  cases Escape.decodeFrom 0 escaped <;> rfl

theorem upperCase_append (first second : String) :
    upperCase (first ++ second) = upperCase first ++ upperCase second := by
  rw [upperCase, String.toList_append, List.map_append, String.ofList_append]
  rfl

/-- A carriage return at the end of a line goes to the parameters, if a space comes before it, and
otherwise to the verb. A bad escape remains one. -/
theorem parse_concat_return (raw : Bytes) :
    Reading.ofExcept (parse (raw ++ [Octet.cr])) = .ofExcept (parse raw) ∨
      Retains (.ofExcept (parse (raw ++ [Octet.cr]))) (.ofExcept (parse raw)) := by
  by_cases hspace : Octet.space ∈ raw
  · obtain ⟨verb, escaped, rfl, hverb⟩ := List.eq_append_cons_of_mem hspace
    rw [List.append_assoc, List.cons_append, parse_of_space _ hverb, parse_of_space _ hverb,
      unescape_concat_return]
    cases unescape escaped with
    | error cause => exact .inl rfl
    | ok parameters => exact .inr (.parameters _ parameters)
  · have hlonger : Octet.space ∉ raw ++ [Octet.cr] := by
      rw [List.mem_append, List.mem_singleton]
      exact not_or_intro hspace (by decide)
    rw [parse_of_no_space hspace, parse_of_no_space hlonger,
      Utf8.decodeLossy_concat (by decide), upperCase_append]
    exact .inr (.verb _)

/-- Whether a line only informs does not depend on a carriage return at its end. -/
theorem isInformational_concat_return (raw : Bytes) :
    isInformational (raw ++ [Octet.cr]) = isInformational raw := by
  have hblank : Octet.isBlank Octet.cr = true := rfl
  have hspace : Octet.cr ≠ Octet.space := by decide
  match raw with
  | [] => rfl
  | [only] => simp [isInformational, hblank, hspace]
  | first :: second :: rest => simp [isInformational, hblank]

end Line

namespace LineReader

/-- A line feed takes one carriage return with it, if there is one. -/
theorem dropReturn_cases (raw : Bytes) :
    (raw.getLast? ≠ some Octet.cr ∧ dropReturn raw = raw) ∨
      (raw.getLast? = some Octet.cr ∧ raw = dropReturn raw ++ [Octet.cr]) := by
  by_cases hreturn : raw.getLast? = some Octet.cr
  · obtain ⟨before, rfl⟩ := List.getLast?_eq_some_iff.1 hreturn
    refine .inr ⟨hreturn, ?_⟩
    rw [dropReturn, if_pos hreturn, List.dropLast_concat]
  · exact .inl ⟨hreturn, if_neg hreturn⟩

theorem isInformational_dropReturn (raw : Bytes) :
    Line.isInformational (dropReturn raw) = Line.isInformational raw := by
  rcases dropReturn_cases raw with ⟨-, hsame⟩ | ⟨-, hreturn⟩
  · rw [hsame]
  · conv_rhs => rw [hreturn, Line.isInformational_concat_return]

end LineReader

/-! ### Segments and readings -/

namespace ByteStream

/-- The first segment of a stream that does not end in a line feed, and that of the stream with the
line feed. -/
inductive Segments (octets : Bytes) : Segment → Segment → Prop
  | line {raw rest : Bytes} (hsome : rest ≠ []) (hlast : rest.getLast? = octets.getLast?) :
    Segments octets (.line raw rest) (.line raw (rest ++ [Octet.lf]))
  | overlong : Segments octets .overlong .overlong
  | last : Segments octets (.line octets []) (.line (LineReader.dropReturn octets) [])

theorem segments_of_terminated {octets : Bytes} (hsome : octets ≠ [])
    (hlast : octets.getLast? ≠ some Octet.lf) :
    Segments octets (segment octets) (segment (octets ++ [Octet.lf])) := by
  rcases split_at_lf octets with ⟨raw, rest, hraw, rfl⟩ | hnone
  · rw [List.append_assoc, List.cons_append]
    by_cases hlength : raw.length + 1 ≤ Line.maxLength
    · rw [segment_of_line rest hraw hlength, segment_of_line _ hraw hlength]
      have hrest : rest ≠ [] := by
        rintro rfl
        exact hlast List.getLast?_concat
      refine .line hrest ?_
      rw [List.getLast?_append_of_ne_nil _ (List.cons_ne_nil _ _),
        List.getLast?_cons_of_ne_nil hrest]
    · rw [segment_of_overlong rest hraw (Nat.not_le.1 hlength),
        segment_of_overlong _ hraw (Nat.not_le.1 hlength)]
      exact .overlong
  · have htake : Octet.lf ∉ octets.take Line.maxLength := fun hmem ↦
      hnone (List.mem_of_mem_take hmem)
    by_cases hlength : octets.length + 1 ≤ Line.maxLength
    · rw [segment_of_line [] hnone hlength, segment, if_neg htake, if_neg (by omega),
        if_neg (by simpa using hsome)]
      exact .last
    · rw [segment_of_overlong [] hnone (Nat.not_le.1 hlength), segment, if_neg htake,
        if_pos (by omega)]
      exact .overlong

/-- What reading a stream that does not end in a line feed gives and leaves, and what reading it
with the line feed does. -/
inductive Terminates (octets : Bytes) : Reading Line × Bytes → Reading Line × Bytes → Prop
  | goesOn {found : Reading Line} {left : Bytes} (hsome : left ≠ [])
      (hlast : left.getLast? = octets.getLast?) :
    Terminates octets (found, left) (found, left ++ [Octet.lf])
  | alike (found : Reading Line) : Terminates octets (found, []) (found, [])
  | retains {kept cut : Reading Line} (hreturn : octets.getLast? = some Octet.cr)
      (hretains : Retains kept cut) : Terminates octets (kept, []) (cut, [])

theorem terminates_reading {octets : Bytes} (hsome : octets ≠ [])
    (hlast : octets.getLast? ≠ some Octet.lf) :
    Terminates octets (reading octets) (reading (octets ++ [Octet.lf])) := by
  have hsegments := segments_of_terminated hsome hlast
  fun_induction reading octets with
  | case1 octets hnothing =>
    rw [hnothing] at hsegments
    cases hsegments
  | case2 octets hoverlong =>
    rw [hoverlong] at hsegments
    generalize hlater : segment (octets ++ [Octet.lf]) = later at hsegments
    cases hsegments
    rw [reading_of_overlong hlater]
    exact .goesOn hsome rfl
  | case3 octets raw rest hline hskip ih =>
    rw [hline] at hsegments
    generalize hlater : segment (octets ++ [Octet.lf]) = later at hsegments
    cases hsegments with
    | line hrest hends =>
      have hmore := ih hrest (hends ▸ hlast) (segments_of_terminated hrest (hends ▸ hlast))
      rw [reading_of_skipped hlater hskip]
      generalize reading rest = unended, reading (rest ++ [Octet.lf]) = ended at hmore ⊢
      cases hmore with
      | goesOn hleft hleftends => exact .goesOn hleft (hleftends.trans hends)
      | alike found => exact .alike found
      | retains hreturn hretains => exact .retains (hends ▸ hreturn) hretains
    | last =>
      rw [← LineReader.isInformational_dropReturn] at hskip
      rw [reading_of_skipped hlater hskip, reading_nil]
      exact .alike _
  | case4 octets raw rest hline hkeep =>
    rw [hline] at hsegments
    rw [Bool.not_eq_true] at hkeep
    generalize hlater : segment (octets ++ [Octet.lf]) = later at hsegments
    cases hsegments with
    | line hrest hends =>
      rw [reading_of_line hlater hkeep]
      exact .goesOn hrest hends
    | last =>
      rw [← LineReader.isInformational_dropReturn] at hkeep
      rw [reading_of_line hlater hkeep]
      rcases LineReader.dropReturn_cases octets with ⟨-, hsame⟩ | ⟨hreturn, hcut⟩
      · rw [hsame]
        exact .alike _
      · have hparse := Line.parse_concat_return (LineReader.dropReturn octets)
        rw [← hcut] at hparse
        rcases hparse with hsame | hretains
        · rw [hsame]
          exact .alike _
        · exact .retains hreturn hretains

/-- The readings of a stream that does not end in a line feed are those of the stream with the line
feed, but for the carriage return of a last line. -/
theorem readings_of_terminated {octets : Bytes} (hsome : octets ≠ [])
    (hlast : octets.getLast? ≠ some Octet.lf) (count : Nat) :
    readings count octets = readings count (octets ++ [Octet.lf]) ∨
      (octets.getLast? = some Octet.cr ∧ ∃ earlier kept cut spare,
        readings count octets = earlier ++ kept :: List.replicate spare (.error .closed) ∧
          readings count (octets ++ [Octet.lf]) =
            earlier ++ cut :: List.replicate spare (.error .closed) ∧
          Retains kept cut) := by
  induction count generalizing octets with
  | zero => exact .inl rfl
  | succ count ih =>
    have hreading := terminates_reading hsome hlast
    rw [readings, readings]
    generalize reading octets = unended, reading (octets ++ [Octet.lf]) = ended at hreading
    cases hreading with
    | @goesOn found left hleft hends =>
      rcases ih hleft (hends ▸ hlast) with hsame |
        ⟨hreturn, earlier, kept, cut, spare, hkept, hcut, h⟩
      · exact .inl (congrArg (found :: ·) hsame)
      · exact .inr ⟨hends ▸ hreturn, found :: earlier, kept, cut, spare,
          congrArg (found :: ·) hkept, congrArg (found :: ·) hcut, h⟩
    | alike found => exact .inl rfl
    | @retains kept cut hreturn hretains =>
      refine .inr ⟨hreturn, [], kept, cut, count, ?_, ?_, hretains⟩ <;> rw [readings_nil] <;> rfl

end ByteStream

namespace LineReader

variable {reader : LineReader} {octets : Bytes}

theorem length_readings (count : Nat) (reader : LineReader) :
    (readings count reader).length = count := by
  induction count generalizing reader with
  | zero => rfl
  | succ count ih => rw [readings, List.length_cons, ih]

/-- Without failures of the stream every reading is what the octets say, the lengths of overlong
lines aside. -/
theorem Owes.map_readings (howes : reader.Owes octets) (hfailures : reader.inlet.failures = 0)
    (count : Nat) :
    (readings count reader).map Reading.forgetLength = ByteStream.readings count octets := by
  obtain ⟨hheard, hcount⟩ := howes.heard_readings count
  have hall : (readings count reader).filter (fun result ↦ !result.isStreamFailure) =
      readings count reader := by
    refine List.filter_sublist.eq_of_length_le ?_
    rw [heard, List.length_map] at hcount
    rw [length_readings]
    omega
  have hheard' : heard (readings count reader) =
      (readings count reader).map Reading.forgetLength := by rw [heard, hall]
  rwa [hheard', List.length_map, length_readings] at hheard

/-- A stream that does not end in a line feed is read as if the line feed stood there, however
either stream is cut into chunks and whatever the last line holds, unless it ends in a carriage
return. Even then only one reading can differ, that of the last line, which keeps the carriage
return. -/
theorem readings_of_unended (octets : Bytes) (unended ended : List Bytes) (hsome : octets ≠ [])
    (hlast : octets.getLast? ≠ some Octet.lf) (hunended : ∀ chunk ∈ unended, chunk ≠ [])
    (hended : ∀ chunk ∈ ended, chunk ≠ []) (hoctets : unended.flatten = octets)
    (hfed : ended.flatten = octets ++ [Octet.lf]) (count : Nat) :
    let results (chunks : List Bytes) : List (Reading Line) :=
      (readings count (ofInlet ⟨chunks.map .chunk, true⟩)).map Reading.forgetLength
    results unended = results ended ∨
      (octets.getLast? = some Octet.cr ∧ ∃ earlier kept cut spare,
        results unended = earlier ++ kept :: List.replicate spare (.error .closed) ∧
          results ended = earlier ++ cut :: List.replicate spare (.error .closed) ∧
          Retains kept cut) := by
  intro results
  have hresults {chunks : List Bytes} (hchunks : ∀ chunk ∈ chunks, chunk ≠ []) :
      results chunks = ByteStream.readings count chunks.flatten := by
    obtain ⟨howes, hfailures⟩ := owes_of_chunks hchunks
    exact howes.map_readings hfailures count
  rw [hresults hunended, hresults hended, hoctets, hfed]
  exact ByteStream.readings_of_terminated hsome hlast count

/-- A comment, and a last line whose carriage return comes in a chunk of its own. -/
theorem readings_of_unended_return :
    let octets : Bytes := [0x23, 0x0A, 0x4F, 0x4B, 0x20, 0x61, 0x0D]
    let unended : List Bytes := [[0x23, 0x0A, 0x4F], [0x4B, 0x20, 0x61], [0x0D]]
    let ended : List Bytes := [[0x23, 0x0A, 0x4F, 0x4B, 0x20, 0x61, 0x0D], [0x0A]]
    (octets ≠ [] ∧ octets.getLast? ≠ some Octet.lf ∧ (∀ chunk ∈ unended, chunk ≠ []) ∧
      (∀ chunk ∈ ended, chunk ≠ []) ∧ unended.flatten = octets ∧
      ended.flatten = octets ++ [Octet.lf]) ∧
      let results (chunks : List Bytes) : List (Reading Line) :=
        (readings 2 (ofInlet ⟨chunks.map .chunk, true⟩)).map Reading.forgetLength
      results unended = results ended ∨
        (octets.getLast? = some Octet.cr ∧ ∃ earlier kept cut spare,
          results unended = earlier ++ kept :: List.replicate spare (.error .closed) ∧
            results ended = earlier ++ cut :: List.replicate spare (.error .closed) ∧
            Retains kept cut) :=
  ⟨by decide, readings_of_unended _ _ _ (by decide) (by decide) (by decide) (by decide) rfl rfl 2⟩

/-- The carriage return at the end of `OK hello` is read where no line feed follows it, and is not
where one does. -/
theorem not_alike_of_return :
    let hello : Bytes := [0x4F, 0x4B, 0x20, 0x68, 0x65, 0x6C, 0x6C, 0x6F, 0x0D]
    hello ≠ [] ∧ hello.getLast? ≠ some Octet.lf ∧
      (readings 1 (ofInlet ⟨[.chunk hello], true⟩)).map Reading.forgetLength ≠
        (readings 1 (ofInlet ⟨[.chunk (hello ++ [Octet.lf])], true⟩)).map
          Reading.forgetLength := by
  decide +kernel

end LineReader

end LineProtocol
