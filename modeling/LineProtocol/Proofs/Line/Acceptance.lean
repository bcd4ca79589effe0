import LineProtocol.Proofs.Reading.StreamRoundTrip

/-!
# What a writer and a reader let pass

A verb is refused for what it holds and nothing else (`encode_eq_invalidVerb_iff`), and the line of
any other verb for its length and nothing else (`encode_of_isVerb`). A writer works the length out
before it makes the line. A reader counts what it has, up to the line feed or, as long as none has
come, all of it. The two refuse the same lines: a reader gets past the line of a verb exactly if a
writer would write it (`nextRaw_of_render`).
-/

set_option autoImplicit false

namespace LineProtocol

namespace Line

theorem isVerb_eq_false_iff {octets : Bytes} :
    isVerb octets = false ↔ octets = [] ∨
      ∃ octet ∈ octets, Octet.isBlank octet = true ∨ Octet.isControl octet = true := by
  rw [← Bool.not_eq_true, isVerb_iff, not_and_or, not_not]
  refine or_congr_right ⟨fun h ↦ ?_, fun ⟨octet, hmem, hrefused⟩ h ↦ ?_⟩
  · by_contra hnone
    refine h fun octet hmem ↦ ?_
    have hplain : ¬(Octet.isBlank octet = true ∨ Octet.isControl octet = true) :=
      fun hrefused ↦ hnone ⟨octet, hmem, hrefused⟩
    rw [not_or, Bool.not_eq_true, Bool.not_eq_true] at hplain
    exact hplain
  · obtain ⟨hblank, hcontrol⟩ := h octet hmem
    rw [hblank, hcontrol] at hrefused
    exact hrefused.elim Bool.false_ne_true Bool.false_ne_true

theorem encode_of_not_isVerb {verb : String} (hverb : isVerb (Utf8.encode verb) = false)
    (parameters : Bytes) : encode verb parameters = .error (.invalidVerb verb) := by
  rw [encode]
  simp only [hverb, Bool.not_false, if_true]

/-- A verb is refused exactly if it is none. -/
theorem encode_eq_invalidVerb_iff {verb : String} {parameters : Bytes} :
    encode verb parameters = .error (.invalidVerb verb) ↔ isVerb (Utf8.encode verb) = false := by
  refine ⟨fun h ↦ ?_, fun hverb ↦ encode_of_not_isVerb hverb parameters⟩
  by_contra hverb
  rw [Bool.not_eq_false] at hverb
  exact nomatch (lineTooLong_of_encode hverb h).2

end Line

namespace LineReader

variable {reader : LineReader} {verb parameters later : Bytes}

/-- A reader in front of the line of a verb gives it, if it is not too long. -/
theorem nextRaw_of_render (howes : reader.Owes (Line.render verb parameters ++ later))
    (hfailures : reader.inlet.failures = 0) (hverb : Line.isVerb verb = true)
    (hlength : (Line.render verb parameters).length ≤ Line.maxLength) :
    ∃ rest, reader.nextRaw = (.value (some (Line.stem verb parameters)), rest) ∧
      rest.Owes later := by
  have hsegment := @ByteStream.segment_of_render parameters verb later hverb
  rw [if_pos hlength] at hsegment
  have hnext := howes.nextRaw
  generalize reader.nextRaw = result at hnext
  cases hnext with
  | failed _ hless => omega
  | line hline hrest _ =>
    obtain ⟨rfl, rfl⟩ := ByteStream.Segment.line.inj (hline.symm.trans hsegment)
    exact ⟨_, rfl, hrest⟩
  | overlong hoverlong => exact nomatch hoverlong.symm.trans hsegment
  | nothing hnothing => exact nomatch hnothing.symm.trans hsegment

/-- It fails for the length if it is. -/
theorem lineTooLong_of_render (howes : reader.Owes (Line.render verb parameters ++ later))
    (hfailures : reader.inlet.failures = 0) (hverb : Line.isVerb verb = true)
    (hlength : ¬(Line.render verb parameters).length ≤ Line.maxLength) :
    ∃ length, reader.nextRaw.1 = .error (.lineTooLong length Line.maxLength) := by
  have hsegment := @ByteStream.segment_of_render parameters verb later hverb
  rw [if_neg hlength] at hsegment
  have hnext := howes.nextRaw
  generalize reader.nextRaw = result at hnext
  cases hnext with
  | failed _ hless => omega
  | line hline => exact nomatch hline.symm.trans hsegment
  | overlong _ _ hcut => exact ⟨_, rfl⟩
  | nothing hnothing => exact nomatch hnothing.symm.trans hsegment

end LineReader

end LineProtocol
