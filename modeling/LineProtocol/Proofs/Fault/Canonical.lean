import LineProtocol.Proofs.Fault.Decoding

/-!
# Canonical faults

A number may be given to a fault in many ways: by its registered name, as that number, or as any
number with the same low bits. Faults agree if a reader makes the same of them (`agrees_iff_heard`),
so that all of these agree, and nothing that is shown of a fault tells them apart.

Faults are built and read only in one of these ways (`Arises.canonical`). So those that agree are
equal, and their encodings tell them apart: `agreement_canonical`.
-/

set_option autoImplicit false

namespace LineProtocol.Fault

/-- Faults with the origin and the code that are registered under their numbers, whose names are
read back. -/
structure Canonical (fault : Fault) : Prop where
  registered : fault.heard = fault
  plain_name : '<' ∉ fault.name.toList

/-- The ways in which a fault comes about: it is built, or read from the parameters of a line. -/
inductive Arises : Fault → Prop
  | built (origin : Origin) (code : Code) (name message : String) :
    Arises (make origin code name message)
  | read {parameters : String} {fault : Fault} (h : decode parameters = .ok fault) : Arises fault

variable {fault left right : Fault}

theorem Arises.canonical (h : Arises fault) : fault.Canonical := by
  cases h with
  | built origin code name message =>
    exact ⟨heard_make origin code name message, not_mem_name_make origin code name message⟩
  | read hread =>
    obtain ⟨value, -, -, rfl⟩ := decode_eq_ok_iff.1 hread
    exact ⟨heard_reported value _, (divides_reported value _).not_mem_name⟩

/-! ### Faults that agree -/

/-- Faults agree if their readers make the same of them. -/
theorem agrees_iff_heard : left.agrees right = true ↔ left.heard = right.heard := by
  constructor
  · intro h
    simp only [agrees, Bool.and_eq_true, beq_iff_eq] at h
    obtain ⟨⟨⟨horigin, hcode⟩, hname⟩, hmessage⟩ := h
    rw [heard, heard, horigin, hcode, hname, hmessage]
  · intro h
    have horigin : left.origin.number = right.origin.number := by
      rw [← number_origin_heard left, h, number_origin_heard]
    have hcode : left.code.number = right.code.number := by
      rw [← number_code_heard left, h, number_code_heard]
    have hname : left.name = right.name := by
      rw [← name_heard left, h, name_heard]
    have hmessage : left.message = right.message := by
      rw [← message_heard left, h, message_heard]
    simp only [agrees, horigin, hcode, hname, hmessage, beq_self_eq_true, Bool.and_self]

theorem equivalence_agrees : Equivalence fun left right : Fault ↦ left.agrees right = true where
  refl := fun _ ↦ agrees_iff_heard.2 rfl
  symm := fun h ↦ agrees_iff_heard.2 (agrees_iff_heard.1 h).symm
  trans := fun hfirst hlast ↦
    agrees_iff_heard.2 ((agrees_iff_heard.1 hfirst).trans (agrees_iff_heard.1 hlast))

theorem display_heard (fault : Fault) : fault.heard.display = fault.display := by
  rw [display, name_heard, message_heard, number_code_heard, display]

/-- What is shown alike of a fault and of what its reader makes of it is shown alike of faults that
agree. -/
theorem eq_of_agrees {Shown : Type} {shown : Fault → Shown}
    (hshown : ∀ fault, shown fault.heard = shown fault) (h : left.agrees right = true) :
    shown left = shown right := by
  rw [← hshown left, agrees_iff_heard.1 h, hshown]

/-! ### Canonical faults that agree -/

theorem Canonical.agrees_iff_eq (hleft : left.Canonical) (hright : right.Canonical) :
    left.agrees right = true ↔ left = right := by
  rw [agrees_iff_heard, hleft.registered, hright.registered]

theorem Canonical.decode_encode (h : fault.Canonical) : decode fault.encode = .ok fault := by
  rw [Fault.decode_encode fault h.plain_name, h.registered]

theorem Canonical.encode_inj (hleft : left.Canonical) (hright : right.Canonical) :
    left.encode = right.encode ↔ left = right := by
  constructor
  · intro h
    have hread := hleft.decode_encode
    rw [h, hright.decode_encode] at hread
    exact (Except.ok.inj hread).symm
  · rintro rfl
    rfl

/-- Faults that were built or read agree if they are equal, origin, code, name and message, and
then only have they the same encoding. Of any faults, agreement is an equivalence, and faults that
agree have the same number on the wire, are encoded alike and cited alike. -/
theorem agreement_canonical :
    (∀ left right : Fault, Arises left → Arises right →
      (left.agrees right = true ↔ left = right) ∧
        (left.agrees right = true ↔ left.encode = right.encode)) ∧
    (Equivalence fun left right : Fault ↦ left.agrees right = true) ∧
    ∀ left right : Fault, left.agrees right = true →
      left.wireCode = right.wireCode ∧ left.encode = right.encode ∧
        left.display = right.display := by
  refine ⟨?_, equivalence_agrees, ?_⟩
  · intro left right hleft hright
    have hagrees := hleft.canonical.agrees_iff_eq hright.canonical
    exact ⟨hagrees, hagrees.trans (hleft.canonical.encode_inj hright.canonical).symm⟩
  · intro left right hagrees
    exact ⟨eq_of_agrees wireCode_heard hagrees, eq_of_agrees encode_heard hagrees,
      eq_of_agrees display_heard hagrees⟩

/-- A fault built with aliases of registered numbers, the one that is read from a number with stray
bits, and one with other aliases that was neither built nor read. -/
theorem agreement_canonical_of_aliases :
    let built := make (.other 143) (.other 65537) "a<b" "m"
    let found : Fault := ⟨.assuan, .general, "a_b", "m"⟩
    let raw : Fault := ⟨.other 271, .other 131073, "a_b", "m"⟩
    Arises built ∧ Arises found ∧ built.agrees found = true ∧ built = found ∧
      built.encode = found.encode ∧ raw.agrees found = true ∧ raw ≠ found ∧
      raw.wireCode = found.wireCode ∧ raw.encode = found.encode ∧
      raw.display = found.display := by
  intro built found raw
  have hbuilt : Arises built := .built _ _ _ _
  have hfound : Arises found := .read (by decide +kernel : decode "2415853569 m<a_b>" = .ok found)
  have hagrees : built.agrees found = true := by decide
  have hraw : raw.agrees found = true := by decide
  obtain ⟨hequal, hencoded⟩ := agreement_canonical.1 built found hbuilt hfound
  obtain ⟨hnumber, hencode, hdisplay⟩ := agreement_canonical.2.2 raw found hraw
  exact ⟨hbuilt, hfound, hagrees, hequal.1 hagrees, hencoded.1 hagrees, hraw, by decide, hnumber,
    hencode, hdisplay⟩

end LineProtocol.Fault
