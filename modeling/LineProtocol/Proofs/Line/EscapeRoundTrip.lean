import LineProtocol.Line
import Mathlib.Tactic

/-!
# Escaping loses nothing

An octet is written as itself or as one of four escapes, and reading one written octet back gives
that octet and goes on behind it: `decodeFrom_encodeOctet`. So a whole escaped sequence is read
back (`decode_encode`), whatever the offset at which reading starts.

What framing needs of the written form is that none of the octets that would disturb a line is in
it: `mem_encode`.
-/

set_option autoImplicit false

namespace LineProtocol.Escape

/-- The four octets that are escaped. -/
theorem needsEscape_iff {octet : UInt8} :
    needsEscape octet = true ↔
      octet = Octet.cr ∨ octet = Octet.lf ∨ octet = percent ∨ octet = 0x5C := by
  simp [needsEscape, or_assoc]

/-- An octet that needs no escape stands for itself. -/
theorem encodeOctet_of_plain {octet : UInt8} (h : needsEscape octet = false) :
    encodeOctet octet = [octet] := by
  simp [encodeOctet, h]

theorem width_le (octet : UInt8) : width octet ≤ 3 := by
  unfold width
  split <;> decide

theorem le_encodedLength (octets : Bytes) : octets.length ≤ encodedLength octets := by
  induction octets with
  | nil => exact Nat.le_refl _
  | cons octet later ih =>
    have hwidth : 1 ≤ width octet := by
      unfold width
      split <;> decide
    rw [encodedLength, List.length_cons]
    omega

theorem encodedLength_le (octets : Bytes) : encodedLength octets ≤ 3 * octets.length := by
  induction octets with
  | nil => exact Nat.le_refl _
  | cons octet later ih =>
    have hwidth := width_le octet
    rw [encodedLength, List.length_cons]
    omega

theorem encodedLength_append (first second : Bytes) :
    encodedLength (first ++ second) = encodedLength first + encodedLength second := by
  induction first with
  | nil => exact (Nat.zero_add _).symm
  | cons octet rest ih => rw [List.cons_append, encodedLength, ih, encodedLength, Nat.add_assoc]

theorem encodedLength_replicate (count : Nat) (octet : UInt8) :
    encodedLength (List.replicate count octet) = count * width octet := by
  induction count with
  | zero => exact (Nat.zero_mul _).symm
  | succ count ih =>
    rw [List.replicate_succ, encodedLength, ih, Nat.succ_mul, Nat.add_comm]

theorem decodeFrom_cons_of_ne {octet : UInt8} (offset : Nat) (rest : Bytes)
    (h : octet ≠ percent) :
    decodeFrom offset (octet :: rest) =
      match decodeFrom (offset + 1) rest with
      | .ok octets => .ok (octet :: octets)
      | .error position => .error position := by
  rw [decodeFrom.eq_def]
  exact if_neg h

/-- Reading one written octet back gives that octet and goes on behind it. -/
theorem decodeFrom_encodeOctet (offset : Nat) (octet : UInt8) (rest : Bytes) :
    decodeFrom offset (encodeOctet octet ++ rest) =
      match decodeFrom (offset + width octet) rest with
      | .ok octets => .ok (octet :: octets)
      | .error position => .error position := by
  by_cases hescape : needsEscape octet = true
  · rcases needsEscape_iff.1 hescape with rfl | rfl | rfl | rfl <;> rfl
  · have hplain : needsEscape octet = false := by simpa using hescape
    have hpercent : octet ≠ percent := fun h ↦ hescape (needsEscape_iff.2 (by simp [h]))
    have hwidth : width octet = 1 := by simp [width, hplain]
    rw [encodeOctet_of_plain hplain, List.singleton_append, hwidth,
      decodeFrom_cons_of_ne offset rest hpercent]

theorem decodeFrom_encode (offset : Nat) (octets : Bytes) :
    decodeFrom offset (encode octets) = .ok octets := by
  unfold encode
  induction octets generalizing offset with
  | nil => rfl
  | cons octet rest ih => rw [List.flatMap_cons, decodeFrom_encodeOctet, ih]

/-- An octet sequence is read back from its escaped form. -/
theorem decode_encode (octets : Bytes) : decode (encode octets) = .ok octets :=
  decodeFrom_encode 0 octets

theorem mem_encodeOctet {octet written : UInt8} (h : written ∈ encodeOctet octet) :
    written ≠ Octet.cr ∧ written ≠ Octet.lf ∧ written ≠ 0x5C := by
  by_cases hescape : needsEscape octet = true
  · have hforms : ([Octet.cr, Octet.lf, percent, 0x5C].flatMap encodeOctet).all fun form ↦
        form ≠ Octet.cr ∧ form ≠ Octet.lf ∧ form ≠ 0x5C := by
      decide
    have hspecial : octet ∈ [Octet.cr, Octet.lf, percent, 0x5C] := by
      simpa using needsEscape_iff.1 hescape
    simpa using List.all_eq_true.1 hforms written (List.mem_flatMap.2 ⟨octet, hspecial, h⟩)
  · rw [encodeOctet_of_plain (by simpa using hescape), List.mem_singleton] at h
    subst h
    exact ⟨fun h ↦ hescape (needsEscape_iff.2 (by simp [h])),
      fun h ↦ hescape (needsEscape_iff.2 (by simp [h])),
      fun h ↦ hescape (needsEscape_iff.2 (by simp [h]))⟩

/-- Neither line end nor backslash is in an escaped form. -/
theorem mem_encode {octets : Bytes} {written : UInt8} (h : written ∈ encode octets) :
    written ≠ Octet.cr ∧ written ≠ Octet.lf ∧ written ≠ 0x5C := by
  obtain ⟨octet, -, hwritten⟩ := List.mem_flatMap.1 h
  exact mem_encodeOctet hwritten

end LineProtocol.Escape

namespace LineProtocol.Line

/-- Escaped parameters are read back. -/
@[simp] theorem unescape_encode (parameters : Bytes) :
    unescape (Escape.encode parameters) = .ok parameters := by
  rw [unescape, Escape.decode_encode]

end LineProtocol.Line
