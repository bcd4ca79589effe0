import LineProtocol.Proofs.Line.Refusal
import LineProtocol.Proofs.Reading.Lines

/-!
# Payloads fill their lines

A payload is cut into parts, and each part stands escaped on a `D` line of its own. `Line.Packs`
says what makes a good cut: together the parts are the payload, none is empty, no escape is cut in
two, every line is short enough, and no line but the last has room for one octet more.

That the lines are full is shown along the cut. A line that is not finished yet holds some octets
already, and what they leave is the room that the first portion may take (`isChain_portions`).
`sendData_packs` puts this together with what comes out of the outlet and with what a reader makes
of it.
-/

set_option autoImplicit false

namespace LineProtocol

namespace Line

/-- The next part begins with an octet that has no room on the line of this one. -/
def Crowds (part next : Bytes) : Prop :=
  ∀ octet ∈ next.head?,
    maxLength < (dataLine (Escape.encode part ++ Escape.encodeOctet octet)).length

/-- The parts of a payload, each escaped on its line: nothing is lost, no line is empty, cut inside
an escape or too long, and all but the last are full. -/
structure Packs (payload : Bytes) (parts : List Bytes) : Prop where
  flatten : parts.flatten = payload
  nonempty : ∀ part ∈ parts, part ≠ []
  whole : ∀ part ∈ parts, Escape.decode (Escape.encode part) = .ok part
  fits : ∀ part ∈ parts, (dataLine (Escape.encode part)).length ≤ maxLength
  full : parts.IsChain Crowds

/-- The parts of a payload that stand on its lines. -/
def parts (payload : Bytes) : List Bytes :=
  (ofPayload payload).map Line.parameters

/-! ### Full lines -/

theorem length_dataLine (piece : Bytes) : (dataLine piece).length = piece.length + 3 := by
  simp [dataLine]

theorem crowds_cons_iff {part next : Bytes} {octet : UInt8} :
    Crowds part (octet :: next) ↔
      maxPayload < Escape.encodedLength part + Escape.width octet := by
  have hmax : maxPayload + 3 = maxLength := by decide
  simp only [Crowds, List.head?_cons, Option.mem_some_iff, forall_eq', length_dataLine,
    List.length_append, Escape.length_encode, Escape.length_encodeOctet]
  omega

/-- A line that already holds some octets is filled up by the first portion, and the lines behind
it are full too. -/
theorem isChain_portions {lead : Bytes} {room : Nat} (payload : Bytes)
    (hroom : Escape.encodedLength lead + room = maxPayload) :
    ∃ first later, portions room payload = first :: later ∧
      ((lead ++ first) :: later).IsChain Crowds := by
  induction payload generalizing lead room with
  | nil => exact ⟨[], [], rfl, List.isChain_singleton _⟩
  | cons octet rest ih =>
    rw [portions]
    split
    case isTrue hfits =>
      have hlonger : Escape.encodedLength (lead ++ [octet]) + (room - Escape.width octet) =
          maxPayload := by
        rw [Escape.encodedLength_append, Escape.encodedLength, Escape.encodedLength]
        omega
      obtain ⟨first, later, hportions, hchain⟩ := ih hlonger
      refine ⟨octet :: first, later, by rw [hportions]; rfl, ?_⟩
      rwa [List.append_assoc, List.singleton_append] at hchain
    case isFalse hfits =>
      -- the octet opens the next line, of which it is all there is so far
      have hwidth : Escape.width octet ≤ maxPayload :=
        Nat.le_trans (Escape.width_le octet) (by decide)
      have hopened : Escape.encodedLength [octet] + (maxPayload - Escape.width octet) =
          maxPayload := by
        rw [Escape.encodedLength, Escape.encodedLength]
        omega
      obtain ⟨first, later, hportions, hchain⟩ := ih hopened
      refine ⟨[], (octet :: first) :: later, by rw [hportions]; rfl, ?_⟩
      rw [List.append_nil]
      exact List.isChain_cons_cons.2 ⟨crowds_cons_iff.2 (by omega), hchain⟩

theorem ofPayload_eq (payload : Bytes) : ofPayload payload = (parts payload).map (Line.mk "D") := by
  have hself : ∀ line ∈ ofPayload payload, Line.mk "D" line.parameters = line := by
    intro line hmem
    rw [← (mem_ofPayload hmem).1]
  rw [parts, List.map_map]
  exact ((List.map_congr_left hself).trans (List.map_id _)).symm

theorem parts_eq_portions {payload : Bytes} (h : payload ≠ []) :
    parts payload = portions maxPayload payload := by
  rw [parts, ofPayload, if_neg (by simpa using h), List.map_map]
  exact List.map_id _

/-- The lines of a payload are a good cut of it. -/
theorem packs_parts (payload : Bytes) : Packs payload (parts payload) where
  flatten := by
    rw [parts, ← List.flatMap_def]
    exact flatMap_parameters_ofPayload payload
  nonempty := List.forall_mem_map.2 fun _ hmem ↦ (mem_ofPayload hmem).2.1
  whole := fun part _ ↦ Escape.decode_encode part
  fits := List.forall_mem_map.2 fun line hmem ↦ by
    obtain ⟨hverb, hsome, hsendable⟩ := mem_ofPayload hmem
    rw [dataLine_encode hverb hsome]
    exact length_octets hsendable
  full := by
    by_cases hempty : payload = []
    · subst hempty
      exact List.isChain_nil
    · obtain ⟨first, later, hportions, hchain⟩ :=
        isChain_portions payload (show Escape.encodedLength [] + maxPayload = maxPayload from
          Nat.zero_add _)
      rw [parts_eq_portions hempty, hportions]
      exact hchain

/-- A good cut of what is left of a payload, behind what its first line already holds, is the one
that `portions` makes. -/
theorem portions_of_isChain {lead first payload : Bytes} {later : List Bytes} {room : Nat}
    (hroom : Escape.encodedLength lead + room = maxPayload)
    (hpayload : first ++ later.flatten = payload) (hfirst : Escape.encodedLength first ≤ room)
    (hlater : ∀ part ∈ later, part ≠ [] ∧ Escape.encodedLength part ≤ maxPayload)
    (hchain : ((lead ++ first) :: later).IsChain Crowds) :
    portions room payload = first :: later := by
  induction payload generalizing lead first later room with
  | nil =>
    obtain ⟨rfl, hnone⟩ := List.append_eq_nil_iff.1 hpayload
    have hlast : later = [] := List.eq_nil_iff_forall_not_mem.2 fun part hmem ↦
      (hlater part hmem).1 (List.flatten_eq_nil_iff.1 hnone part hmem)
    rw [hlast, portions]
  | cons octet rest ih =>
    cases first with
    | cons head first =>
      obtain ⟨rfl, hrest⟩ := List.cons.inj hpayload
      rw [Escape.encodedLength] at hfirst
      have hlonger : Escape.encodedLength (lead ++ [head]) + (room - Escape.width head) =
          maxPayload := by
        rw [Escape.encodedLength_append, Escape.encodedLength, Escape.encodedLength]
        omega
      rw [List.append_cons] at hchain
      rw [portions, if_pos (by omega), ih hlonger hrest (by omega) hlater hchain]
      rfl
    | nil =>
      -- the octet opens the next line, and so it has no room on this one
      cases later with
      | nil => exact absurd hpayload.symm (List.cons_ne_nil octet rest)
      | cons next later =>
        obtain ⟨⟨hsome, hfits⟩, hothers⟩ := List.forall_mem_cons.1 hlater
        obtain ⟨head, next, rfl⟩ := List.exists_cons_of_ne_nil hsome
        obtain ⟨rfl, hrest⟩ := List.cons.inj hpayload
        rw [List.append_nil, List.isChain_cons_cons, crowds_cons_iff] at hchain
        rw [Escape.encodedLength] at hfits
        have hopened : Escape.encodedLength [head] + (maxPayload - Escape.width head) =
            maxPayload := by
          rw [Escape.encodedLength, Escape.encodedLength]
          omega
        rw [portions, if_neg (by omega), ih hopened hrest (by omega) hothers hchain.2]
        rfl

/-- There is one good cut of a payload. -/
theorem packs_iff {payload : Bytes} {cut : List Bytes} :
    Packs payload cut ↔ cut = parts payload := by
  constructor
  · intro h
    cases cut with
    | nil =>
      obtain rfl : [] = payload := h.flatten
      rfl
    | cons first later =>
      have hfits : ∀ part ∈ first :: later, Escape.encodedLength part ≤ maxPayload := by
        intro part hmem
        have hlength := h.fits part hmem
        rw [length_dataLine, Escape.length_encode] at hlength
        exact Nat.le_sub_of_add_le hlength
      have hsome : payload ≠ [] := by
        rw [← h.flatten]
        exact fun hnone ↦ h.nonempty first List.mem_cons_self
          (List.flatten_eq_nil_iff.1 hnone first List.mem_cons_self)
      rw [parts_eq_portions hsome]
      refine (@portions_of_isChain [] _ _ _ _ (Nat.zero_add _) h.flatten
        (hfits first List.mem_cons_self) (fun part hmem ↦ ?_) h.full).symm
      have hmem' := List.mem_cons_of_mem first hmem
      exact ⟨h.nonempty part hmem', hfits part hmem'⟩
  · rintro rfl
    exact packs_parts payload

theorem flatMap_octets_ofPayload (payload : Bytes) :
    (ofPayload payload).flatMap octets =
      (parts payload).flatMap fun part ↦ dataLine (Escape.encode part) := by
  rw [parts, List.flatMap_map]
  refine List.flatMap_congr fun line hmem ↦ ?_
  obtain ⟨hverb, hsome, -⟩ := mem_ofPayload hmem
  exact (dataLine_encode hverb hsome).symm

/-- The lines of a payload are read back. -/
theorem readAs_parts (payload : Bytes) :
    LineReader.ReadAs ((parts payload).flatMap fun part ↦ dataLine (Escape.encode part))
      ((parts payload).map (Line.mk "D")) := by
  rw [← flatMap_octets_ofPayload, ← ofPayload_eq]
  refine LineReader.readAs_flatMap_octets fun line hmem ↦ ?_
  obtain ⟨hverb, -, hsendable⟩ := mem_ofPayload hmem
  refine ⟨hsendable, ?_⟩
  rw [onlyInforms, informs, hverb]
  rfl

end Line

namespace Outlet

/-- On an outlet without a limit a payload comes out as its lines. -/
theorem sendData_of_unlimited {outlet : Outlet} (hlimit : outlet.limit = none) (payload : Bytes) :
    (outlet.sendData payload).2.octets =
        outlet.octets ++ (Line.ofPayload payload).flatMap Line.octets ∧
      (outlet.sendData payload).2.limit = none ∧
      (outlet.flushFailure = none → (outlet.sendData payload).1 = .ok ()) := by
  rw [sendData]
  split
  case isTrue hempty =>
    rw [Line.ofPayload, if_pos hempty]
    exact ⟨(List.append_nil _).symm, hlimit, fun _ ↦ rfl⟩
  case isFalse =>
    rw [Line.dataLines_eq, List.flatMap_def]
    have hsends := sendEach_sends outlet ((Line.ofPayload payload).map Line.octets)
    obtain ⟨hoctets, hkept, -, -⟩ := hsends.of_unlimited hlimit
    exact ⟨hoctets, hkept, hsends.eq_ok hlimit⟩

/-- A payload is written on `D` lines of which each but the last is full, and is read back from
them, whatever octets it has and in whatever chunks they come. An empty one writes nothing. Sent in
two halves it may be cut elsewhere, and is read back just the same. -/
theorem sendData_packs (outlet : Outlet) (hroom : outlet.room = none) (hcap : outlet.cap ≠ some 0) :
    outlet.sendData [] = (.ok (), outlet) ∧
      (∀ payload, ∃ parts : List Bytes,
        (∀ cut, Line.Packs payload cut ↔ cut = parts) ∧
        (outlet.sendData payload).2.octets =
          outlet.octets ++ parts.flatMap (fun part ↦ Line.dataLine (Escape.encode part)) ∧
        (outlet.flushFailure = none → (outlet.sendData payload).1 = .ok ()) ∧
        LineReader.ReadAs (parts.flatMap fun part ↦ Line.dataLine (Escape.encode part))
          (parts.map (Line.mk "D"))) ∧
      ∀ first second, ∃ parts : List Bytes,
        parts.flatten = first ++ second ∧
        ((outlet.sendData first).2.sendData second).2.octets =
          outlet.octets ++ parts.flatMap (fun part ↦ Line.dataLine (Escape.encode part)) ∧
        LineReader.ReadAs (parts.flatMap fun part ↦ Line.dataLine (Escape.encode part))
          (parts.map (Line.mk "D")) := by
  have hlimit : outlet.limit = none := by rw [limit, if_neg hcap, hroom]
  refine ⟨rfl, fun payload ↦ ?_, fun first second ↦ ?_⟩
  · obtain ⟨hoctets, -, hresult⟩ := sendData_of_unlimited hlimit payload
    rw [Line.flatMap_octets_ofPayload] at hoctets
    exact ⟨Line.parts payload, fun _ ↦ Line.packs_iff, hoctets, hresult,
      Line.readAs_parts payload⟩
  · obtain ⟨hfirst, hkept, -⟩ := sendData_of_unlimited hlimit first
    obtain ⟨hsecond, -, -⟩ := sendData_of_unlimited hkept second
    refine ⟨Line.parts first ++ Line.parts second, ?_, ?_, ?_⟩
    · rw [List.flatten_append, (Line.packs_parts first).flatten, (Line.packs_parts second).flatten]
    · rw [hsecond, hfirst, List.append_assoc, List.flatMap_append, Line.flatMap_octets_ofPayload,
        Line.flatMap_octets_ofPayload]
    · rw [List.flatMap_append, List.map_append]
      exact (Line.readAs_parts first).append (Line.readAs_parts second)

/-- The last octet but one needs an escape, for which its line has one octet of room and not
three. -/
theorem sendData_packs_of_crowded_escape :
    let outlet : Outlet := { Outlet.fresh with cap := some 7, interruptions := [2] }
    let payload : Bytes := List.replicate 996 0x61 ++ [0x25, 0x62]
    outlet.room = none ∧ outlet.cap ≠ some 0 ∧
      ∃ parts : List Bytes,
        parts = [List.replicate 996 0x61, [0x25, 0x62]] ∧
        (outlet.sendData payload).1 = .ok () ∧
        (outlet.sendData payload).2.octets =
          parts.flatMap (fun part ↦ Line.dataLine (Escape.encode part)) ∧
        LineReader.ReadAs (parts.flatMap fun part ↦ Line.dataLine (Escape.encode part))
          (parts.map (Line.mk "D")) := by
  intro outlet payload
  have hcap : outlet.cap ≠ some 0 := by decide
  obtain ⟨parts, hparts, hoctets, hresult, hread⟩ := (sendData_packs outlet rfl hcap).2.1 payload
  have hcut : Line.parts payload = [List.replicate 996 0x61, [0x25, 0x62]] := by decide +kernel
  have hequal : parts = [List.replicate 996 0x61, [0x25, 0x62]] :=
    ((hparts _).1 (Line.packs_parts payload)).symm.trans hcut
  exact ⟨rfl, hcap, parts, hequal, hresult rfl, hoctets, hread⟩

end Outlet

end LineProtocol
