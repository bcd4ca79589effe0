import LineProtocol.Proofs.Fault.Reporting

/-!
# Delivery

An obliging outlet takes in the end whatever is written to it, however little it takes in one call
and however often it interrupts (`writeAll_obliging`). What is sent on such an outlet comes out as
lines, and sending fails only for a line that cannot be composed: `Outlet.Delivered` says which
octets an outlet has taken in the meantime, and the lemmas below give them for each kind of
sending.
-/

set_option autoImplicit false

namespace LineProtocol

/-- The lines that come of one that was composed, or was not. -/
def Line.sent : Except Failure Line → List Line
  | .ok line => [line]
  | .error _ => []

namespace Outlet

/-- An outlet with room for everything, each of whose calls takes something unless it is
interrupted, and whose flushes go well. -/
structure Obliging (outlet : Outlet) : Prop where
  room : outlet.room = none
  cap : outlet.cap ≠ some 0
  flushes : outlet.flushFailure = none

/-- From the one outlet to the other, lines were taken and nothing else. -/
structure Delivered (before : Outlet) (lines : List Line) (after : Outlet) : Prop where
  obliging : after.Obliging
  octets : after.octets = before.octets ++ lines.flatMap Line.octets

variable {before between after : Outlet}

theorem Obliging.delivered (h : before.Obliging) : before.Delivered [] before :=
  ⟨h, (List.append_nil _).symm⟩

theorem Delivered.trans {first second : List Line} (h : before.Delivered first between)
    (hlater : between.Delivered second after) : before.Delivered (first ++ second) after := by
  refine ⟨hlater.obliging, ?_⟩
  rw [hlater.octets, h.octets, List.flatMap_append, List.append_assoc]

/-! ### Calls -/

/-- A call is interrupted, or takes something from the front. -/
theorem write_obliging {octets : Bytes} (h : before.Obliging) (hsome : octets ≠ []) :
    (∃ after, before.write octets = (.interrupted, after) ∧ after.Obliging ∧
        after.octets = before.octets) ∨
      ∃ count after, before.write octets = (.took (count + 1), after) ∧ after.Obliging ∧
        after.octets = before.octets ++ octets.take (count + 1) := by
  obtain ⟨written, cap, room, refusal, interruptions, flushFailure⟩ := before
  obtain ⟨rfl, hcap, rfl⟩ := h
  have hlength : 0 < octets.length := List.length_pos_iff.2 hsome
  have htakes : ∀ calls : List Nat, ∃ count after,
      accept ⟨written, cap, none, refusal, calls, none⟩ octets = (.took (count + 1), after) ∧
        after.Obliging ∧ after.octets = written.flatten ++ octets.take (count + 1) := by
    intro calls
    have hshare : share ⟨written, cap, none, refusal, calls, none⟩ octets.length ≠ 0 := by
      cases cap with
      | none => simpa [share] using hlength.ne'
      | some most =>
        have hmost : most ≠ 0 := fun hzero ↦ hcap (congrArg some hzero)
        simp only [share, Option.elim_none, Option.getD_some]
        omega
    obtain ⟨count, hcount⟩ := Nat.exists_eq_succ_of_ne_zero hshare
    refine ⟨count, ⟨written ++ [octets.take (count + 1)], cap, none, refusal, calls, none⟩, ?_,
      ⟨rfl, hcap, rfl⟩, ?_⟩
    · simp only [accept, hcount, Nat.succ_ne_zero, if_false, Option.map_none]
    · rw [Outlet.octets, List.flatten_append, List.flatten_singleton]
  cases interruptions with
  | nil => exact .inr (htakes [])
  | cons calls later =>
    cases calls with
    | zero =>
      exact .inl ⟨⟨written, cap, none, refusal, later, none⟩, rfl, ⟨rfl, hcap, rfl⟩, rfl⟩
    | succ calls => exact .inr (htakes (calls :: later))

/-- All octets are taken in the end. -/
theorem writeAll_obliging (octets : Bytes) (h : before.Obliging) :
    ∃ after, before.writeAll octets = (.ok (), after) ∧ after.Obliging ∧
      after.octets = before.octets ++ octets := by
  fun_induction writeAll before octets with
  | case1 outlet => exact ⟨outlet, rfl, h, (List.append_nil _).symm⟩
  | case2 outlet octet rest after hwrite ih =>
    rcases write_obliging h (List.cons_ne_nil octet rest) with
      ⟨found, hfound, hobliging, hoctets⟩ | ⟨count, found, hfound, -⟩
    · obtain rfl := congrArg Prod.snd (hwrite.symm.trans hfound)
      obtain ⟨final, hfinal, hkept, hall⟩ := ih hobliging
      exact ⟨final, hfinal, hkept, by rw [hall, hoctets]⟩
    · cases hwrite.symm.trans hfound
  | case3 outlet octet rest cause after hwrite =>
    rcases write_obliging h (List.cons_ne_nil octet rest) with
      ⟨found, hfound, -⟩ | ⟨count, found, hfound, -⟩ <;> cases hwrite.symm.trans hfound
  | case4 outlet octet rest after hwrite =>
    rcases write_obliging h (List.cons_ne_nil octet rest) with
      ⟨found, hfound, -⟩ | ⟨count, found, hfound, -⟩ <;> cases hwrite.symm.trans hfound
  | case5 outlet octet rest count after hwrite ih =>
    rcases write_obliging h (List.cons_ne_nil octet rest) with
      ⟨found, hfound, -⟩ | ⟨taken, found, hfound, hobliging, hoctets⟩
    · cases hwrite.symm.trans hfound
    · obtain ⟨htaken, rfl⟩ := Prod.mk.inj (hwrite.symm.trans hfound)
      obtain rfl : count = taken := Nat.succ.inj (Taking.took.inj htaken)
      obtain ⟨final, hfinal, hkept, hall⟩ := ih hobliging
      refine ⟨final, hfinal, hkept, ?_⟩
      rw [hall, hoctets, List.append_assoc, List.take_succ_cons, List.cons_append,
        List.take_append_drop]

/-! ### Lines -/

theorem sendEach_obliging (lines : List Line) (h : before.Obliging) :
    ∃ after, before.sendEach (lines.map Line.octets) = (.ok (), after) ∧
      before.Delivered lines after := by
  induction lines generalizing before with
  | nil =>
    refine ⟨before, ?_, h.delivered⟩
    rw [List.map_nil, sendEach, flush, h.flushes]
  | cons line later ih =>
    obtain ⟨between, hwritten, hobliging, hoctets⟩ := writeAll_obliging line.octets h
    obtain ⟨after, hsent, hdelivered⟩ := ih hobliging
    refine ⟨after, ?_, hdelivered.obliging, ?_⟩
    · rw [List.map_cons, sendEach, hwritten]
      exact hsent
    · rw [hdelivered.octets, hoctets, List.flatMap_cons, List.append_assoc]

/-- A line is sent if it could be composed, and if not, sending fails for the same reason. -/
theorem sendEncoded_obliging (composed : Except Failure Line) (h : before.Obliging) :
    ∃ after, before.sendEncoded (composed.map Line.octets) =
        (composed.map fun _ ↦ (), after) ∧
      before.Delivered (Line.sent composed) after := by
  cases composed with
  | ok line => exact sendEach_obliging [line] h
  | error cause => exact ⟨before, rfl, h.delivered⟩

theorem sendLine_obliging (verb : String) (parameters : Bytes) (h : before.Obliging) :
    ∃ after, before.sendLine verb parameters =
        ((Line.compose verb parameters).map fun _ ↦ (), after) ∧
      before.Delivered (Line.sent (Line.compose verb parameters)) after := by
  rw [sendLine, Line.encode_eq_map_compose]
  exact sendEncoded_obliging _ h

theorem sendFault_obliging (fault : Fault) (h : before.Obliging) :
    ∃ after, before.sendFault fault = (fault.composed.map fun _ ↦ (), after) ∧
      before.Delivered (Line.sent fault.composed) after := by
  rw [sendFault, Fault.line_eq]
  exact sendEncoded_obliging _ h

theorem sendData_obliging (payload : Bytes) (h : before.Obliging) :
    ∃ after, before.sendData payload = (.ok (), after) ∧
      before.Delivered (Line.ofPayload payload) after := by
  unfold sendData
  split
  case isTrue hempty =>
    refine ⟨before, rfl, ?_⟩
    rw [Line.ofPayload, if_pos hempty]
    exact h.delivered
  case isFalse =>
    rw [Line.dataLines_eq]
    exact sendEach_obliging _ h

end Outlet

end LineProtocol
