import LineProtocol.Proofs.Line.Delivery

/-!
# Outlets that fail

An outlet takes a number of octets, which may be unlimited, and then refuses every call
(`Outlet.limit`), always in the same way (`Outlet.breach`). So what is written on it is taken
whole, or up to that limit and the write fails (`writeAll_cases`). A sending can also fail after
everything was taken, in the flush at its end. `Outlet.Sends` has these three ways, and
`sendEach_sends` says that there are no others.
-/

set_option autoImplicit false

namespace LineProtocol

namespace Outlet

/-- How many octets the outlet will still take, if there is a limit. -/
def limit (outlet : Outlet) : Option Nat :=
  if outlet.cap = some 0 then some 0 else outlet.room

/-- How a write fails once the limit is reached. -/
def breach (outlet : Outlet) : IoError :=
  if outlet.cap = some 0 ∧ outlet.room ≠ some 0 then writeZero
  else outlet.refusal.getD writeZero

/-- From the one outlet to the other octets were taken, and no write has failed. -/
structure Took (before : Outlet) (taken : Bytes) (after : Outlet) : Prop where
  octets : after.octets = before.octets ++ taken
  limit : after.limit = before.limit.map (· - taken.length)
  within : ∀ most, before.limit = some most → taken.length ≤ most
  breach : after.breach = before.breach

variable {before between after : Outlet}

theorem Took.nothing (before : Outlet) : before.Took [] before where
  octets := (List.append_nil _).symm
  limit := by cases before.limit <;> rfl
  within := fun _ _ ↦ Nat.zero_le _
  breach := rfl

theorem Took.trans {first second : Bytes} (h : before.Took first between)
    (hlater : between.Took second after) : before.Took (first ++ second) after where
  octets := by rw [hlater.octets, h.octets, List.append_assoc]
  limit := by
    rw [hlater.limit, h.limit, Option.map_map, List.length_append]
    cases before.limit with
    | none => rfl
    | some most => exact congrArg some (Nat.sub_sub most _ _)
  within := by
    intro most hmost
    have hfirst := h.within most hmost
    have hsecond := hlater.within (most - first.length) (by rw [h.limit, hmost]; rfl)
    rw [List.length_append]
    omega
  breach := hlater.breach.trans h.breach

/-- What an outlet counts down takes nothing. -/
theorem Took.counting (before : Outlet) (calls : List Nat)
    (flushes : Option (Nat × IoError)) :
    before.Took [] { before with interruptions := calls, flushFailure := flushes } :=
  ⟨(nothing before).octets, (nothing before).limit, (nothing before).within, rfl⟩

/-! ### Calls -/

/-- What a write call can come to: it is interrupted, or takes something from the front, or the
limit is reached. -/
inductive Accepts (before : Outlet) (octets : Bytes) : Taking → Outlet → Prop
  | interrupted {after : Outlet} (htook : before.Took [] after) :
    Accepts before octets .interrupted after
  | took {count : Nat} {after : Outlet} (htook : before.Took (octets.take (count + 1)) after) :
    Accepts before octets (.took (count + 1)) after
  | stuck {after : Outlet} (htook : before.Took [] after) (hlimit : after.limit = some 0)
      (hbreach : before.breach = writeZero) : Accepts before octets (.took 0) after
  | refused {after : Outlet} (htook : before.Took [] after) (hlimit : after.limit = some 0) :
    Accepts before octets (.refused before.breach) after

theorem share_le_length (outlet : Outlet) (length : Nat) : outlet.share length ≤ length := by
  obtain ⟨written, cap, room, refusal, interruptions, flushFailure⟩ := outlet
  cases room <;> simp only [share, Option.elim_none, Option.elim_some] <;> omega

theorem share_le_limit {outlet : Outlet} {most : Nat} (length : Nat)
    (h : outlet.limit = some most) : outlet.share length ≤ most := by
  obtain ⟨written, cap, room, refusal, interruptions, flushFailure⟩ := outlet
  simp only [limit] at h
  split at h
  case isTrue hcap => simp [share, hcap]
  case isFalse =>
    subst h
    simp only [share, Option.elim_some]
    omega

theorem limit_of_share_eq_zero {outlet : Outlet} {length : Nat} (hlength : 0 < length)
    (h : outlet.share length = 0) : outlet.limit = some 0 := by
  obtain ⟨written, cap, room, refusal, interruptions, flushFailure⟩ := outlet
  simp only [limit]
  split
  case isTrue => rfl
  case isFalse hcap =>
    have hcap' : cap.getD length ≠ 0 := by
      cases cap with
      | none => simpa using hlength.ne'
      | some most => exact fun hmost ↦ hcap (congrArg some hmost)
    cases room with
    | none =>
      simp only [share, Option.elim_none] at h
      omega
    | some room =>
      simp only [share, Option.elim_some] at h
      exact congrArg some (by omega)

/-- An outlet at its limit that refuses nothing takes nothing. -/
theorem breach_of_unrefused {outlet : Outlet} (hlimit : outlet.limit = some 0)
    (hother : ∀ cause, outlet.room = some 0 → outlet.refusal = some cause → False) :
    outlet.breach = writeZero := by
  unfold breach
  split
  case isTrue => rfl
  case isFalse hcap =>
    have hroom : outlet.room = some 0 := by
      by_contra hroom
      have hcap' : outlet.cap ≠ some 0 := fun h ↦ hcap ⟨h, hroom⟩
      rw [limit, if_neg hcap'] at hlimit
      exact hroom hlimit
    cases hrefusal : outlet.refusal with
    | none => rfl
    | some cause => exact (hother cause hroom hrefusal).elim

theorem accept_accepts (before : Outlet) {octets : Bytes} (hsome : octets ≠ []) :
    before.Accepts octets (before.accept octets).1 (before.accept octets).2 := by
  have hlength : 0 < octets.length := List.length_pos_iff.2 hsome
  unfold accept
  split
  case h_1 cause hroom hrefusal =>
    have hlimit : before.limit = some 0 := by simp [limit, hroom]
    have hbreach : before.breach = cause := by simp [breach, hroom, hrefusal]
    rw [← hbreach]
    exact .refused (.nothing before) hlimit
  case h_2 hother =>
    cases hcount : before.share octets.length with
    | zero =>
      have hlimit := limit_of_share_eq_zero hlength hcount
      have hbreach := breach_of_unrefused hlimit hother
      have hsame : before.room.map (· - 0) = before.room := by cases before.room <;> rfl
      simp only [if_true, hsame]
      exact .stuck (.nothing before) hlimit hbreach
    | succ count =>
      have hcap : before.cap ≠ some 0 := by
        intro h
        have := share_le_limit octets.length (show before.limit = some 0 from if_pos h)
        omega
      have htaken : (octets.take (count + 1)).length = count + 1 := by
        have := before.share_le_length octets.length
        rw [List.length_take]
        omega
      refine .took ⟨?_, ?_, ?_, ?_⟩
      · simp [Outlet.octets]
      · simp only [limit, if_neg hcap, htaken]
      · intro most hmost
        have := share_le_limit octets.length hmost
        omega
      · simp [breach, hcap]

theorem write_accepts (before : Outlet) {octets : Bytes} (hsome : octets ≠ []) :
    before.Accepts octets (before.write octets).1 (before.write octets).2 := by
  have hsame : ∀ calls : List Nat, before.Took [] { before with interruptions := calls } :=
    fun calls ↦ .counting before calls before.flushFailure
  unfold write
  split
  case h_1 calls later heq => exact .interrupted (hsame later)
  case h_2 =>
    -- the calls that go before an interruption are counted down, and nothing else changes
    have hcalled := accept_accepts
      { before with interruptions := countDown before.interruptions } hsome
    generalize accept { before with interruptions := countDown before.interruptions } octets =
      result at hcalled
    obtain ⟨taking, after⟩ := result
    cases hcalled with
    | interrupted htook => exact .interrupted ((hsame _).trans htook)
    | took htook => exact .took ((hsame _).trans htook)
    | stuck htook hlimit hbreach => exact .stuck ((hsame _).trans htook) hlimit hbreach
    | refused htook hlimit => exact .refused ((hsame _).trans htook) hlimit

theorem flushFailure_write (outlet : Outlet) (octets : Bytes) :
    (outlet.write octets).2.flushFailure = outlet.flushFailure := by
  unfold write
  split
  · rfl
  · unfold accept
    split <;> rfl

/-! ### Whole sequences -/

/-- Octets are taken whole, or up to the limit and the write fails. -/
theorem writeAll_cases (before : Outlet) (octets : Bytes) :
    (∃ after, before.writeAll octets = (.ok (), after) ∧ before.Took octets after ∧
        after.flushFailure = before.flushFailure) ∨
      ∃ taken after, before.writeAll octets = (.error before.breach, after) ∧
        before.Took taken after ∧ after.flushFailure = before.flushFailure ∧
        taken <+: octets ∧ taken ≠ octets ∧ after.limit = some 0 := by
  fun_induction writeAll before octets with
  | case1 outlet => exact .inl ⟨outlet, rfl, .nothing outlet, rfl⟩
  | case2 outlet octet rest after hwrite ih =>
    have hflush := flushFailure_write outlet (octet :: rest)
    have hcalled := write_accepts outlet (List.cons_ne_nil octet rest)
    rw [hwrite] at hflush hcalled
    cases hcalled with
    | interrupted htook =>
      rcases ih with ⟨final, hfinal, hall, hkept⟩ |
        ⟨taken, final, hfinal, hall, hkept, hpart⟩
      · exact .inl ⟨final, hfinal, htook.trans hall, hkept.trans hflush⟩
      · rw [htook.breach] at hfinal
        exact .inr ⟨taken, final, hfinal, htook.trans hall, hkept.trans hflush, hpart⟩
  | case3 outlet octet rest cause after hwrite =>
    have hflush := flushFailure_write outlet (octet :: rest)
    have hcalled := write_accepts outlet (List.cons_ne_nil octet rest)
    rw [hwrite] at hflush hcalled
    cases hcalled with
    | refused htook hlimit =>
      exact .inr ⟨[], after, rfl, htook, hflush, List.nil_prefix, by simp, hlimit⟩
  | case4 outlet octet rest after hwrite =>
    have hflush := flushFailure_write outlet (octet :: rest)
    have hcalled := write_accepts outlet (List.cons_ne_nil octet rest)
    rw [hwrite] at hflush hcalled
    cases hcalled with
    | stuck htook hlimit hbreach =>
      rw [← hbreach]
      exact .inr ⟨[], after, rfl, htook, hflush, List.nil_prefix, by simp, hlimit⟩
  | case5 outlet octet rest count after hwrite ih =>
    have hflush := flushFailure_write outlet (octet :: rest)
    have hcalled := write_accepts outlet (List.cons_ne_nil octet rest)
    rw [hwrite] at hflush hcalled
    have hsplit : (octet :: rest).take (count + 1) ++ rest.drop count = octet :: rest :=
      List.take_append_drop (count + 1) (octet :: rest)
    cases hcalled with
    | took htook =>
      rcases ih with ⟨final, hfinal, hall, hkept⟩ |
        ⟨taken, final, hfinal, hall, hkept, hpart, hshort, hlimit⟩
      · refine .inl ⟨final, hfinal, ?_, hkept.trans hflush⟩
        rw [← hsplit]
        exact htook.trans hall
      · rw [htook.breach] at hfinal
        refine .inr ⟨(octet :: rest).take (count + 1) ++ taken, final, hfinal, htook.trans hall,
          hkept.trans hflush, ?_, ?_, hlimit⟩
        · conv_rhs => rw [← hsplit]
          exact (List.prefix_append_right_inj _).2 hpart
        · conv_rhs => rw [← hsplit]
          exact fun heq ↦ hshort (List.append_cancel_left heq)

/-- How a sending ends that writes octets, and what it leaves behind: all was taken and flushed, or
a write failed before that, or the flush behind it did. -/
inductive Sends (before : Outlet) (whole : Bytes) : Except Failure Unit → Outlet → Prop
  | whole {after : Outlet} (htook : before.Took whole after)
      (hflush : after.flushCause? = before.flushCause?) :
    Sends before whole (.ok ()) after
  | refused {taken : Bytes} {after : Outlet} (htook : before.Took taken after)
      (hflush : after.flushCause? = before.flushCause?) (hpart : taken <+: whole)
      (hshort : taken ≠ whole) (hlimit : after.limit = some 0) :
    Sends before whole (.error (.io before.breach)) after
  | unflushed {cause : IoError} {after : Outlet} (htook : before.Took whole after)
      (hpending : before.flushCause? = some cause) (hspent : after.flushCause? = none) :
    Sends before whole (.error (.io cause)) after

theorem flush_sends (before : Outlet) :
    before.Sends [] (before.sendEach []).1 (before.sendEach []).2 := by
  have hsame : ∀ flushes, before.Took [] { before with flushFailure := flushes } :=
    .counting before before.interruptions
  rw [sendEach, flush]
  cases hflush : before.flushFailure with
  | none => exact .whole (.nothing before) rfl
  | some pending =>
    obtain ⟨calls, cause⟩ := pending
    have hcause : before.flushCause? = some cause := by
      rw [flushCause?, hflush]
      rfl
    cases calls with
    | zero => exact .unflushed (hsame none) hcause rfl
    | succ calls => exact .whole (hsame (some (calls, cause))) hcause.symm

theorem Sends.after_writing {first whole : Bytes} {result : Except Failure Unit}
    (htook : before.Took first between) (hflush : between.flushFailure = before.flushFailure)
    (h : between.Sends whole result after) : before.Sends (first ++ whole) result after := by
  have hcause : between.flushCause? = before.flushCause? := congrArg (Option.map _) hflush
  cases h with
  | whole hlater hkept => exact .whole (htook.trans hlater) (hkept.trans hcause)
  | refused hlater hkept hpart hshort hlimit =>
    rw [htook.breach]
    refine .refused (htook.trans hlater) (hkept.trans hcause) ?_ ?_ hlimit
    · exact (List.prefix_append_right_inj _).2 hpart
    · exact fun heq ↦ hshort (List.append_cancel_left heq)
  | unflushed hlater hpending hspent =>
    exact .unflushed (htook.trans hlater) (hcause.symm.trans hpending) hspent

theorem sendEach_sends (before : Outlet) (pieces : List Bytes) :
    before.Sends pieces.flatten (before.sendEach pieces).1 (before.sendEach pieces).2 := by
  induction pieces generalizing before with
  | nil => exact flush_sends before
  | cons octets rest ih =>
    rw [sendEach, List.flatten_cons]
    rcases before.writeAll_cases octets with ⟨between, hwritten, htook, hflush⟩ |
      ⟨taken, after, hwritten, htook, hflush, hpart, hshort, hlimit⟩
    · rw [hwritten]
      exact (ih between).after_writing htook hflush
    · rw [hwritten]
      refine .refused htook (congrArg (Option.map _) hflush)
        (hpart.trans (List.prefix_append _ _)) ?_ hlimit
      intro heq
      exact hshort (hpart.eq_of_length_le (by rw [heq, List.length_append]; omega))

/-- On an outlet without a limit only a flush can fail. -/
theorem Sends.of_unlimited {whole : Bytes} {result : Except Failure Unit}
    (h : before.Sends whole result after) (hlimit : before.limit = none) :
    after.octets = before.octets ++ whole ∧ after.limit = none ∧
      (after.flushCause? = before.flushCause? ∨ after.flushCause? = none) ∧
      (result = .ok () ∨ ∃ cause ∈ before.flushCause?, result = .error (.io cause)) := by
  have hkept : ∀ {taken : Bytes}, before.Took taken after → after.limit = none := by
    intro taken htook
    rw [htook.limit, hlimit]
    rfl
  cases h with
  | whole htook hflush =>
    exact ⟨htook.octets, hkept htook, .inl hflush, .inl rfl⟩
  | refused htook hflush hpart hshort hzero =>
    exact nomatch (hkept htook).symm.trans hzero
  | unflushed htook hpending hspent =>
    exact ⟨htook.octets, hkept htook, .inr hspent, .inr ⟨_, hpending, rfl⟩⟩

/-- If no flush fails either, the sending goes well. -/
theorem Sends.eq_ok {whole : Bytes} {result : Except Failure Unit}
    (h : before.Sends whole result after) (hlimit : before.limit = none)
    (hflushes : before.flushFailure = none) : result = .ok () := by
  obtain ⟨-, -, -, hresult⟩ := h.of_unlimited hlimit
  refine hresult.resolve_right fun ⟨cause, hcause, _⟩ ↦ ?_
  rw [flushCause?_eq_none_iff.2 hflushes] at hcause
  exact Option.not_mem_none cause hcause

/-! ### What is written stays written -/

theorem octets_sendEach (outlet : Outlet) (pieces : List Bytes) :
    outlet.octets <+: (outlet.sendEach pieces).2.octets := by
  have htook : ∀ {taken : Bytes} {after : Outlet}, outlet.Took taken after →
      outlet.octets <+: after.octets := fun h ↦ h.octets ▸ List.prefix_append _ _
  have hsends := outlet.sendEach_sends pieces
  generalize (outlet.sendEach pieces).1 = result at hsends
  cases hsends with
  | whole h => exact htook h
  | refused h => exact htook h
  | unflushed h => exact htook h

theorem octets_sendEncoded (outlet : Outlet) (line : Except Failure Bytes) :
    outlet.octets <+: (outlet.sendEncoded line).2.octets := by
  cases line with
  | ok line => exact octets_sendEach outlet [line]
  | error cause => exact List.prefix_rfl

theorem octets_sendData (outlet : Outlet) (payload : Bytes) :
    outlet.octets <+: (outlet.sendData payload).2.octets := by
  rw [sendData]
  split
  · exact List.prefix_rfl
  · exact octets_sendEach outlet _

theorem octets_sendComments (outlet : Outlet) (lines : List String) :
    outlet.octets <+: (outlet.sendComments lines).2.octets := by
  induction lines generalizing outlet with
  | nil => exact List.prefix_rfl
  | cons text rest ih =>
    have hsent : outlet.octets <+: (outlet.sendComment text).2.octets := octets_sendEncoded _ _
    rw [sendComments]
    split <;> next heq =>
      rw [heq] at hsent
      first | exact hsent.trans (ih _) | exact hsent

end Outlet

end LineProtocol
