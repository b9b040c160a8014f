import LiveOs.Roles.Qualifications
import LiveOs.Roles.Verify.Permissions

/-!
# What a recorded qualification leaves in force

Recording compares the rows of its member and domain with the start that is asked for. What is over
by then is marked as expired, even if it is in force now, and what begins later is not looked at.
Revoking overwrites who revoked the row and when.
-/

namespace LiveOs.Roles

open Lib EventLedger

variable {s s' : QualificationState} {now : Nat} {args : RecordQualificationArgs}
  {q : QualificationRow}

/-! ## Successful calls -/

/-- A row is an active qualification of the member in the domain. -/
structure QualificationRow.ActiveFor (q : QualificationRow) (memberPk domainPk : Nat) : Prop where
  member : q.member = memberPk
  domain : q.domain = domainPk
  active : q.status = .active

theorem QualificationRow.ActiveFor.elapsed_iff {memberPk domainPk t : Nat}
    (h : q.ActiveFor memberPk domainPk) :
    q.elapsed (some memberPk) (some domainPk) t = true ↔ q.window.Over t := by
  simp [QualificationRow.elapsed, MemberProfessionalQualification.window, Window.Over,
    Option.any_eq_true, h.active, h.member, h.domain]

theorem QualificationRow.over_of_elapsed {member domain : Option Nat} {t : Nat}
    (h : q.elapsed member domain t = true) : q.status = .active ∧ q.window.Over t ∧
      (∀ m ∈ member, q.member = m) ∧ ∀ d ∈ domain, q.domain = d := by
  simpa [QualificationRow.elapsed, MemberProfessionalQualification.window, Window.Over,
    Option.any_eq_true, Option.all_eq_true, and_assoc] using h

theorem expireElapsed_rows {member domain : Option Nat} {t : Nat} :
    (expireElapsedProfessionalQualifications s member domain t).qualifications.rows =
      s.qualifications.rows.map fun q =>
        if q.elapsed member domain t = true then { q with status := .expired } else q := rfl

theorem mem_expireElapsed {member domain : Option Nat} {t : Nat} (hactive : q.status = .active) :
    q ∈ (expireElapsedProfessionalQualifications s member domain t).qualifications.rows ↔
      q ∈ s.qualifications.rows ∧ q.elapsed member domain t = false := by
  rw [expireElapsed_rows, Table.mem_map_update, or_iff_left]
  rintro ⟨r, -, -, rfl⟩
  cases hactive

/-- What a successful recording has checked and written. -/
structure Recorded (now : Nat) (s s' : QualificationState) (args : RecordQualificationArgs)
    (q : QualificationRow) : Prop where
  row : q = args.row now q.pk
  rows : s'.qualifications.rows = (expireElapsedProfessionalQualifications s (some args.member)
    (some args.domain) (args.validFrom.getD now)).qualifications.rows ++ [q]
  fresh : ∀ r ∈ s.qualifications.rows, r.pk ≠ q.pk
  proper : q.window.Proper
  /-- An active row that is not over by the start begins later. -/
  free : ∀ r ∈ s.qualifications.rows, r.ActiveFor args.member args.domain →
    ¬ r.window.Over (args.validFrom.getD now) → args.validFrom.getD now < r.validFrom

theorem recordExternalProfessionalQualification_ok
    (h : recordExternalProfessionalQualification now s args = .ok (s', q)) :
    Recorded now s s' args q := by
  unfold recordExternalProfessionalQualification at h
  split at h
  · rename_i member domain confirmedBy hmember hdomain hconfirmer
    obtain ⟨hm, hmpk⟩ := Table.get?_eq_some.1 hmember
    obtain ⟨hd, hdpk⟩ := Table.get?_eq_some.1 hdomain
    simp only [hmpk, hdpk] at h
    obtain ⟨hstatus, h⟩ := rejectIf_bind_eq_ok.1 h
    obtain ⟨⟨⟩, hsubject, h⟩ := bind_eq_ok.1 h
    obtain ⟨⟨⟩, -, h⟩ := bind_eq_ok.1 h
    obtain ⟨-, h⟩ := rejectIf_bind_eq_ok.1 h
    obtain ⟨hwindow, h⟩ := rejectIf_bind_eq_ok.1 h
    obtain ⟨hcurrent, h⟩ := rejectIf_bind_eq_ok.1 h
    obtain ⟨⟨⟩, -, h⟩ := bind_eq_ok.1 h
    obtain ⟨qualifications, hinsert, h⟩ := bind_eq_ok.1 h
    obtain ⟨rfl, rfl⟩ := Prod.mk.inj (pure_eq_ok.1 h)
    obtain ⟨hrows, hfresh, -⟩ := Table.insert_ok hinsert
    have hcov : Covenanter s.db member (args.validFrom.getD now) := by
      obtain ⟨-, hrole⟩ := rejectIf_bind_eq_ok.1 hsubject
      have hhas := rejectIf_eq_ok.1 hrole
      simpa [memberHasRole_covenanter_at hm] using hhas
    refine ⟨rfl, hrows, fun r hr heq => ?_, ?_, fun r hr hfor hover => ?_⟩
    · -- an expired row keeps its primary key
      have hr' := List.mem_map_of_mem (f := fun q : QualificationRow =>
        if q.elapsed (some args.member) (some args.domain) (args.validFrom.getD now) = true
          then { q with status := .expired } else q) hr
      refine hfresh _ hr' ?_
      split <;> exact heq
    · intro e he
      have hnot := hwindow
      rw [Option.any_eq_true] at hnot
      by_contra hlt
      exact hnot ⟨e, he, decide_eq_true (not_lt.1 hlt)⟩
    · by_contra hstart
      have hm' : member ∈ (expireElapsedProfessionalQualifications s (some args.member)
          (some args.domain) (args.validFrom.getD now)).db.members.rows := hm
      obtain ⟨hallows, a, ha⟩ := hcov
      refine hcurrent ((hasCurrentProfessionalQualification_iff hm' hd).2 ⟨⟨hallows, a, ha.mem,
        ha.member, ha.active, ha.covers, ha.role⟩, not_not.1 hstatus,
        r.toMemberProfessionalQualification, ?_, ?_⟩)
      · have helapsed : r.elapsed (some args.member) (some args.domain)
            (args.validFrom.getD now) = false :=
          Bool.eq_false_iff.2 fun h => hover (hfor.elapsed_iff.1 h)
        exact ⟨List.mem_map_of_mem ((mem_expireElapsed hfor.active).2 ⟨hr, helapsed⟩),
          hfor.member.trans hmpk.symm, hfor.domain.trans hdpk.symm, hfor.active, not_lt.1 hstart⟩
      · refine (Option.all_eq_true _ _).2 fun e he => ?_
        exact decide_eq_true (Window.not_over_iff.1 hover e he)
  · cases h
  · cases h
  · cases h

theorem revokeProfessionalQualification_ok {pk revokedBy : Nat} {atTime : Option Nat}
    (h : revokeProfessionalQualification now s pk revokedBy atTime = .ok (s', q)) :
    s'.qualifications.rows = s.qualifications.rows.map fun r => if r.pk = pk
      then { r with
        status := .revoked, revokedBy := some revokedBy, revokedAt := some (atTime.getD now) }
      else r := by
  unfold revokeProfessionalQualification at h
  split at h
  · obtain ⟨⟨⟩, -, h⟩ := bind_eq_ok.1 h
    obtain ⟨⟨⟩, -, h⟩ := bind_eq_ok.1 h
    obtain ⟨rfl, -⟩ := Prod.mk.inj (pure_eq_ok.1 h)
    rfl
  · cases h
  · cases h

/-! ## Rows that change -/

/-- What a change does to a row: it expires if it was active and over, or it is revoked, or it
stays. -/
inductive RowMoves (now : Nat) (c : QualificationChange) (q : QualificationRow) :
    QualificationRow → Prop
  | stays : RowMoves now c q q
  | expires (active : q.status = .active) : RowMoves now c q { q with status := .expired }
  | revoked (revokedBy : Nat) (atTime : Option Nat) (call : c = .revoke q.pk revokedBy atTime) :
      RowMoves now c q { q with
        status := .revoked, revokedBy := some revokedBy, revokedAt := some (atTime.getD now) }

theorem mem_expireElapsed_moves {member domain : Option Nat} {t : Nat} {c : QualificationChange}
    (hq : q ∈ s.qualifications.rows) :
    ∃ q' ∈ (expireElapsedProfessionalQualifications s member domain t).qualifications.rows,
      RowMoves now c q q' := by
  by_cases helapsed : q.elapsed member domain t = true
  · refine ⟨{ q with status := .expired }, List.mem_map.2 ⟨q, hq, if_pos helapsed⟩, .expires ?_⟩
    exact (QualificationRow.over_of_elapsed helapsed).1
  · exact ⟨q, List.mem_map.2 ⟨q, hq, if_neg helapsed⟩, .stays⟩

/-- No change removes a row. -/
theorem qualificationStep_moves {c : Nat × QualificationChange}
    (h : qualificationStep s c = .ok s') (hq : q ∈ s.qualifications.rows) :
    ∃ q' ∈ s'.qualifications.rows, RowMoves c.1 c.2 q q' := by
  obtain ⟨now, c⟩ := c
  cases c with
  | record args =>
    obtain ⟨⟨s₁, r⟩, hrecord, h⟩ := bind_eq_ok.1 h
    obtain rfl := pure_eq_ok.1 h
    obtain ⟨q', hq', hmoves⟩ := mem_expireElapsed_moves hq
    refine ⟨q', ?_, hmoves⟩
    rw [(recordExternalProfessionalQualification_ok hrecord).rows]
    exact List.mem_append_left _ hq'
  | expire member domain =>
    obtain rfl := Except.ok.inj h
    exact mem_expireElapsed_moves hq
  | revoke pk revokedBy atTime =>
    obtain ⟨⟨s₁, r⟩, hrevoke, h⟩ := bind_eq_ok.1 h
    obtain rfl := pure_eq_ok.1 h
    rw [revokeProfessionalQualification_ok hrevoke]
    by_cases hpk : q.pk = pk
    · refine ⟨_, List.mem_map.2 ⟨q, hq, if_pos hpk⟩, .revoked revokedBy atTime ?_⟩
      rw [hpk]
    · exact ⟨q, List.mem_map.2 ⟨q, hq, if_neg hpk⟩, .stays⟩
  | surroundings directory =>
    obtain rfl := Except.ok.inj h
    exact ⟨q, hq, .stays⟩

/-! ## One qualification at a time -/

/-- No member has two qualifications in one domain in force at one instant. -/
def OneInForce (s : QualificationState) : Prop :=
  ∀ q ∈ s.qualifications.rows, ∀ r ∈ s.qualifications.rows, q.ActiveFor r.member r.domain →
    r.status = .active → ∀ t, q.window.Contains t → r.window.Contains t → q = r

theorem OneInForce.expire (h : OneInForce s) {member domain : Option Nat} {t : Nat} :
    OneInForce (expireElapsedProfessionalQualifications s member domain t) := by
  intro q hq r hr hactive hr'
  obtain ⟨hq, -⟩ := (mem_expireElapsed hactive.active).1 hq
  obtain ⟨hr, -⟩ := (mem_expireElapsed hr').1 hr
  exact h q hq r hr hactive hr'

/-- No active qualification of the member in the domain is in force now but over by the start asked
for, and none begins within the window asked for. -/
def ClearOfOthers (now : Nat) (s : QualificationState) (args : RecordQualificationArgs) : Prop :=
  ∀ r ∈ s.qualifications.rows, r.ActiveFor args.member args.domain →
    (r.window.Over (args.validFrom.getD now) → ¬ r.window.Contains now) ∧
      (args.validFrom.getD now < r.validFrom → ∃ e ∈ args.validUntil, e ≤ r.validFrom)

/-- What a recording leaves: one qualification at a time, and what was in force. -/
structure NothingLost (now : Nat) (s s' : QualificationState) : Prop where
  single : OneInForce s'
  kept : ∀ r ∈ s.qualifications.rows, r.status = .active → r.window.Contains now →
    r ∈ s'.qualifications.rows

/-- The window of the recorded row, and whom it is for. -/
theorem Recorded.new (h : Recorded now s s' args q) :
    q.ActiveFor args.member args.domain ∧ q.window = ⟨args.validFrom.getD now, args.validUntil⟩ := by
  rw [h.row]
  exact ⟨⟨rfl, rfl, rfl⟩, rfl⟩

/-- Clear of the others, the new row shares no instant with a row that is still active. -/
theorem Recorded.apart (h : Recorded now s s' args q) (hclear : ClearOfOthers now s args)
    {r : QualificationRow} (hr : r ∈ (expireElapsedProfessionalQualifications s (some args.member)
      (some args.domain) (args.validFrom.getD now)).qualifications.rows)
    (hfor : r.ActiveFor args.member args.domain) : q.window.Apart r.window := by
  obtain ⟨hr, helapsed⟩ := (mem_expireElapsed hfor.active).1 hr
  have hover : ¬ r.window.Over (args.validFrom.getD now) := by
    rw [← hfor.elapsed_iff, helapsed]
    exact Bool.false_ne_true
  have hlater := h.free r hr hfor hover
  rw [h.new.2]
  exact Window.Over.apart ((hclear r hr hfor).2 hlater)

theorem Recorded.nothingLost (h : Recorded now s s' args q) (hone : OneInForce s)
    (hclear : ClearOfOthers now s args) : NothingLost now s s' := by
  obtain ⟨hnew, -⟩ := h.new
  constructor
  · intro x hx y hy hactive hy' t hxt hyt
    rw [h.rows, List.mem_append, List.mem_singleton] at hx hy
    rcases hx with hx | rfl
    · rcases hy with hy | rfl
      · exact hone.expire x hx y hy hactive hy' t hxt hyt
      · rw [hnew.member, hnew.domain] at hactive
        exact absurd hxt (h.apart hclear hx hactive t hyt)
    · rcases hy with hy | rfl
      · have hyfor : y.ActiveFor args.member args.domain :=
          ⟨hactive.member.symm.trans hnew.member, hactive.domain.symm.trans hnew.domain, hy'⟩
        exact absurd hyt (h.apart hclear hy hyfor t hxt)
      · rfl
  · intro r hr hactive hnow
    have helapsed : r.elapsed (some args.member) (some args.domain) (args.validFrom.getD now) =
        false := by
      rw [Bool.eq_false_iff]
      intro helapsed
      obtain ⟨-, hover, hmember, hdomain⟩ := QualificationRow.over_of_elapsed helapsed
      exact (hclear r hr ⟨hmember _ rfl, hdomain _ rfl, hactive⟩).1 hover hnow
    rw [h.rows]
    exact List.mem_append_left _ ((mem_expireElapsed hactive).2 ⟨hr, helapsed⟩)

/-- A recording takes nothing away exactly if it is clear of the other qualifications. -/
theorem record_nothingLost_iff (hproper : ∀ r ∈ s.qualifications.rows, r.window.Proper)
    (hone : OneInForce s) (h : recordExternalProfessionalQualification now s args = .ok (s', q)) :
    NothingLost now s s' ↔ ClearOfOthers now s args := by
  have hrec := recordExternalProfessionalQualification_ok h
  obtain ⟨hnew, hwindow⟩ := hrec.new
  have hmem : q ∈ s'.qualifications.rows := by
    rw [hrec.rows]
    exact List.mem_append_right _ (List.mem_singleton_self q)
  constructor
  · intro hnothing r hr hfor
    have hne : r ≠ q := fun heq => hrec.fresh r hr (congrArg (fun q => q.pk) heq)
    refine ⟨fun hover hnow => ?_, fun hlt => ?_⟩
    · -- a row that is over by the start was expired
      have hr' := hnothing.kept r hr hfor.active hnow
      rw [hrec.rows, List.mem_append, List.mem_singleton] at hr'
      rcases hr' with hr' | rfl
      · have helapsed := ((mem_expireElapsed hfor.active).1 hr').2
        rw [hfor.elapsed_iff.2 hover] at helapsed
        cases helapsed
      · exact hne rfl
    · have hover : ¬ r.window.Over (args.validFrom.getD now) := by
        rintro ⟨e, he, hle⟩
        have hend : r.validFrom < e := hproper r hr e he
        omega
      have helapsed : r.elapsed (some args.member) (some args.domain) (args.validFrom.getD now) =
          false := Bool.eq_false_iff.2 fun h => hover (hfor.elapsed_iff.1 h)
      have hr' : r ∈ s'.qualifications.rows := by
        rw [hrec.rows]
        exact List.mem_append_left _ ((mem_expireElapsed hfor.active).2 ⟨hr, helapsed⟩)
      have hapart : q.window.Apart r.window := fun t hq hr'' =>
        hne (hnothing.single r hr' q hmem
          ⟨hfor.member.trans hnew.member.symm, hfor.domain.trans hnew.domain.symm, hfor.active⟩
          hnew.active t hr'' hq)
      rw [hwindow] at hapart
      exact (Window.apart_iff_over (le_of_lt hlt) (hproper r hr)).1 hapart
  · exact hrec.nothingLost hone

/-! ## Histories -/

/-- A recording is clear of the others, and a revoked row is not revoked again. -/
def QualificationStepClear (s : QualificationState) (c : Nat × QualificationChange) : Prop :=
  match c.2 with
  | .record args => ClearOfOthers c.1 s args
  | .revoke pk _ _ => ∀ q ∈ s.qualifications.rows, q.pk = pk → q.status ≠ .revoked
  | _ => True

/-- What holds over a history of qualifications. -/
structure QualificationHistory (s : QualificationState)
    (cs : List (Nat × QualificationChange)) : Prop where
  /-- At any instant at most one active row is in its window. -/
  single : ∀ before after, cs = before ++ after → OneInForce (runCalls qualificationStep s before)
  /-- A recording leaves what is in force as it is. -/
  kept : ∀ before now args after s' q, cs = before ++ (now, .record args) :: after →
    recordExternalProfessionalQualification now (runCalls qualificationStep s before) args =
      .ok (s', q) →
    ∀ r ∈ (runCalls qualificationStep s before).qualifications.rows, r.status = .active →
      r.window.Contains now → r ∈ s'.qualifications.rows
  /-- A row that left ACTIVE never becomes ACTIVE again. -/
  ended : ∀ before after, cs = before ++ after →
    ∀ q ∈ (runCalls qualificationStep s before).qualifications.rows, q.status ≠ .active →
    ∀ q' ∈ (runCalls qualificationStep s cs).qualifications.rows, q'.pk = q.pk →
      q'.status ≠ .active
  /-- Who revoked a row and when does not change afterwards. -/
  revoked : ∀ before after, cs = before ++ after →
    ∀ q ∈ (runCalls qualificationStep s before).qualifications.rows, q.status = .revoked →
    ∀ q' ∈ (runCalls qualificationStep s cs).qualifications.rows, q'.pk = q.pk →
      q'.status = .revoked ∧ q'.revokedBy = q.revokedBy ∧ q'.revokedAt = q.revokedAt

theorem qualificationStep_oneInForce {c : Nat × QualificationChange} (hone : OneInForce s)
    (hclear : QualificationStepClear s c) (h : qualificationStep s c = .ok s') :
    OneInForce s' := by
  obtain ⟨now, c⟩ := c
  cases c with
  | record args =>
    obtain ⟨⟨s₁, q⟩, hrecord, h⟩ := bind_eq_ok.1 h
    obtain rfl := pure_eq_ok.1 h
    exact ((recordExternalProfessionalQualification_ok hrecord).nothingLost hone hclear).single
  | expire member domain =>
    obtain rfl := Except.ok.inj h
    exact hone.expire
  | revoke pk revokedBy atTime =>
    obtain ⟨⟨s₁, q⟩, hrevoke, h⟩ := bind_eq_ok.1 h
    obtain rfl := pure_eq_ok.1 h
    have hkept : ∀ x ∈ s₁.qualifications.rows, x.status = .active → x ∈ s.qualifications.rows := by
      intro x hx hactive
      rw [revokeProfessionalQualification_ok hrevoke, List.mem_map] at hx
      obtain ⟨y, hy, rfl⟩ := hx
      by_cases hpk : y.pk = pk
      · rw [if_pos hpk] at hactive
        cases hactive
      · rwa [if_neg hpk]
    intro x hx y hy hactive hy'
    exact hone x (hkept x hx hactive.active) y (hkept y hy hy') hactive hy'
  | surroundings directory =>
    obtain rfl := Except.ok.inj h
    exact hone

/-- The row is the same one, does not become active again, and keeps its revocation. -/
structure KeepsEnd (q q' : QualificationRow) : Prop where
  pk : q'.pk = q.pk
  ended : q.status ≠ .active → q'.status ≠ .active
  revoked : q.status = .revoked →
    q'.status = .revoked ∧ q'.revokedBy = q.revokedBy ∧ q'.revokedAt = q.revokedAt

theorem KeepsEnd.refl (q : QualificationRow) : KeepsEnd q q := ⟨rfl, id, fun h => ⟨h, rfl, rfl⟩⟩

theorem KeepsEnd.trans {q₁ q₂ q₃ : QualificationRow} (h : KeepsEnd q₁ q₂) (h' : KeepsEnd q₂ q₃) :
    KeepsEnd q₁ q₃ := by
  refine ⟨h'.pk.trans h.pk, fun hq => h'.ended (h.ended hq), fun hq => ?_⟩
  obtain ⟨hstatus, hby, hat⟩ := h.revoked hq
  obtain ⟨hstatus', hby', hat'⟩ := h'.revoked hstatus
  exact ⟨hstatus', hby'.trans hby, hat'.trans hat⟩

theorem RowMoves.keepsEnd {c : Nat × QualificationChange} {q q' : QualificationRow}
    (hq : q ∈ s.qualifications.rows) (h : RowMoves c.1 c.2 q q')
    (hclear : QualificationStepClear s c) : KeepsEnd q q' := by
  cases h with
  | stays => exact .refl q
  | expires active =>
    refine ⟨rfl, fun hended => absurd active hended, fun hrevoked => ?_⟩
    rw [active] at hrevoked
    cases hrevoked
  | revoked revokedBy atTime call =>
    have hnot : q.status ≠ .revoked := by
      rw [QualificationStepClear, call] at hclear
      exact hclear q hq rfl
    refine ⟨rfl, fun _ hactive => ?_, fun hrevoked => absurd hrevoked hnot⟩
    cases hactive

/-- Every row is still there, with its end. -/
def EndsKept (s s' : QualificationState) : Prop :=
  ∀ q ∈ s.qualifications.rows, ∃ q' ∈ s'.qualifications.rows, KeepsEnd q q'

theorem EndsKept.refl (s : QualificationState) : EndsKept s s := fun q hq => ⟨q, hq, .refl q⟩

theorem EndsKept.trans {s₁ s₂ s₃ : QualificationState} (h : EndsKept s₁ s₂)
    (h' : EndsKept s₂ s₃) : EndsKept s₁ s₃ := by
  intro q hq
  obtain ⟨q₂, hq₂, hkeeps⟩ := h q hq
  obtain ⟨q₃, hq₃, hkeeps'⟩ := h' q₂ hq₂
  exact ⟨q₃, hq₃, hkeeps.trans hkeeps'⟩

theorem EndsKept.get (h : EndsKept s s') (hq : q ∈ s.qualifications.rows) {q' : QualificationRow}
    (hq' : q' ∈ s'.qualifications.rows) (hpk : q'.pk = q.pk) : KeepsEnd q q' := by
  obtain ⟨r, hr, hkeeps⟩ := h q hq
  rwa [s'.qualifications.eq_of_pk hq' hr (hpk.trans hkeeps.pk.symm)]

theorem endsKept_run {cs : List (Nat × QualificationChange)}
    (hcs : EachCall qualificationStep QualificationStepClear s cs) :
    EndsKept s (runCalls qualificationStep s cs) := by
  have hstep : ∀ s c s', True → QualificationStepClear s c → qualificationStep s c = .ok s' →
      EndsKept s s' := by
    intro s c s' _ hclear hstep q hq
    obtain ⟨q', hq', hmoves⟩ := qualificationStep_moves hstep hq
    exact ⟨q', hq', hmoves.keepsEnd hq hclear⟩
  exact EachCall.rel (R := EndsKept) EndsKept.refl (fun _ _ _ => EndsKept.trans)
    (fun _ _ _ _ _ _ => trivial) hstep trivial hcs

/-- **Qualifications over histories.** If every recording is clear of the other qualifications and
no row is revoked twice, at most one qualification is in force at an instant, recordings take
nothing away, and ended rows keep their end. -/
theorem qualificationRun_history (s : QualificationState) (hone : OneInForce s)
    (cs : List (Nat × QualificationChange))
    (hcs : EachCall qualificationStep QualificationStepClear s cs) : QualificationHistory s cs := by
  have hinv : ∀ s c s', OneInForce s → QualificationStepClear s c → qualificationStep s c = .ok s' →
      OneInForce s' := fun _ _ _ => qualificationStep_oneInForce
  have hsingle : ∀ before after, cs = before ++ after →
      OneInForce (runCalls qualificationStep s before) := by
    rintro before after rfl
    exact EachCall.invariant hinv hone hcs.of_append.1
  have hends : ∀ before after, cs = before ++ after →
      EndsKept (runCalls qualificationStep s before) (runCalls qualificationStep s cs) := by
    rintro before after rfl
    rw [runCalls_append]
    exact endsKept_run hcs.of_append.2
  refine ⟨hsingle, ?_, ?_, ?_⟩
  · rintro before now args after s' q rfl hrecord
    have hclear : ClearOfOthers now (runCalls qualificationStep s before) args :=
      hcs.of_append.2.1
    exact ((recordExternalProfessionalQualification_ok hrecord).nothingLost (hsingle _ _ rfl)
      hclear).kept
  · intro before after happend q hq hended q' hq' hpk
    exact ((hends before after happend).get hq hq' hpk).ended hended
  · intro before after happend q hq hrevoked q' hq' hpk
    exact ((hends before after happend).get hq hq' hpk).revoked hrevoked

/-! ## A qualification recorded ahead -/

/-- A covenanter who keeps the qualifications. -/
def registrar : Member := ⟨81, "m-81", none, "", .active, []⟩

def registrarDirectory : Directory where
  members := ⟨[registrar], List.nodup_singleton _, List.nodup_singleton _⟩
  organizations := ⟨[⟨82, roleCatalogOrganizationName, some roleCatalogOrganizationKey, .active⟩],
    List.nodup_singleton _, List.nodup_singleton _⟩
  roles := ⟨[⟨83, 82, roleCovenanter, "", .active⟩, ⟨84, 85, "资格维护", "", .active⟩], by decide,
    by decide⟩
  assignments := ⟨[⟨87, 81, 83, .active, 0, 1000, none, none, .direct⟩,
    ⟨88, 81, 84, .active, 0, 1000, none, none, .direct⟩], by decide, List.nodup_nil⟩
  rolePermissions := [⟨84, professionalQualificationManagePermission⟩]
  domains := ⟨[⟨86, "law", .active⟩], List.nodup_singleton _, List.nodup_singleton _⟩
  qualifications := Table.empty

def emptyRegister : QualificationState := ⟨registrarDirectory, Table.empty⟩

/-- A qualification of the registrar in the domain, from the given time on. -/
def lawFrom (validFrom : Option Nat) : QualificationChange :=
  .record ⟨81, 86, 81, "执照核验", none, validFrom, none, ""⟩

/-- At 5 a qualification from 50 on is recorded, and at 6 one from now on. -/
def twoRecordings : List (Nat × QualificationChange) := [(5, lawFrom (some 50)), (6, lawFrom none)]

/-- Both are in force at 50. -/
theorem twoRecordings_overlap : ¬ ∀ s : QualificationState, s.qualifications.rows = [] →
    ∀ cs : List (Nat × QualificationChange), (cs.map Prod.fst).Pairwise (· ≤ ·) →
    (∀ c ∈ cs, ∀ directory, c.2 ≠ .surroundings directory) → QualificationHistory s cs := by
  intro hclaim
  have hhistory := hclaim emptyRegister rfl twoRecordings (by decide)
    (by simp [twoRecordings, lawFrom])
  have hrows : (runCalls qualificationStep emptyRegister twoRecordings).qualifications.rows =
      [⟨⟨1, 81, 86, .active, 50, none⟩, "执照核验", 81, 5, none, none, ""⟩,
        ⟨⟨2, 81, 86, .active, 6, none⟩, "执照核验", 81, 6, none, none, ""⟩] := by
    decide +kernel
  have hone := hhistory.single twoRecordings [] rfl
  unfold OneInForce at hone
  rw [hrows] at hone
  have hsame := hone _ List.mem_cons_self _ (List.mem_cons_of_mem _ List.mem_cons_self)
    ⟨rfl, rfl, rfl⟩ rfl 50 ⟨by decide, fun e he => by cases he⟩ ⟨by decide, fun e he => by cases he⟩
  exact absurd hsame (by decide)

/-- A qualification is recorded and revoked once. -/
theorem oneRecording_history : QualificationHistory emptyRegister
    [(5, lawFrom none), (6, .revoke 1 81 none)] := by
  refine qualificationRun_history emptyRegister ?_ _ ⟨?_, ?_, trivial⟩
  · intro q hq
    cases hq
  · intro r hr
    cases hr
  · intro q hq _
    have hactive : ∀ q ∈ (afterCall qualificationStep emptyRegister
        (5, lawFrom none)).qualifications.rows, q.status = .active := by decide +kernel
    rw [hactive q hq]
    decide

end LiveOs.Roles
