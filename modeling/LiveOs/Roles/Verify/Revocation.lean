import LiveOs.Roles.Verify.Grants

/-!
# Revocations

`revoke_role_assignment` writes the status and the end of a row whatever its status was, and saves
it through `clean()`. So a term that has not started by the clock of the call cannot be revoked, and
a second revocation moves the end the first one recorded.
-/

namespace LiveOs.Roles

open Lib EventLedger

variable {rt : Runtime} {env : RoleEnv} {s s' : RoleState rt} {db : Directory} {m : Member}
  {a : RoleAssignment} {t now : Nat}

/-! ## What rows give -/

/-- The row counts for the queries at the time. -/
def RoleAssignment.Gives (a : RoleAssignment) (t : Nat) : Prop :=
  a.status = .active ∧ a.startAt ≤ t ∧ t < a.endAt

theorem RoleAssignment.Gives.not_revoked (h : a.Gives t) : a.status ≠ .revoked := by
  rw [h.1]
  decide

/-- Every role assigned at a time is given by a row. -/
theorem assignedRoles_gives {roleId : Nat} (h : roleId ∈ assignedRoles db m t) :
    ∃ b ∈ db.assignments.rows, b.Gives t ∧ b.member = m.pk ∧ b.role = roleId := by
  obtain ⟨b, hb, hmember, hactive, hcovers, role, -, hpk, -, hrole⟩ := mem_assignedRoles.1 h
  exact ⟨b, hb, ⟨hactive, hcovers⟩, hmember, hpk.symm.trans hrole⟩

/-- So is every catalogue role held at a time. -/
theorem currentCatalogRoleFilter_gives {names : List String}
    (h : currentCatalogRoleFilter db names t m = true) :
    ∃ b ∈ db.assignments.rows, b.Gives t ∧ b.member = m.pk ∧
      (db.roles.get? b.role).any (fun role => names.contains role.name) = true := by
  simp only [currentCatalogRoleFilter, Bool.and_eq_true, List.any_eq_true, decide_eq_true_eq,
    Option.any_eq_true] at h
  obtain ⟨-, b, hb, hmember, role, hrole, ⟨⟨⟨-, hname⟩, hactive⟩, -⟩, hcovers⟩ := h
  refine ⟨b, hb, ⟨hactive, RoleAssignment.covers_iff.1 hcovers⟩, hmember, ?_⟩
  rw [hrole]
  exact hname

/-! ## One call -/

/-- The row a revocation writes. -/
def RoleAssignment.revokedRow (a : RoleAssignment) (revokedBy : Option Nat) (endAt : Nat) :
    RoleAssignment :=
  { a with status := .revoked, revokedBy := revokedBy, endAt := endAt }

/-- `clean()` asks a revoked row for nothing but a start before its end. -/
theorem revokedRow_clean {revokedBy : Option Nat} {endAt : Nat} (h : a.startAt < endAt) :
    (a.revokedRow revokedBy endAt).clean db = .ok () := by
  simp [RoleAssignment.clean, RoleAssignment.revokedRow, rejectIf, not_le.2 h, bind, Except.bind]

theorem revokeRoleAssignment_of_le (ha : a ∈ s.db.assignments.rows) (revokedBy : Option Nat)
    (hstart : env.now ≤ a.startAt) : revokeRoleAssignment env s a.pk revokedBy none =
      .error (.validation "角色任命结束时间必须晚于开始时间。") := by
  unfold revokeRoleAssignment
  rw [Table.get?_eq_some.2 ⟨ha, rfl⟩]
  simp [RoleAssignment.clean, rejectIf, hstart, bind, Except.bind]

theorem revokeRoleAssignment_of_lt (ha : a ∈ s.db.assignments.rows) (revokedBy : Option Nat)
    (hstart : a.startAt < env.now) : ∃ s',
      revokeRoleAssignment env s a.pk revokedBy none = .ok (s', a.revokedRow revokedBy env.now) ∧
      a.revokedRow revokedBy env.now ∈ s'.db.assignments.rows := by
  have hclean := @revokedRow_clean s.db a revokedBy env.now hstart
  unfold revokeRoleAssignment
  rw [Table.get?_eq_some.2 ⟨ha, rfl⟩]
  refine ⟨_, bind_eq_ok.2 ⟨(), hclean, rfl⟩, ?_⟩
  exact List.mem_map.2 ⟨a, ha, if_pos rfl⟩

/-- The row is revoked, and whatever is held from then on is given by other rows. -/
structure Revoked (now : Nat) (a : RoleAssignment) (s' : RoleState rt) : Prop where
  row : ∃ a' ∈ s'.db.assignments.rows, a'.pk = a.pk ∧ a'.status = .revoked
  assigned : ∀ t, now ≤ t → ∀ m : Member, ∀ roleId ∈ assignedRoles s'.db m t,
    ∃ b ∈ s'.db.assignments.rows, b.pk ≠ a.pk ∧ b.Gives t ∧ b.member = m.pk ∧ b.role = roleId
  catalog : ∀ t, now ≤ t → ∀ (m : Member) (names : List String),
    currentCatalogRoleFilter s'.db names t m = true →
    ∃ b ∈ s'.db.assignments.rows, b.pk ≠ a.pk ∧ b.Gives t ∧ b.member = m.pk ∧
      (s'.db.roles.get? b.role).any (fun role => names.contains role.name) = true

/-- A revoked row gives nothing, at any time. -/
theorem Revoked.of_row {a' : RoleAssignment} (ha' : a' ∈ s'.db.assignments.rows)
    (hpk : a'.pk = a.pk) (hrevoked : a'.status = .revoked) : Revoked now a s' := by
  have hother : ∀ b ∈ s'.db.assignments.rows, ∀ t, b.Gives t → b.pk ≠ a.pk := by
    intro b hb t hgives hb_pk
    rw [Table.eq_of_pk _ hb ha' (hb_pk.trans hpk.symm)] at hgives
    exact hgives.not_revoked hrevoked
  refine ⟨⟨a', ha', hpk, hrevoked⟩, ?_, ?_⟩
  · intro t _ m roleId h
    obtain ⟨b, hb, hgives, hrest⟩ := assignedRoles_gives h
    exact ⟨b, hb, hother b hb t hgives, hgives, hrest⟩
  · intro t _ m names h
    obtain ⟨b, hb, hgives, hrest⟩ := currentCatalogRoleFilter_gives h
    exact ⟨b, hb, hother b hb t hgives, hgives, hrest⟩

/-! ## The law of revocation -/

/-- What a revocation without an end of its own should do to a row. -/
structure RevocationLaw (env : RoleEnv) (s : RoleState rt) (a : RoleAssignment)
    (revokedBy : Option Nat) : Prop where
  /-- An active row can be revoked, whatever its window. -/
  active : a.status = .active → ∃ s' r, revokeRoleAssignment env s a.pk revokedBy none = .ok (s', r) ∧
    Revoked env.now a s'
  /-- A row that has ended keeps the end it recorded. -/
  history : a.Ended → ∀ a' ∈
    (runCalls roleStep s [(env, .revoke a.pk revokedBy none)]).db.assignments.rows,
    a'.pk = a.pk → a'.endAt = a.endAt

/-- The row after the call: as it was when the call raises, else with the clock as its end. -/
theorem afterRevoke_row (ha : a ∈ s.db.assignments.rows) (revokedBy : Option Nat) :
    (if env.now ≤ a.startAt then a else a.revokedRow revokedBy env.now) ∈
      (runCalls roleStep s [(env, .revoke a.pk revokedBy none)]).db.assignments.rows := by
  rw [show runCalls roleStep s [(env, .revoke a.pk revokedBy none)] =
    afterCall roleStep s (env, .revoke a.pk revokedBy none) from rfl]
  by_cases hstart : env.now ≤ a.startAt
  · have hstep : roleStep s (env, .revoke a.pk revokedBy none) =
        .error (.validation "角色任命结束时间必须晚于开始时间。") := by
      simp only [roleStep, revokeRoleAssignment_of_le ha revokedBy hstart, error_bind]
    rw [afterCall_error hstep, if_pos hstart]
    exact ha
  · obtain ⟨s', hcall, hrow⟩ := revokeRoleAssignment_of_lt ha revokedBy (not_le.1 hstart)
    have hstep : roleStep s (env, .revoke a.pk revokedBy none) = .ok s' := by
      simp only [roleStep, hcall, ok_bind]
      rfl
    rw [afterCall_ok hstep, if_neg hstart]
    exact hrow

/-- **When revocations keep the law.** -/
theorem revokeRoleAssignment_law_iff (env : RoleEnv) (s : RoleState rt) (a : RoleAssignment)
    (revokedBy : Option Nat) (ha : a ∈ s.db.assignments.rows) :
    RevocationLaw env s a revokedBy ↔ (a.status = .active → a.startAt < env.now) ∧
      (a.Ended → a.endAt = env.now ∨ env.now ≤ a.startAt) := by
  have hrow := @afterRevoke_row rt env s a ha revokedBy
  constructor
  · intro h
    refine ⟨?_, ?_⟩
    · intro hactive
      by_contra hstart
      obtain ⟨s', r, hcall, -⟩ := h.active hactive
      rw [revokeRoleAssignment_of_le ha revokedBy (not_lt.1 hstart)] at hcall
      cases hcall
    · intro hended
      by_cases hstart : env.now ≤ a.startAt
      · exact .inr hstart
      · rw [if_neg hstart] at hrow
        exact .inl (h.history hended _ hrow rfl).symm
  · rintro ⟨hactive, hended⟩
    refine ⟨?_, ?_⟩
    · intro h
      obtain ⟨s', hcall, hmem⟩ := revokeRoleAssignment_of_lt ha revokedBy (hactive h)
      exact ⟨s', _, hcall, Revoked.of_row hmem rfl rfl⟩
    · intro h a' ha' hpk
      by_cases hstart : env.now ≤ a.startAt
      · rw [if_pos hstart] at hrow
        rw [Table.eq_of_pk _ ha' hrow hpk]
      · rw [if_neg hstart] at hrow
        rw [Table.eq_of_pk _ ha' hrow hpk]
        exact ((hended h).resolve_right hstart).symm

/-! ## A term ahead, and a term over -/

/-- The gardener's term from 20 to 30, and one from 0 that ended at 10. -/
def gardenTerms : List RoleAssignment :=
  [⟨1, 72, 73, .active, 20, 30, none, none, .direct⟩,
    ⟨2, 72, 73, .revoked, 0, 10, none, none, .direct⟩]

theorem gardenTerms_keys : (gardenTerms.map RoleAssignment.pk).Nodup ∧
    (gardenTerms.filterMap fun _ => (none : Option Unit)).Nodup := by
  decide

def gardenAhead : RoleState textRuntime :=
  { gardenRoles with db := { gardenRoles.db with
      assignments := ⟨gardenTerms, gardenTerms_keys.1, gardenTerms_keys.2⟩ } }

/-- At 15 the first term cannot be revoked, and revoking the second moves its end to 15. -/
theorem revocationLaw_fails : ¬ ∀ (env : RoleEnv) (s : RoleState textRuntime)
    (revokedBy : Option Nat), ∀ a ∈ s.db.assignments.rows, RevocationLaw env s a revokedBy := by
  intro hclaim
  have hlaw := hclaim ⟨15, "a"⟩ gardenAhead none ⟨2, 72, 73, .revoked, 0, 10, none, none, .direct⟩
    (List.mem_cons_of_mem _ (List.mem_singleton_self _))
  have hend := hlaw.history (.inl rfl) ⟨2, 72, 73, .revoked, 0, 15, none, none, .direct⟩
    (by decide) rfl
  exact absurd hend (by decide)

/-- At 25 the first term can. -/
theorem revokeRoleAssignment_law_started : RevocationLaw ⟨25, "a"⟩ gardenAhead
    ⟨1, 72, 73, .active, 20, 30, none, none, .direct⟩ none := by
  refine (revokeRoleAssignment_law_iff ⟨25, "a"⟩ gardenAhead _ none (List.mem_cons_self ..)).2 ?_
  refine ⟨fun _ => by decide, fun h => ?_⟩
  rcases h with h | h <;> cases h

end LiveOs.Roles
