import LiveOs.Roles.Verify.Queries

/-!
# Per-member checks and member lists

A permission and a professional qualification are each asked for in two ways, of one member and for
the list of all members. The lists agree with the checks wherever the one condition they read
elsewhere does not matter.
-/

namespace LiveOs.Roles

open Lib

variable {db : Directory} {now t : Nat} {m : Member}

/-! ## Permissions -/

/-- A role that the member is assigned at the time has the permission. -/
def Granted (db : Directory) (m : Member) (permissionCode : String) (t : Nat) : Prop :=
  ∃ a ∈ db.assignments.rows, a.member = m.pk ∧ a.status = .active ∧ (a.startAt ≤ t ∧ t < a.endAt) ∧
    ∃ role ∈ db.roles.rows, role.pk = a.role ∧ role.status = .active ∧
      ∃ rp ∈ db.rolePermissions, rp.role = role.pk ∧ rp.permissionCode = permissionCode

theorem mem_assignedRoles {roleId : Nat} : roleId ∈ assignedRoles db m t ↔
    ∃ a ∈ db.assignments.rows, a.member = m.pk ∧ a.status = .active ∧
      (a.startAt ≤ t ∧ t < a.endAt) ∧
      ∃ role ∈ db.roles.rows, role.pk = a.role ∧ role.status = .active ∧ role.pk = roleId := by
  simp only [assignedRoles, List.mem_map, List.mem_filter, Bool.and_eq_true, decide_eq_true_eq,
    any_get?_eq_true, RoleAssignment.covers_iff]
  constructor
  · rintro ⟨a, ⟨mem, ⟨⟨hmember, hactive⟩, role, hrole, hpk, hstatus⟩, hcovers⟩, rfl⟩
    exact ⟨a, mem, hmember, hactive, hcovers, role, hrole, hpk, hstatus, hpk⟩
  · rintro ⟨a, mem, hmember, hactive, hcovers, role, hrole, hpk, hstatus, rfl⟩
    exact ⟨a, ⟨mem, ⟨⟨hmember, hactive⟩, role, hrole, hpk, hstatus⟩, hcovers⟩, hpk.symm⟩

theorem any_rolePermissions_iff {permissionCode : String} :
    (db.rolePermissions.any fun rp => (assignedRoles db m t).contains rp.role &&
      rp.permissionCode = permissionCode) = true ↔ Granted db m permissionCode t := by
  simp only [List.any_eq_true, Bool.and_eq_true, List.contains_iff_mem, mem_assignedRoles,
    decide_eq_true_eq]
  constructor
  · rintro ⟨rp, hrp, ⟨a, mem, hmember, hactive, hcovers, role, hrole, hpk, hstatus, hrole'⟩, hcode⟩
    exact ⟨a, mem, hmember, hactive, hcovers, role, hrole, hpk, hstatus, rp, hrp, hrole'.symm,
      hcode⟩
  · rintro ⟨a, mem, hmember, hactive, hcovers, role, hrole, hpk, hstatus, rp, hrp, hrole', hcode⟩
    exact ⟨rp, hrp, ⟨a, mem, hmember, hactive, hcovers, role, hrole, hpk, hstatus, hrole'.symm⟩,
      hcode⟩

/-- **Permission checks.** -/
theorem legacyMemberHasPermission_iff {permissionCode : String} {atTime : Option Nat}
    (hm : m ∈ db.members.rows) :
    legacyMemberHasPermission db now m permissionCode atTime = true ↔
      memberAllowsRoleFacts m = true ∧
      (permissionRequiresCovenanter permissionCode = true → Covenanter db m (atTime.getD now)) ∧
      Granted db m permissionCode (atTime.getD now) := by
  rw [← any_rolePermissions_iff, ← @memberHasRole_covenanter_at db now (atTime.getD now) m hm]
  unfold legacyMemberHasPermission
  by_cases hallows : memberAllowsRoleFacts m = true
  · by_cases hreq : permissionRequiresCovenanter permissionCode = true
    · by_cases hcov : memberHasRole db now m [roleCovenanter] (some (atTime.getD now)) = true
      · simp [hallows, hreq, hcov]
      · simp [hallows, hreq, hcov]
    · simp [hallows, hreq]
  · simp [hallows]

/-- The list of holders asks for the covenanter qualification at the time of the call. -/
theorem mem_membersWithPermission_iff {permissionCode : String} {atTime : Option Nat}
    (hm : m ∈ db.members.rows) :
    m ∈ membersWithPermission db now permissionCode atTime ↔
      memberAllowsRoleFacts m = true ∧
      (permissionRequiresCovenanter permissionCode = true → Covenanter db m now) ∧
      Granted db m permissionCode (atTime.getD now) := by
  have hgrant : (db.assignments.rows.any fun a => a.member = m.pk && a.status = .active &&
      a.covers (atTime.getD now) && (db.roles.get? a.role).any fun role => role.status = .active &&
        db.rolePermissions.any fun rp => rp.role = role.pk && rp.permissionCode = permissionCode) =
      true ↔ Granted db m permissionCode (atTime.getD now) := by
    simp only [List.any_eq_true, Bool.and_eq_true, decide_eq_true_eq, any_get?_eq_true,
      RoleAssignment.covers_iff, Granted, and_assoc]
  rw [← hgrant]
  unfold membersWithPermission
  simp only [allows_eq]
  by_cases hreq : permissionRequiresCovenanter permissionCode = true
  · rw [if_pos hreq, List.mem_filter, List.mem_filter, List.mem_filter,
      memberRoleFilter_covenanter hm]
    simp only [hm, hreq, true_and, true_imp_iff, Option.getD_none, and_assoc]
  · rw [if_neg hreq, List.mem_filter, List.mem_filter]
    simp only [hm, hreq, true_and, Bool.false_eq_true, false_imp_iff]

/-- **Two views of one permission.** The list of holders and the check of one member agree exactly
if a guarded permission that the member is assigned finds the covenanter qualification in force both
at the time asked for and at the time of the call, or at neither. -/
theorem membersWithPermission_agrees_iff (db : Directory) (now : Nat) (m : Member)
    (hm : m ∈ db.members.rows) (permissionCode : String) (atTime : Option Nat) :
    (m ∈ membersWithPermission db now permissionCode atTime ↔
      legacyMemberHasPermission db now m permissionCode atTime = true) ↔
    (permissionRequiresCovenanter permissionCode = true →
      Granted db m permissionCode (atTime.getD now) →
      (memberHasRole db now m [roleCovenanter] (some now) =
        memberHasRole db now m [roleCovenanter] (some (atTime.getD now)))) := by
  have hsame : (memberHasRole db now m [roleCovenanter] (some now) =
      memberHasRole db now m [roleCovenanter] (some (atTime.getD now))) ↔
      (Covenanter db m now ↔ Covenanter db m (atTime.getD now)) := by
    rw [Bool.eq_iff_iff, memberHasRole_covenanter_at hm, memberHasRole_covenanter_at hm]
  rw [mem_membersWithPermission_iff hm, legacyMemberHasPermission_iff hm, hsame]
  constructor
  · intro hagree hreq hgrant
    constructor
    · intro hnow
      exact (hagree.1 ⟨hnow.1, fun _ => hnow, hgrant⟩).2.1 hreq
    · intro ht
      exact (hagree.2 ⟨ht.1, fun _ => ht, hgrant⟩).2.1 hreq
  · intro hsame
    constructor
    · rintro ⟨hallows, hcov, hgrant⟩
      exact ⟨hallows, fun hreq => (hsame hreq hgrant).1 (hcov hreq), hgrant⟩
    · rintro ⟨hallows, hcov, hgrant⟩
      exact ⟨hallows, fun hreq => (hsame hreq hgrant).2 (hcov hreq), hgrant⟩

/-- A covenanter until 10 who keeps a finance role until 20. -/
def lapsedReviewer : Directory where
  members := ⟨[⟨0, "m", none, "", .active, []⟩], by decide, by decide⟩
  organizations := ⟨[⟨0, roleCatalogOrganizationName, some roleCatalogOrganizationKey, .active⟩,
    ⟨1, "finance", none, .active⟩], by decide, by decide⟩
  roles := ⟨[⟨0, 0, roleCovenanter, "", .active⟩, ⟨1, 1, "reviewer", "", .active⟩],
    by decide, by decide⟩
  assignments := ⟨[⟨0, 0, 0, .active, 0, 10, none, none, .direct⟩,
    ⟨1, 0, 1, .active, 0, 20, none, none, .direct⟩], by decide, by decide⟩
  rolePermissions := [⟨1, "finance.review"⟩]
  domains := Table.empty
  qualifications := Table.empty

/-- Asked at 15 about 5, the check says yes and the list is empty. -/
theorem lapsedReviewer_disagrees : ∃ m ∈ lapsedReviewer.members.rows,
    ¬ (m ∈ membersWithPermission lapsedReviewer 15 "finance.review" (some 5) ↔
      legacyMemberHasPermission lapsedReviewer 15 m "finance.review" (some 5) = true) := by
  have hlist : (membersWithPermission lapsedReviewer 15 "finance.review" (some 5)).isEmpty = true := by
    decide +kernel
  refine ⟨_, List.mem_singleton_self _, fun hagree => ?_⟩
  have hmem := hagree.2 (by decide +kernel)
  rw [List.isEmpty_iff.1 hlist] at hmem
  cases hmem

/-- Asked at 5 about 5, they agree. -/
theorem lapsedReviewer_agrees : ∃ m ∈ lapsedReviewer.members.rows,
    (m ∈ membersWithPermission lapsedReviewer 5 "finance.review" (some 5) ↔
      legacyMemberHasPermission lapsedReviewer 5 m "finance.review" (some 5) = true) :=
  ⟨_, List.mem_singleton_self _, (membersWithPermission_agrees_iff lapsedReviewer 5 _
    (List.mem_singleton_self _) "finance.review" (some 5)).2 fun _ _ => rfl⟩

/-! ## Professional qualifications -/

/-- An active row of the domain has started. -/
structure Started (db : Directory) (m : Member) (domain : ProfessionalDomain) (t : Nat)
    (q : MemberProfessionalQualification) : Prop where
  mem : q ∈ db.qualifications.rows
  member : q.member = m.pk
  domain : q.domain = domain.pk
  active : q.status = .active
  started : q.validFrom ≤ t

theorem hasCurrentProfessionalQualification_iff {domain : ProfessionalDomain}
    {atTime : Option Nat} (hm : m ∈ db.members.rows) (hd : domain ∈ db.domains.rows) :
    hasCurrentProfessionalQualification db now m domain atTime = true ↔
      Covenanter db m (atTime.getD now) ∧ domain.status = .active ∧
      ∃ q, Started db m domain (atTime.getD now) q ∧ q.openAt (atTime.getD now) = true := by
  have hrows : (db.qualifications.rows.any fun q => q.member = m.pk && q.status = .active &&
      ((db.domains.get? q.domain).any fun d => d.status = .active) &&
      q.validFrom ≤ atTime.getD now && q.openAt (atTime.getD now) && q.domain = domain.pk) =
      true ↔ domain.status = .active ∧
      ∃ q, Started db m domain (atTime.getD now) q ∧ q.openAt (atTime.getD now) = true := by
    simp only [List.any_eq_true, Bool.and_eq_true, decide_eq_true_eq, any_get?_eq_true]
    constructor
    · rintro ⟨q, mem, ⟨⟨⟨⟨hmember, hactive⟩, d, hd', hpk, hstatus⟩, hfrom⟩, hopen⟩, hdomain⟩
      obtain rfl := db.domains.eq_of_pk hd' hd (hpk.trans hdomain)
      exact ⟨hstatus, q, ⟨mem, hmember, hdomain, hactive, hfrom⟩, hopen⟩
    · rintro ⟨hstatus, q, hq, hopen⟩
      exact ⟨q, hq.mem, ⟨⟨⟨⟨hq.member, hq.active⟩, domain, hd, hq.domain.symm, hstatus⟩,
        hq.started⟩, hopen⟩, hq.domain⟩
  rw [← hrows, ← @memberHasRole_covenanter_at db now (atTime.getD now) m hm]
  unfold hasCurrentProfessionalQualification
  by_cases hallows : memberAllowsRoleFacts m = true
  · by_cases hcov : memberHasRole db now m [roleCovenanter] (some (atTime.getD now)) = true
    · simp [hallows, hcov]
    · simp [hallows, hcov]
  · have hrole : memberHasRole db now m [roleCovenanter] (some (atTime.getD now)) = false := by
      rw [Bool.eq_false_iff, ne_eq, memberHasRole_covenanter_at hm]
      exact fun h => hallows h.1
    simp [hallows, hrole]

theorem mem_membersWithCurrentProfessionalQualification_iff {domain : ProfessionalDomain}
    {atTime : Option Nat} (hm : m ∈ db.members.rows) :
    m ∈ membersWithCurrentProfessionalQualification db now domain atTime ↔
      Covenanter db m (atTime.getD now) ∧ domain.status = .active ∧
      (∃ q, Started db m domain (atTime.getD now) q) ∧
      ∃ q ∈ db.qualifications.rows, q.member = m.pk ∧ q.openAt (atTime.getD now) = true := by
  have hfirst : (db.qualifications.rows.any fun q => q.member = m.pk && q.domain = domain.pk &&
      q.status = .active && q.validFrom ≤ atTime.getD now) = true ↔
      ∃ q, Started db m domain (atTime.getD now) q := by
    simp only [List.any_eq_true, Bool.and_eq_true, decide_eq_true_eq]
    constructor
    · rintro ⟨q, mem, ⟨⟨hmember, hdomain⟩, hactive⟩, hfrom⟩
      exact ⟨q, mem, hmember, hdomain, hactive, hfrom⟩
    · rintro ⟨q, hq⟩
      exact ⟨q, hq.mem, ⟨⟨hq.member, hq.domain⟩, hq.active⟩, hq.started⟩
  unfold membersWithCurrentProfessionalQualification
  by_cases hstatus : domain.status = .active
  · rw [if_neg (not_not.2 hstatus), List.mem_insertionSort, List.mem_filter, List.mem_filter,
      Bool.and_eq_true, contains_pk_iff hm, memberRoleFilter_covenanter hm, hfirst]
    simp only [hm, hstatus, true_and, Option.getD_some, List.any_eq_true, Bool.and_eq_true,
      decide_eq_true_eq, and_assoc]
  · rw [if_pos hstatus]
    simp [hstatus]

/-- **Two views of one qualification.** The list of qualified members and the check of one member
agree exactly if a covenanter with a started active row of the active domain, and with any row that
has not ended, has a started active row of the domain that has not ended. -/
theorem membersWithCurrentProfessionalQualification_agrees_iff (db : Directory) (now : Nat)
    (m : Member) (hm : m ∈ db.members.rows) (domain : ProfessionalDomain)
    (hd : domain ∈ db.domains.rows) (atTime : Option Nat) :
    (m ∈ membersWithCurrentProfessionalQualification db now domain atTime ↔
      hasCurrentProfessionalQualification db now m domain atTime = true) ↔
    (memberHasRole db now m [roleCovenanter] (some (atTime.getD now)) = true →
      domain.status = .active →
      (∃ q, Started db m domain (atTime.getD now) q) →
      (∃ q ∈ db.qualifications.rows, q.member = m.pk ∧ q.openAt (atTime.getD now) = true) →
      ∃ q, Started db m domain (atTime.getD now) q ∧ q.openAt (atTime.getD now) = true) := by
  rw [mem_membersWithCurrentProfessionalQualification_iff hm,
    hasCurrentProfessionalQualification_iff hm hd, memberHasRole_covenanter_at hm]
  constructor
  · intro hagree hcov hstatus hstarted hopen
    exact (hagree.1 ⟨hcov, hstatus, hstarted, hopen⟩).2.2
  · intro hcond
    constructor
    · rintro ⟨hcov, hstatus, hstarted, hopen⟩
      exact ⟨hcov, hstatus, hcond hcov hstatus hstarted hopen⟩
    · rintro ⟨hcov, hstatus, q, hq, hopen⟩
      exact ⟨hcov, hstatus, ⟨q, hq⟩, q, hq.mem, hq.member, hopen⟩

/-- A covenanter whose first qualification ended at 10 and whose second one stays open. -/
def lapsedExpert : Directory where
  members := ⟨[⟨0, "m", none, "", .active, []⟩], by decide, by decide⟩
  organizations := ⟨[⟨0, roleCatalogOrganizationName, some roleCatalogOrganizationKey, .active⟩],
    by decide, by decide⟩
  roles := ⟨[⟨0, 0, roleCovenanter, "", .active⟩], by decide, by decide⟩
  assignments := ⟨[⟨0, 0, 0, .active, 0, 100, none, none, .direct⟩], by decide, by decide⟩
  rolePermissions := []
  domains := ⟨[⟨0, "law", .active⟩, ⟨1, "medicine", .active⟩], by decide, by decide⟩
  qualifications := ⟨[⟨0, 0, 0, .active, 0, some 10⟩, ⟨1, 0, 1, .active, 0, none⟩],
    by decide, by decide⟩

/-- At 50 the list for the first domain still has the member. -/
theorem lapsedExpert_disagrees : ∃ m ∈ lapsedExpert.members.rows,
    ∃ domain ∈ lapsedExpert.domains.rows,
    ¬ (m ∈ membersWithCurrentProfessionalQualification lapsedExpert 50 domain (some 50) ↔
      hasCurrentProfessionalQualification lapsedExpert 50 m domain (some 50) = true) := by
  refine ⟨_, List.mem_singleton_self _, ⟨0, "law", .active⟩, List.mem_cons_self, fun hagree => ?_⟩
  have hlist : (membersWithCurrentProfessionalQualification lapsedExpert 50 ⟨0, "law", .active⟩
      (some 50)).map Member.pk = [0] := by
    decide +kernel
  obtain ⟨m, hmem, -⟩ := List.mem_map.1 (hlist ▸ List.mem_singleton_self 0)
  obtain rfl : m = _ := List.mem_singleton.1 (List.mem_filter.1 (List.mem_filter.1
    ((List.mem_insertionSort _).1 hmem)).1).1
  exact absurd (hagree.1 hmem) (by decide +kernel)

/-- For the second domain they agree. -/
theorem lapsedExpert_agrees : ∃ m ∈ lapsedExpert.members.rows,
    ∃ domain ∈ lapsedExpert.domains.rows,
    (m ∈ membersWithCurrentProfessionalQualification lapsedExpert 50 domain (some 50) ↔
      hasCurrentProfessionalQualification lapsedExpert 50 m domain (some 50) = true) :=
  ⟨_, List.mem_singleton_self _, ⟨1, "medicine", .active⟩, by decide,
    (membersWithCurrentProfessionalQualification_agrees_iff lapsedExpert 50 _
      (List.mem_singleton_self _) ⟨1, "medicine", .active⟩ (by decide) (some 50)).2
      fun _ _ _ _ => ⟨⟨1, 0, 1, .active, 0, none⟩, ⟨by decide, rfl, rfl, rfl, by decide⟩, rfl⟩⟩

end LiveOs.Roles
