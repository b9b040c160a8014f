import LiveOs.Roles.Assignments
import LiveOs.Roles.Verify.Permissions

/-!
# What the assignment services write

A successful grant expires elapsed rows of its member and role, and then reuses the current row or
adds one. Nothing makes an ended row active again, and what a member holds is read from active rows
alone, so the covenanter prerequisite can be read off any state of any history.
-/

namespace LiveOs.Roles

open Lib EventLedger

variable {rt : Runtime} {env : RoleEnv} {s s' : RoleState rt} {db db' : Directory}

/-! ## Successful calls -/

/-- Two directories that differ in their assignments only. -/
structure SameSurroundings (db db' : Directory) : Prop where
  members : db'.members = db.members
  organizations : db'.organizations = db.organizations
  roles : db'.roles = db.roles
  rolePermissions : db'.rolePermissions = db.rolePermissions
  domains : db'.domains = db.domains
  qualifications : db'.qualifications = db.qualifications

theorem expireAssignments_rows {memberPk rolePk startsAt : Nat} :
    (expireAssignments db memberPk rolePk startsAt).assignments.rows =
      db.assignments.rows.map fun a =>
        if elapsed memberPk rolePk startsAt a then { a with status := .expired } else a := rfl

/-- The row a grant returns: a current one, or a new one. -/
inductive Assigned (db db' : Directory) (memberPk rolePk startsAt endsAt : Nat)
    (grantedBy : Option Nat) (sourceType : SourceType) (a : RoleAssignment) : Prop
  | reused (mem : a ∈ db.assignments.rows)
    (current : a.member = memberPk ∧ a.role = rolePk ∧ a.status = .active ∧ startsAt < a.endAt)
    (same : db' = db)
  | created (rows : db'.assignments.rows = db.assignments.rows ++ [a])
    (fresh : ∀ b ∈ db.assignments.rows, b.pk ≠ a.pk)
    (free : ∀ b ∈ db.assignments.rows, b.member = memberPk → b.role = rolePk →
      b.status = .active → b.endAt ≤ startsAt)
    (row : a.member = memberPk ∧ a.role = rolePk ∧ a.status = .active ∧ a.startAt = startsAt ∧
      a.endAt = endsAt ∧ a.grantedBy = grantedBy ∧ a.sourceType = sourceType)
    (window : startsAt < endsAt)
    (same : SameSurroundings db db')

theorem currentAssignment_eq_some {memberPk rolePk startsAt : Nat} {a : RoleAssignment}
    (h : currentAssignment db memberPk rolePk startsAt = some a) : a ∈ db.assignments.rows ∧
      a.member = memberPk ∧ a.role = rolePk ∧ a.status = .active ∧ startsAt < a.endAt := by
  have hmem := List.mem_of_head? h
  rw [List.mem_insertionSort, List.mem_filter] at hmem
  simpa [and_assoc] using hmem

theorem currentAssignment_eq_none {memberPk rolePk startsAt : Nat}
    (h : currentAssignment db memberPk rolePk startsAt = none) : ∀ b ∈ db.assignments.rows,
      b.member = memberPk → b.role = rolePk → b.status = .active → b.endAt ≤ startsAt := by
  intro b hb hmember hrole hactive
  by_contra hlt
  have hmem : b ∈ (db.assignments.rows.filter fun a => a.member = memberPk && a.role = rolePk &&
      a.status = .active && startsAt < a.endAt).insertionSort fun a b => latestFirst a b := by
    rw [List.mem_insertionSort, List.mem_filter]
    simpa [hb, hmember, hrole, hactive] using hlt
  unfold currentAssignment at h
  rw [List.head?_eq_none_iff.1 h] at hmem
  cases hmem

theorem reuseOrCreate_ok {memberPk rolePk startsAt endsAt : Nat} {grantedBy : Option Nat}
    {sourceType : SourceType} {a : RoleAssignment}
    (h : reuseOrCreate db memberPk rolePk startsAt endsAt grantedBy sourceType = .ok (db', a)) :
    Assigned db db' memberPk rolePk startsAt endsAt grantedBy sourceType a := by
  unfold reuseOrCreate at h
  split at h
  · rename_i assignment hcurrent
    obtain ⟨rfl, rfl⟩ := Prod.mk.inj (Except.ok.inj h)
    obtain ⟨mem, hcurrent⟩ := currentAssignment_eq_some hcurrent
    exact .reused mem hcurrent rfl
  · rename_i hnone
    obtain ⟨⟨⟩, hclean, h⟩ := bind_eq_ok.1 h
    obtain ⟨assignments, hinsert, h⟩ := bind_eq_ok.1 h
    obtain ⟨rfl, rfl⟩ := Prod.mk.inj (pure_eq_ok.1 h)
    obtain ⟨hwindow, -⟩ := rejectIf_bind_eq_ok.1 hclean
    obtain ⟨hrows, hfresh, -⟩ := Table.insert_ok hinsert
    exact .created hrows hfresh (currentAssignment_eq_none hnone) ⟨rfl, rfl, rfl, rfl, rfl, rfl, rfl⟩
      (not_le.1 hwindow) ⟨rfl, rfl, rfl, rfl, rfl, rfl⟩

theorem issueCredentialUnlocked_ok {template : CredentialTemplate} {member : Member}
    {dedupeKey title : String} {sourceType : GrantSource} {issuedBy serialNo : Option Nat}
    {grant : CredentialGrant} (h : issueCredentialUnlocked env s template member dedupeKey sourceType
      issuedBy serialNo title = .ok (s', grant)) :
    s'.db = s.db ∧ s'.templates = s.templates ∧ s'.grants.rows = s.grants.rows ++ [grant] ∧
      grant.template = template.code ∧ grant.member = member.pk ∧ grant.serialNo = serialNo := by
  obtain ⟨-, h⟩ := rejectIf_bind_eq_ok.1 h
  obtain ⟨grants, hinsert, h⟩ := bind_eq_ok.1 h
  obtain ⟨events, -, h⟩ := bind_eq_ok.1 h
  obtain ⟨rfl, rfl⟩ := Prod.mk.inj (pure_eq_ok.1 h)
  exact ⟨rfl, rfl, (Table.insert_ok hinsert).1, rfl, rfl, rfl⟩

/-- Issuing a number leaves the directory as it is. -/
theorem issueCovenanterNumber_db {member : Member} {issuedBy : Option Nat}
    {grant : CredentialGrant} (h : issueCovenanterNumber env s member issuedBy = .ok (s', grant)) :
    s'.db = s.db := by
  obtain ⟨templates, -, h⟩ := bind_eq_ok.1 h
  dsimp only at h
  split at h
  · cases h
  · split at h
    · obtain ⟨rfl, -⟩ := Prod.mk.inj (pure_eq_ok.1 h)
      rfl
    · exact (issueCredentialUnlocked_ok h).1

/-- What is granted with the validation is granted without it. -/
theorem createRoleAssignment_skipValidation {memberPk : Nat} {role : Role} {grantedBy : Option Nat}
    {startAt endAt : Option Nat} {sourceType : SourceType} {skipValidation : Bool}
    {r : RoleState rt × RoleAssignment} (h : createRoleAssignment env s memberPk role grantedBy
      startAt endAt sourceType skipValidation = .ok r) :
    createRoleAssignment env s memberPk role grantedBy startAt endAt sourceType true = .ok r := by
  cases skipValidation with
  | true => exact h
  | false =>
    unfold createRoleAssignment at h ⊢
    split at h
    · cases h
    · obtain ⟨hcatalog, h⟩ := rejectIf_bind_eq_ok.1 h
      obtain ⟨⟨⟩, -, h⟩ := bind_eq_ok.1 h
      exact rejectIf_bind_eq_ok.2 ⟨hcatalog, h⟩

/-- **Grants.** -/
theorem createRoleAssignment_ok {memberPk : Nat} {role : Role} {grantedBy : Option Nat}
    {startAt endAt : Option Nat} {sourceType : SourceType} {skipValidation : Bool}
    {a : RoleAssignment} (h : createRoleAssignment env s memberPk role grantedBy startAt endAt
      sourceType skipValidation = .ok (s', a)) :
    Assigned (expireAssignments s.db memberPk role.pk (startAt.getD env.now)) s'.db memberPk role.pk
      (startAt.getD env.now)
      (endAt.getD (defaultRoleAssignmentEndAt (startAt.getD env.now))) grantedBy sourceType a := by
  replace h := createRoleAssignment_skipValidation h
  unfold createRoleAssignment at h
  split at h
  · cases h
  · rename_i member hget
    obtain ⟨-, hpk⟩ := Table.get?_eq_some.1 hget
    obtain ⟨-, h⟩ := rejectIf_bind_eq_ok.1 h
    obtain ⟨⟨db, b⟩, hassign, hrest⟩ := bind_eq_ok.1 h
    rw [hpk] at hassign
    have hassigned := reuseOrCreate_ok hassign
    dsimp only at hrest
    split at hrest
    · obtain ⟨rfl, rfl⟩ := Prod.mk.inj (pure_eq_ok.1 hrest)
      exact hassigned
    · split at hrest
      · obtain ⟨⟨s₁, grant⟩, hissue, hrest⟩ := bind_eq_ok.1 hrest
        obtain ⟨rfl, rfl⟩ := Prod.mk.inj (pure_eq_ok.1 hrest)
        rw [issueCovenanterNumber_db hissue]
        exact hassigned
      · obtain ⟨rfl, rfl⟩ := Prod.mk.inj (pure_eq_ok.1 hrest)
        exact hassigned

/-- A grant leaves members and roles as they are. -/
theorem createRoleAssignment_members {memberPk : Nat} {role : Role} {grantedBy : Option Nat}
    {startAt endAt : Option Nat} {sourceType : SourceType} {skipValidation : Bool}
    {a : RoleAssignment} (h : createRoleAssignment env s memberPk role grantedBy startAt endAt
      sourceType skipValidation = .ok (s', a)) :
    s'.db.members = s.db.members ∧ s'.db.roles = s.db.roles := by
  cases createRoleAssignment_ok h with
  | reused mem current same =>
    rw [same]
    exact ⟨rfl, rfl⟩
  | created rows fresh free row window same => exact ⟨same.members, same.roles⟩

theorem revokeRoleAssignment_ok {assignmentPk : Nat} {revokedBy endAt : Option Nat}
    {a : RoleAssignment}
    (h : revokeRoleAssignment env s assignmentPk revokedBy endAt = .ok (s', a)) :
    SameSurroundings s.db s'.db ∧ a.status = .revoked ∧ s'.db.assignments.rows =
      s.db.assignments.rows.map fun b => if b.pk = assignmentPk
        then { b with status := .revoked, revokedBy := revokedBy, endAt := endAt.getD env.now }
        else b := by
  unfold revokeRoleAssignment at h
  split at h
  · cases h
  · obtain ⟨⟨⟩, -, h⟩ := bind_eq_ok.1 h
    obtain ⟨rfl, rfl⟩ := Prod.mk.inj (pure_eq_ok.1 h)
    exact ⟨⟨rfl, rfl, rfl, rfl, rfl, rfl⟩, rfl, rfl⟩

/-! ## Ended assignments -/

/-- The assignment was revoked or has expired. -/
def RoleAssignment.Ended (a : RoleAssignment) : Prop := a.status = .revoked ∨ a.status = .expired

theorem RoleAssignment.Ended.not_active {a : RoleAssignment} (h : a.Ended) : a.status ≠ .active := by
  rcases h with h | h <;> rw [h] <;> decide

/-- A grant leaves every row that is not active as it is. -/
theorem createRoleAssignment_keeps {memberPk : Nat} {role : Role} {grantedBy : Option Nat}
    {startAt endAt : Option Nat} {sourceType : SourceType} {skipValidation : Bool}
    {a b : RoleAssignment} (h : createRoleAssignment env s memberPk role grantedBy startAt endAt
      sourceType skipValidation = .ok (s', a)) (hb : b ∈ s.db.assignments.rows)
    (hactive : b.status ≠ .active) : b ∈ s'.db.assignments.rows := by
  have hkept : b ∈ (expireAssignments s.db memberPk role.pk
      (startAt.getD env.now)).assignments.rows := by
    rw [expireAssignments_rows]
    refine List.mem_map.2 ⟨b, hb, if_neg ?_⟩
    simp [elapsed, hactive]
  cases createRoleAssignment_ok h with
  | reused mem current same => rwa [same]
  | created rows => exact rows ▸ List.mem_append_left _ hkept

/-- Ended rows stay ended, row by row. -/
def StaysEnded (s s' : RoleState rt) : Prop :=
  ∀ a ∈ s.db.assignments.rows, a.Ended → ∃ a' ∈ s'.db.assignments.rows, a'.pk = a.pk ∧ a'.Ended

theorem StaysEnded.refl (s : RoleState rt) : StaysEnded s s := fun a ha h => ⟨a, ha, rfl, h⟩

theorem StaysEnded.trans {s₁ s₂ s₃ : RoleState rt} (h : StaysEnded s₁ s₂) (h' : StaysEnded s₂ s₃) :
    StaysEnded s₁ s₃ := by
  intro a ha hended
  obtain ⟨a₂, ha₂, hpk₂, hended₂⟩ := h a ha hended
  obtain ⟨a₃, ha₃, hpk₃, hended₃⟩ := h' a₂ ha₂ hended₂
  exact ⟨a₃, ha₃, hpk₃.trans hpk₂, hended₃⟩

theorem roleStep_staysEnded {c : RoleEnv × RoleChange} (h : roleStep s c = .ok s') :
    StaysEnded s s' := by
  obtain ⟨env, c⟩ := c
  cases c with
  | create member role grantedBy startAt endAt sourceType skipValidation =>
    obtain ⟨⟨s₁, a⟩, hcreate, h⟩ := bind_eq_ok.1 h
    obtain rfl := pure_eq_ok.1 h
    intro b hb hended
    exact ⟨b, createRoleAssignment_keeps hcreate hb hended.not_active, rfl, hended⟩
  | revoke assignment revokedBy endAt =>
    obtain ⟨⟨s₁, a⟩, hrevoke, h⟩ := bind_eq_ok.1 h
    obtain rfl := pure_eq_ok.1 h
    obtain ⟨-, -, hrows⟩ := revokeRoleAssignment_ok hrevoke
    intro b hb hended
    have hmem := List.mem_map_of_mem (f := fun b : RoleAssignment => if b.pk = assignment
      then { b with status := .revoked, revokedBy := revokedBy, endAt := endAt.getD env.now }
      else b) hb
    refine ⟨_, hrows ▸ hmem, ?_, ?_⟩
    · split <;> rfl
    · split
      · exact .inl rfl
      · exact hended
  | surroundings db =>
    obtain rfl := Except.ok.inj h
    exact StaysEnded.refl s

/-! ## The covenanter prerequisite -/

/-- Roles and permissions that ask for the covenanter qualification come with it. -/
structure CovenanterPrerequisite (db : Directory) : Prop where
  role : ∀ m ∈ db.members.rows, ∀ now t name definition,
    roleDefinitionForName name = some definition → definition.requiresCovenanter = true →
    memberHasRole db now m [name] (some t) = true → Covenanter db m t
  permission : ∀ m ∈ db.members.rows, ∀ now t code, permissionRequiresCovenanter code = true →
    legacyMemberHasPermission db now m code (some t) = true → Covenanter db m t

theorem covenanterPrerequisite (db : Directory) : CovenanterPrerequisite db where
  role := by
    intro m hm now t name definition hdef hreq h
    obtain ⟨-, -, hcov⟩ := (memberHasRole_iff hm hdef).1 h
    exact hcov hreq
  permission := by
    intro m hm now t code hreq h
    obtain ⟨-, hcov, -⟩ := (legacyMemberHasPermission_iff hm).1 h
    exact hcov hreq

/-- What a history of role assignments guarantees. -/
structure RoleHistory (s : RoleState rt) (cs : List (RoleEnv × RoleChange)) : Prop where
  /-- The prerequisite holds after every part of the history. -/
  prerequisite : ∀ before after, cs = before ++ after →
    CovenanterPrerequisite (runCalls roleStep s before).db
  /-- An ended assignment never becomes active again. -/
  ended : ∀ before after, cs = before ++ after →
    ∀ a ∈ (runCalls roleStep s before).db.assignments.rows, a.Ended →
    ∀ a' ∈ (runCalls roleStep s cs).db.assignments.rows, a'.pk = a.pk → a'.Ended
  /-- A grant does not touch it at all. -/
  create : ∀ before env member role grantedBy startAt endAt sourceType skipValidation after s' a,
    cs = before ++ (env, .create member role grantedBy startAt endAt sourceType skipValidation) ::
      after →
    createRoleAssignment env (runCalls roleStep s before) member role grantedBy startAt endAt
      sourceType skipValidation = .ok (s', a) →
    ∀ b ∈ (runCalls roleStep s before).db.assignments.rows, b.Ended → b ∈ s'.db.assignments.rows

/-- **Covenanter prerequisite over histories.** -/
theorem roleRun_history (s : RoleState rt) (cs : List (RoleEnv × RoleChange)) :
    RoleHistory s cs where
  prerequisite := fun _ _ _ => covenanterPrerequisite _
  ended := by
    rintro before after rfl a ha hended a' ha' hpk
    rw [runCalls_append] at ha'
    have heach : EachCall roleStep (fun _ _ => True) (runCalls roleStep s before) after :=
      EachCall.of_forall _ fun _ _ _ => trivial
    have hinv : ∀ (s : RoleState rt) c s', True → True → roleStep s c = .ok s' → True :=
      fun _ _ _ _ _ _ => trivial
    have hstays : StaysEnded (runCalls roleStep s before)
        (runCalls roleStep (runCalls roleStep s before) after) :=
      EachCall.rel (R := StaysEnded) StaysEnded.refl
        (fun _ _ _ => StaysEnded.trans) hinv
        (fun _ _ _ _ _ hstep => roleStep_staysEnded hstep) trivial heach
    obtain ⟨b, hb, hbpk, hbended⟩ := hstays a ha hended
    rwa [Table.eq_of_pk _ ha' hb (hpk.trans hbpk.symm)]
  create := by
    intro before env member role grantedBy startAt endAt sourceType skipValidation after s' a _
      hcreate b hb hended
    exact createRoleAssignment_keeps hcreate hb hended.not_active

end LiveOs.Roles
