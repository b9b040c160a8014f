import LiveOs.Roles.Queries

/-!
# What the role queries mean

A catalogue role is in force for a member through one assignment row; every query of roles,
permissions and qualifications says so of the same rows. The two list queries leave that meaning in
one place each: the time of the covenanter test, and the row that is still open.
-/

namespace LiveOs.Roles

open Lib

variable {db : Directory} {now t : Nat} {m : Member}

/-! ## Roles in force -/

/-- An active assignment gives the member the active catalogue role at the time. -/
structure CatalogAssignment (db : Directory) (m : Member) (roleName : String) (t : Nat)
    (a : RoleAssignment) : Prop where
  mem : a ∈ db.assignments.rows
  member : a.member = m.pk
  active : a.status = .active
  covers : a.startAt ≤ t ∧ t < a.endAt
  role : ∃ role ∈ db.roles.rows, role.pk = a.role ∧ role.name = roleName ∧ role.status = .active ∧
    ∃ o ∈ db.organizations.rows, o.pk = role.organization ∧
      o.roleCatalogKey = some roleCatalogOrganizationKey

/-- The member holds the catalogue role at the time. -/
def HoldsRole (db : Directory) (m : Member) (roleName : String) (t : Nat) : Prop :=
  ∃ a, CatalogAssignment db m roleName t a

/-- The covenanter qualification of the member is in force at the time. -/
def Covenanter (db : Directory) (m : Member) (t : Nat) : Prop :=
  memberAllowsRoleFacts m = true ∧ HoldsRole db m roleCovenanter t

theorem RoleAssignment.covers_iff {a : RoleAssignment} :
    a.covers t = true ↔ a.startAt ≤ t ∧ t < a.endAt := by
  simp [RoleAssignment.covers]

/-- The status and account conditions of the queries are `member_allows_role_facts`. -/
theorem allows_eq (m : Member) :
    (m.status.isRoleFact && m.accountActive) = memberAllowsRoleFacts m := by
  unfold memberAllowsRoleFacts Member.accountActive
  cases m.status.isRoleFact <;> cases m.user <;> rfl

theorem any_get?_eq_true {ρ κ α : Type} [DecidableEq κ] {pk : ρ → κ} {alt : ρ → Option α}
    {table : Table ρ κ α pk alt} {key : κ} {p : ρ → Bool} :
    (table.get? key).any p = true ↔ ∃ r ∈ table.rows, pk r = key ∧ p r = true := by
  constructor
  · intro h
    obtain ⟨r, hr, hp⟩ := (Option.any_eq_true _ _).1 h
    obtain ⟨mem, hkey⟩ := Table.get?_eq_some.1 hr
    exact ⟨r, mem, hkey, hp⟩
  · rintro ⟨r, mem, hkey, hp⟩
    exact (Option.any_eq_true _ _).2 ⟨r, Table.get?_eq_some.2 ⟨mem, hkey⟩, hp⟩

theorem currentCatalogRoleFilter_iff {names : List String} :
    currentCatalogRoleFilter db names t m = true ↔
      memberAllowsRoleFacts m = true ∧ ∃ name ∈ names, HoldsRole db m name t := by
  rw [currentCatalogRoleFilter, allows_eq, Bool.and_eq_true, List.any_eq_true]
  refine and_congr_right fun _ => ?_
  constructor
  · rintro ⟨a, mem, h⟩
    obtain ⟨hmember, h⟩ := Bool.and_eq_true_iff.1 h
    obtain ⟨role, hrole, hpk, h⟩ := any_get?_eq_true.1 h
    simp only [Bool.and_eq_true, decide_eq_true_eq, List.contains_iff_mem] at h
    obtain ⟨⟨⟨⟨horg, hname⟩, hactive⟩, hrstatus⟩, hcovers⟩ := h
    obtain ⟨o, ho, hopk, hkey⟩ := any_get?_eq_true.1 horg
    exact ⟨role.name, hname, a, mem, of_decide_eq_true hmember, hactive,
      RoleAssignment.covers_iff.1 hcovers, role, hrole, hpk, rfl, hrstatus, o, ho, hopk,
      of_decide_eq_true hkey⟩
  · rintro ⟨name, hname, a, h⟩
    obtain ⟨role, hrole, hpk, rfl, hrstatus, o, ho, hopk, hkey⟩ := h.role
    refine ⟨a, h.mem, ?_⟩
    rw [Bool.and_eq_true]
    refine ⟨decide_eq_true h.member, any_get?_eq_true.2 ⟨role, hrole, hpk, ?_⟩⟩
    simp only [Bool.and_eq_true, decide_eq_true_eq, List.contains_iff_mem]
    exact ⟨⟨⟨⟨any_get?_eq_true.2 ⟨o, ho, hopk, decide_eq_true hkey⟩, hname⟩, h.active⟩, hrstatus⟩,
      RoleAssignment.covers_iff.2 h.covers⟩

/-- `pk__in` of a query over the members says of a stored member what the query says of its row. -/
theorem contains_pk_iff {p : Member → Bool} (hm : m ∈ db.members.rows) :
    ((db.members.rows.filter p).map Member.pk).contains m.pk = true ↔ p m = true := by
  rw [List.contains_iff_mem, List.mem_map]
  constructor
  · rintro ⟨row, hrow, hpk⟩
    obtain ⟨hmem, hp⟩ := List.mem_filter.1 hrow
    rwa [db.members.eq_of_pk hmem hm hpk] at hp
  · intro hp
    exact ⟨m, List.mem_filter.2 ⟨hm, hp⟩, rfl⟩

/-- A role that may be asked for. -/
theorem memberRoleFilter_iff {name : String} {definition : RoleDefinition}
    {checkedAt : Option Nat} (hm : m ∈ db.members.rows)
    (hdef : roleDefinitionForName name = some definition) :
    memberRoleFilter db now [name] checkedAt m = true ↔ memberAllowsRoleFacts m = true ∧
      HoldsRole db m name (checkedAt.getD now) ∧
      (definition.requiresCovenanter = true → Covenanter db m (checkedAt.getD now)) := by
  have hone : currentCatalogRoleFilter db [name] (checkedAt.getD now) m = true ↔
      memberAllowsRoleFacts m = true ∧ HoldsRole db m name (checkedAt.getD now) := by
    rw [currentCatalogRoleFilter_iff]
    simp only [List.mem_singleton, exists_eq_left]
  simp only [memberRoleFilter, List.isEmpty_cons, List.any_cons, List.any_nil, hdef,
    Option.isNone_some, Bool.or_false, Option.any_some]
  rw [if_neg Bool.false_ne_true]
  by_cases hreq : definition.requiresCovenanter = true
  · rw [if_pos hreq, Bool.and_eq_true, contains_pk_iff hm, hone, currentCatalogRoleFilter_iff]
    simp only [hreq, List.mem_singleton, exists_eq_left, true_imp_iff, Covenanter, and_assoc]
  · rw [if_neg hreq, hone]
    simp only [hreq, Bool.false_eq_true, false_imp_iff, and_true]

theorem covenanter_definition : ∃ definition, roleDefinitionForName roleCovenanter = some definition ∧
    definition.requiresCovenanter = false :=
  ⟨⟨"covenanter", roleCovenanter, "通过守约者准入后取得的成员资格。", false⟩, by decide, rfl⟩

theorem memberRoleFilter_covenanter {checkedAt : Option Nat} (hm : m ∈ db.members.rows) :
    memberRoleFilter db now [roleCovenanter] checkedAt m = true ↔
      Covenanter db m (checkedAt.getD now) := by
  obtain ⟨definition, hdef, hreq⟩ := covenanter_definition
  rw [memberRoleFilter_iff hm hdef]
  simp only [hreq, Bool.false_eq_true, false_imp_iff, and_true, Covenanter]

theorem mem_roleNames {name : String} {definition : RoleDefinition}
    (hdef : roleDefinitionForName name = some definition) :
    name ∈ (roleDefinitions.map RoleDefinition.displayName).insertionSort fun a b => a ≤ b := by
  rw [List.mem_insertionSort, List.mem_map]
  refine ⟨definition, List.mem_of_find?_eq_some hdef, ?_⟩
  simpa using List.find?_some hdef

/-- **Roles in force.** The role query holds exactly when the role and, where the catalogue asks for
it, the covenanter qualification are in force. -/
theorem memberHasRole_iff {name : String} {definition : RoleDefinition} {checkedAt : Option Nat}
    (hm : m ∈ db.members.rows) (hdef : roleDefinitionForName name = some definition) :
    memberHasRole db now m [name] checkedAt = true ↔ memberAllowsRoleFacts m = true ∧
      HoldsRole db m name (checkedAt.getD now) ∧
      (definition.requiresCovenanter = true → Covenanter db m (checkedAt.getD now)) := by
  have hrow : (db.members.rows.any fun row =>
      row.pk = m.pk && memberRoleFilter db now [name] checkedAt row) = true ↔
      memberRoleFilter db now [name] checkedAt m = true := by
    rw [List.any_eq_true]
    constructor
    · rintro ⟨row, mem, h⟩
      obtain ⟨hpk, h⟩ := Bool.and_eq_true_iff.1 h
      rwa [db.members.eq_of_pk mem hm (of_decide_eq_true hpk)] at h
    · intro h
      exact ⟨m, hm, Bool.and_eq_true_iff.2 ⟨decide_eq_true rfl, h⟩⟩
  rw [← memberRoleFilter_iff hm hdef, ← hrow]
  simp only [memberHasRole, activeMemberRoleNames, List.isEmpty_cons, List.any_cons, List.any_nil,
    hdef, Option.isNone_some, Bool.or_false]
  rw [if_neg Bool.false_ne_true]
  by_cases hallows : memberAllowsRoleFacts m = true
  · simp only [hallows, Bool.not_true, Bool.false_eq_true, if_false]
    rw [List.any_eq_true]
    constructor
    · rintro ⟨name', hmem, hname⟩
      obtain rfl := List.mem_singleton.1 (List.contains_iff_mem.1 hname)
      exact (List.mem_filter.1 hmem).2
    · intro h
      exact ⟨name, List.mem_filter.2 ⟨mem_roleNames hdef, h⟩, by simp⟩
  · have hfilter : ¬ memberRoleFilter db now [name] checkedAt m = true := by
      rw [memberRoleFilter_iff hm hdef]
      exact fun h => hallows h.1
    rw [if_pos (by simpa using hallows), hrow]
    simp [hfilter]

theorem memberHasRole_covenanter {checkedAt : Option Nat} (hm : m ∈ db.members.rows) :
    memberHasRole db now m [roleCovenanter] checkedAt = true ↔
      Covenanter db m (checkedAt.getD now) := by
  obtain ⟨definition, hdef, hreq⟩ := covenanter_definition
  rw [memberHasRole_iff hm hdef]
  simp only [hreq, Bool.false_eq_true, false_imp_iff, and_true, Covenanter]

theorem memberHasRole_covenanter_at (hm : m ∈ db.members.rows) :
    memberHasRole db now m [roleCovenanter] (some t) = true ↔ Covenanter db m t :=
  memberHasRole_covenanter hm

/-- Only catalogue roles can be held. -/
theorem memberHasRole_defined {name : String} {checkedAt : Option Nat}
    (h : memberHasRole db now m [name] checkedAt = true) :
    ∃ definition, roleDefinitionForName name = some definition := by
  cases hdef : roleDefinitionForName name with
  | some definition => exact ⟨definition, rfl⟩
  | none =>
    simp [memberHasRole, hdef] at h

end LiveOs.Roles
