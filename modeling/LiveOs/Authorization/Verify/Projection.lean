import LiveOs.Authorization.Projection
import LiveOs.Authorization.Verify.Rebuild
import LiveOs.Roles.Verify.Grants

/-!
# The incremental projection and the rebuild

Tuples are kept by member and role, assignments by row. A tuple that a rebuild yields is due to an
assignment in force; a step keeps the store complete as long as it neither lets an assignment come
into force that it does not project, nor deletes the tuples of one that stays in force.
-/

namespace LiveOs.Authorization

open Lib EventLedger Roles

variable {rt : Runtime} {db db' : Directory} {permissions : List RolePermissionRow}
  {now clock : Nat} {platform : Entity} {tuples store : List RelationTuple}

/-! ## Due tuples -/

/-- What a rebuild yields for an assignment to the role while it is in force. -/
def rebuiltTuples (db : Directory) (platform : Entity) (role : Role) (a : RoleAssignment) :
    List RelationTuple :=
  ((platformRelations.filter fun e => inCatalogOrganization db role && role.name = e.1).map fun e =>
      ⟨openfgaMemberUser a.member, e.2, platform⟩) ++
    if isAdministratorRole db role || isFinanceRole db role then
      [⟨openfgaMemberUser a.member, "assignee", openfgaRoleObject a.role⟩]
    else []

/-- An active assignment whose window contains the time. -/
structure InForce (a : RoleAssignment) (now : Nat) : Prop where
  active : a.status = .active
  covers : a.startAt ≤ now ∧ now < a.endAt

instance (a : RoleAssignment) (now : Nat) : Decidable (InForce a now) :=
  decidable_of_iff (a.status = .active ∧ a.startAt ≤ now ∧ now < a.endAt)
    ⟨fun h => ⟨h.1, h.2⟩, fun h => ⟨h.1, h.2⟩⟩

/-- A rebuild at the time yields the tuple because of the assignment. -/
structure Due (db : Directory) (now : Nat) (platform : Entity) (a : RoleAssignment)
    (t : RelationTuple) : Prop where
  mem : a ∈ db.assignments.rows
  inForce : InForce a now
  member : ∃ m ∈ db.members.rows, m.pk = a.member ∧ Covenanter db m now
  role : ∃ role ∈ db.roles.rows, role.pk = a.role ∧ role.status = .active ∧
    t ∈ rebuiltTuples db platform role a

theorem mem_rebuiltTuples {role : Role} {a : RoleAssignment} {t : RelationTuple} :
    t ∈ rebuiltTuples db platform role a ↔
      (∃ name relation, (name, relation) ∈ platformRelations ∧
        inCatalogOrganization db role = true ∧ role.name = name ∧
          t = ⟨openfgaMemberUser a.member, relation, platform⟩) ∨
      (isAdministratorRole db role = true ∨ isFinanceRole db role = true) ∧
        t = ⟨openfgaMemberUser a.member, "assignee", openfgaRoleObject a.role⟩ := by
  rw [rebuiltTuples, List.mem_append]
  refine or_congr ?_ ?_
  · simp only [List.mem_map, List.mem_filter, Bool.and_eq_true, decide_eq_true_eq]
    constructor
    · rintro ⟨⟨name, relation⟩, ⟨hknown, hcatalog, hname⟩, rfl⟩
      exact ⟨name, relation, hknown, hcatalog, hname, rfl⟩
    · rintro ⟨name, relation, hknown, hcatalog, hname, rfl⟩
      exact ⟨(name, relation), ⟨hknown, hcatalog, hname⟩, rfl⟩
  · rw [← Bool.or_eq_true]
    split
    · rename_i h
      simp [h]
    · rename_i h
      simp [h]

/-- The definitions of the three roles, with whether they ask for the covenanter qualification. -/
theorem platformRelations_definition {name relation : String}
    (h : (name, relation) ∈ platformRelations) :
    ∃ definition, roleDefinitionForName name = some definition ∧ definition.displayName = name ∧
      (definition.requiresCovenanter = false ↔ name = roleCovenanter) := by
  rcases mem_platformRelations.1 h with ⟨rfl, -⟩ | ⟨rfl, -⟩ | ⟨rfl, -⟩
  · exact ⟨⟨"covenanter", roleCovenanter, "通过守约者准入后取得的成员资格。", false⟩, by decide,
      rfl, by decide⟩
  · exact ⟨⟨"deliberator", roleDeliberator, "守约者主动申请、承担参与义务的一年期执衡职责。", true⟩,
      by decide, rfl, by decide⟩
  · exact ⟨⟨"administrator", roleAdministrator,
      "通过正常程序取得、只包含明确管理权限的独立职责。", true⟩, by decide, rfl, by decide⟩

/-- A catalogue role in force for a member, as a row. -/
theorem holdsRole_iff {m : Member} {name : String} : HoldsRole db m name now ↔
    ∃ a ∈ db.assignments.rows, a.member = m.pk ∧ InForce a now ∧ ∃ role ∈ db.roles.rows,
      role.pk = a.role ∧ role.status = .active ∧ inCatalogOrganization db role = true ∧
        role.name = name := by
  constructor
  · rintro ⟨a, h⟩
    obtain ⟨role, hrole, hpk, hname, hstatus, o, ho, hopk, hkey⟩ := h.role
    exact ⟨a, h.mem, h.member, ⟨h.active, h.covers⟩, role, hrole, hpk, hstatus,
      any_get?_eq_true.2 ⟨o, ho, hopk, decide_eq_true hkey⟩, hname⟩
  · rintro ⟨a, ha, hmember, hforce, role, hrole, hpk, hstatus, hcatalog, hname⟩
    obtain ⟨o, ho, hopk, hkey⟩ := any_get?_eq_true.1 hcatalog
    exact ⟨a, ha, hmember, hforce.active, hforce.covers, role, hrole, hpk, hname, hstatus, o, ho,
      hopk, of_decide_eq_true hkey⟩

/-- The role query on one of the three roles asks for the covenanter qualification. -/
theorem memberRoleFilter_platform {m : Member} {name relation : String}
    (hknown : (name, relation) ∈ platformRelations) (hm : m ∈ db.members.rows) :
    memberRoleFilter db now [name] (some now) m = true ↔
      HoldsRole db m name now ∧ Covenanter db m now := by
  obtain ⟨definition, hdef, -, hreq⟩ := platformRelations_definition hknown
  rw [memberRoleFilter_iff hm hdef]
  constructor
  · rintro ⟨hallows, hholds, hcov⟩
    refine ⟨hholds, ?_⟩
    by_cases hrequires : definition.requiresCovenanter = true
    · exact hcov hrequires
    · rw [hreq.1 (Bool.eq_false_iff.2 hrequires)] at hholds
      exact ⟨hallows, hholds⟩
  · rintro ⟨hholds, hcov⟩
    exact ⟨hcov.1, hholds, fun _ => hcov⟩

/-- **Due tuples.** What a rebuild yields for the kept relations is due to an assignment. -/
theorem yielded_due {t : RelationTuple} (h : Yielded rt db permissions now platform t)
    (hrelation : t.relation ∈ assignmentRelations) : ∃ a, Due db now platform a t := by
  cases h with
  | platform name relation known m mem holds =>
    obtain ⟨hholds, hcov⟩ := (memberRoleFilter_platform known mem).1 holds
    obtain ⟨a, ha, hmember, hforce, role, hrole, hpk, hstatus, hcatalog, hname⟩ :=
      holdsRole_iff.1 hholds
    exact ⟨a, ha, hforce, ⟨m, mem, hmember.symm, hcov⟩, role, hrole, hpk, hstatus,
      mem_rebuiltTuples.2 (.inl ⟨name, relation, known, hcatalog, hname, by rw [hmember]⟩)⟩
  | assignee a assigned =>
    obtain ⟨m, hm, hmpk, role, hrole, hpk, hstatus, hkind⟩ := assigned.holder
    refine ⟨a, assigned.mem, ⟨assigned.active, assigned.covers⟩, ?_, role, hrole, hpk, hstatus, ?_⟩
    · rcases hkind with ⟨hfilter, -⟩ | ⟨hfilter, -⟩
      · exact ⟨m, hm, hmpk, ((memberRoleFilter_platform (mem_platformRelations.2
          (.inr (.inr ⟨rfl, rfl⟩))) hm).1 hfilter).2⟩
      · exact ⟨m, hm, hmpk, (memberRoleFilter_covenanter hm).1 hfilter⟩
    · exact mem_rebuiltTuples.2 (.inr ⟨hkind.imp And.right And.right, rfl⟩)
  | frozen => simp [assignmentRelations] at hrelation
  | role => simp [assignmentRelations] at hrelation
  | guard => simp [assignmentRelations] at hrelation
  | qualified q mem tuple yields relation => simp [assignmentRelations, relation] at hrelation

/-- A rebuild yields what is due. -/
theorem Due.yielded {a : RoleAssignment} {t : RelationTuple} (h : Due db now platform a t) :
    Yielded rt db permissions now platform t := by
  obtain ⟨m, hm, hmpk, hcov⟩ := h.member
  obtain ⟨role, hrole, hpk, hstatus, ht⟩ := h.role
  have hholds : ∀ {name}, inCatalogOrganization db role = true → role.name = name →
      HoldsRole db m name now := fun hcatalog hname => holdsRole_iff.2 ⟨a, h.mem, hmpk.symm,
    h.inForce, role, hrole, hpk, hstatus, hcatalog, hname⟩
  rcases mem_rebuiltTuples.1 ht with ⟨name, relation, hknown, hcatalog, hname, rfl⟩ | ⟨hkind, rfl⟩
  · rw [← hmpk]
    exact .platform name relation hknown m hm
      ((memberRoleFilter_platform hknown hm).2 ⟨hholds hcatalog hname, hcov⟩)
  · refine .assignee a ⟨h.mem, h.inForce.active, h.inForce.covers, m, hm, hmpk, role, hrole, hpk,
      hstatus, ?_⟩
    rcases hkind with hadmin | hfinance
    · left
      obtain ⟨hcatalog, hname⟩ := Bool.and_eq_true_iff.1 hadmin
      exact ⟨(memberRoleFilter_platform (mem_platformRelations.2 (.inr (.inr ⟨rfl, rfl⟩))) hm).2
        ⟨hholds hcatalog (of_decide_eq_true hname), hcov⟩, hadmin⟩
    · exact .inr ⟨(memberRoleFilter_covenanter hm).2 hcov, hfinance⟩

/-- Everything due is in the store. -/
def AllStored (db : Directory) (now : Nat) (platform : Entity) (store : List RelationTuple) : Prop :=
  ∀ a t, Due db now platform a t → t ∈ store

theorem AllStored.complete {w : AuthorityState rt}
    (h : AllStored w.roles.db w.clock platform w.store) : Complete platform permissions w := by
  intro tuples htuples t ht hrelation
  obtain ⟨a, ha⟩ := yielded_due ((mem_project htuples).1 ht) hrelation
  exact h a t ha

theorem allStored_rebuild
    (h : projectAuthorizationTuples rt db permissions now platform = .ok tuples) :
    AllStored db now platform tuples :=
  fun _ _ ha => (mem_project h).2 ha.yielded

/-! ## The tuples of one assignment -/

theorem mem_deleteTuples {t : RelationTuple} :
    t ∈ deleteTuples store tuples ↔ t ∈ store ∧ t ∉ tuples := by
  simp [deleteTuples]

theorem mem_foldl_remove {expired : List RoleAssignment} {t : RelationTuple} :
    t ∈ expired.foldl (removeRoleAssignmentProjection db platform) store ↔
      t ∈ store ∧ ∀ e ∈ expired, t ∉ roleAssignmentTuples db platform e := by
  induction expired generalizing store with
  | nil => simp
  | cons e expired ih =>
    rw [List.foldl_cons, ih, removeRoleAssignmentProjection, mem_deleteTuples]
    simp only [List.forall_mem_cons, and_assoc]

theorem catalogRoleDefinition_eq_some {role : Role} {definition : RoleDefinition}
    (h : catalogRoleDefinitionForRole db role = some definition) :
    roleDefinitionForName role.name = some definition ∧ definition.displayName = role.name ∧
      inCatalogOrganization db role = true := by
  unfold catalogRoleDefinitionForRole at h
  split at h
  · cases h
  · rename_i d hdef
    split at h
    · rename_i horg
      obtain rfl := Option.some.inj h
      refine ⟨hdef, by simpa using List.find?_some hdef, ?_⟩
      obtain ⟨o, ho, hmatch⟩ := List.any_eq_true.1 horg
      simp only [Bool.and_eq_true, decide_eq_true_eq] at hmatch
      exact any_get?_eq_true.2 ⟨o, ho, hmatch.1.1.1, decide_eq_true hmatch.1.1.2⟩
    · cases h

theorem finance_definition {role : Role} (h : isFinanceRole db role = true) :
    roleDefinitionForName role.name = none := by
  obtain ⟨-, hname⟩ := Bool.and_eq_true_iff.1 h
  rw [List.contains_iff_mem, financeRoleNames] at hname
  simp only [List.mem_cons, List.not_mem_nil, or_false] at hname
  rcases hname with hname | hname | hname <;> rw [hname] <;> decide

/-- The projection writes what a rebuild yields, unless a finance role has no guarded permission. -/
theorem rebuilt_projected {role : Role} {a : RoleAssignment} {t : RelationTuple}
    (hget : db.roles.get? a.role = some role)
    (hcatalog : (roleDefinitionForName role.name).isSome →
      (catalogRoleDefinitionForRole db role).isSome)
    (hguarded : isFinanceRole db role = true → hasGuardedPermission db role = true)
    (ht : t ∈ rebuiltTuples db platform role a) : t ∈ roleAssignmentTuples db platform a := by
  unfold roleAssignmentTuples
  rw [hget]
  simp only
  rcases mem_rebuiltTuples.1 ht with ⟨name, relation, hknown, -, hname, rfl⟩ | ⟨hkind, rfl⟩
  · obtain ⟨definition, hdef, hdisplay, -⟩ := platformRelations_definition hknown
    obtain ⟨definition', hcat⟩ := Option.isSome_iff_exists.1
      (hcatalog (by rw [hname, hdef]; rfl))
    obtain ⟨hdef', hdisplay', -⟩ := catalogRoleDefinition_eq_some hcat
    rw [hcat]
    refine List.mem_append_left _ (List.mem_map.2 ⟨(name, relation), List.mem_filter.2
      ⟨hknown, ?_⟩, rfl⟩)
    rw [hdisplay', hname]
    exact decide_eq_true rfl
  · rcases hkind with hadmin | hfinance
    · obtain ⟨-, hname⟩ := Bool.and_eq_true_iff.1 hadmin
      have hname : role.name = roleAdministrator := of_decide_eq_true hname
      have hdefined : (roleDefinitionForName role.name).isSome := by
        rw [hname]
        decide
      obtain ⟨definition, hcat⟩ := Option.isSome_iff_exists.1 (hcatalog hdefined)
      obtain ⟨-, hdisplay, -⟩ := catalogRoleDefinition_eq_some hcat
      rw [hcat]
      refine List.mem_append_right _ ?_
      rw [if_pos (hdisplay.trans hname)]
      exact List.mem_singleton_self _
    · have hnone : catalogRoleDefinitionForRole db role = none := by
        unfold catalogRoleDefinitionForRole
        rw [finance_definition hfinance]
      rw [hnone]
      simp only
      rw [if_pos (hguarded hfinance)]
      exact List.mem_singleton_self _

theorem platformRelations_name {name name' relation : String}
    (h : (name, relation) ∈ platformRelations) (h' : (name', relation) ∈ platformRelations) :
    name = name' := by
  rcases mem_platformRelations.1 h with ⟨rfl, rfl⟩ | ⟨rfl, rfl⟩ | ⟨rfl, rfl⟩ <;>
    rcases mem_platformRelations.1 h' with ⟨rfl, hrel⟩ | ⟨rfl, hrel⟩ | ⟨rfl, hrel⟩ <;>
    first
      | rfl
      | exact absurd hrel (by decide)

theorem platformRelations_ne_assignee {name relation : String}
    (h : (name, relation) ∈ platformRelations) : relation ≠ "assignee" := by
  rcases mem_platformRelations.1 h with ⟨-, rfl⟩ | ⟨-, rfl⟩ | ⟨-, rfl⟩ <;> decide

/-- Two catalogue roles of one name are one role. -/
theorem catalogRole_unique {role role' : Role} (hrole : role ∈ db.roles.rows)
    (hrole' : role' ∈ db.roles.rows) (h : inCatalogOrganization db role = true)
    (h' : inCatalogOrganization db role' = true) (hname : role.name = role'.name) :
    role = role' := by
  obtain ⟨o, ho, hopk, hkey⟩ := any_get?_eq_true.1 h
  obtain ⟨o', ho', hopk', hkey'⟩ := any_get?_eq_true.1 h'
  obtain rfl := db.organizations.eq_of_alt ho ho' (of_decide_eq_true hkey) (of_decide_eq_true hkey')
  exact db.roles.eq_of_alt hrole hrole' rfl (by rw [← hopk, ← hopk', hname])

/-- A tuple fixes the member and the role that it comes from. -/
theorem tuple_owner {role : Role} {b e : RoleAssignment} {t : RelationTuple}
    (hrole : role ∈ db.roles.rows) (hpk : role.pk = b.role)
    (hb : t ∈ rebuiltTuples db platform role b) (he : t ∈ roleAssignmentTuples db platform e) :
    b.member = e.member ∧ b.role = e.role := by
  unfold roleAssignmentTuples at he
  simp only at he
  split at he
  · cases he
  · rename_i role' hget
    obtain ⟨hrole', hpk'⟩ := Table.get?_eq_some.1 hget
    have hassignee : t = ⟨openfgaMemberUser e.member, "assignee", openfgaRoleObject e.role⟩ →
        b.member = e.member ∧ b.role = e.role := by
      rintro rfl
      rcases mem_rebuiltTuples.1 hb with ⟨name, relation, hknown, -, -, heq⟩ | ⟨-, heq⟩
      · exact absurd (RelationTuple.mk.inj heq).2.1.symm (platformRelations_ne_assignee hknown)
      · obtain ⟨huser, -, hobject⟩ := RelationTuple.mk.inj heq
        exact ⟨(openfgaMemberUser_inj huser).symm, (openfgaRoleObject_inj hobject).symm⟩
    split at he
    · rename_i definition hcat
      obtain ⟨-, hdisplay, hcatalog'⟩ := catalogRoleDefinition_eq_some hcat
      rcases List.mem_append.1 he with he | he
      · obtain ⟨⟨name', relation'⟩, hmem, rfl⟩ := List.mem_map.1 he
        obtain ⟨hknown', hname'⟩ := List.mem_filter.1 hmem
        have hname' : name' = definition.displayName := of_decide_eq_true hname'
        rcases mem_rebuiltTuples.1 hb with ⟨name, relation, hknown, hcatalog, hname, heq⟩ | ⟨-, heq⟩
        · obtain ⟨huser, rfl, -⟩ := RelationTuple.mk.inj heq
          have hnames : role.name = role'.name := by
            rw [hname, platformRelations_name hknown hknown', hname', hdisplay]
          obtain rfl := catalogRole_unique hrole hrole' hcatalog hcatalog' hnames
          exact ⟨(openfgaMemberUser_inj huser).symm, hpk.symm.trans hpk'⟩
        · exact absurd (RelationTuple.mk.inj heq).2.1 (platformRelations_ne_assignee hknown')
      · split at he
        · exact hassignee (List.mem_singleton.1 he)
        · cases he
    · split at he
      · exact hassignee (List.mem_singleton.1 he)
      · cases he

/-! ## One step -/

/-- A grant that keeps the store complete. -/
structure CreateKept (db : Directory) (now : Nat) (platform : Entity) (store : List RelationTuple)
    (memberPk rolePk startsAt : Nat) : Prop where
  /-- No row is expired beside one that is reused. -/
  apart : (∃ e ∈ db.assignments.rows, elapsed memberPk rolePk startsAt e = true) →
    ∀ a ∈ db.assignments.rows, a.member = memberPk → a.role = rolePk → InForce a now →
      a.endAt ≤ startsAt
  /-- A finance role has a permission that the projection looks for. -/
  guarded : ∀ role ∈ db.roles.rows, role.pk = rolePk → isFinanceRole db role = true →
    hasGuardedPermission db role = true
  /-- Nothing of the member waits for the covenanter qualification. -/
  prerequisite : ∀ role ∈ db.roles.rows, role.pk = rolePk → inCatalogOrganization db role = true →
    role.name = roleCovenanter → ∀ a ∈ db.assignments.rows, a.member = memberPk → InForce a now →
      ∀ r ∈ db.roles.rows, r.pk = a.role → r.status = .active →
        ∀ t ∈ rebuiltTuples db platform r a, t ∈ store

/-- A revocation that keeps the store complete: the row's role has no other row in force. -/
def RevokeKept (db : Directory) (now assignmentPk : Nat) : Prop :=
  ∀ e ∈ db.assignments.rows, e.pk = assignmentPk → ∀ a ∈ db.assignments.rows,
    a.member = e.member → a.role = e.role → InForce a now → a.pk = assignmentPk

def ChangeKept (platform : Entity) (w : AuthorityState rt) (now : Nat) : AuthorityChange → Prop
  | .create member role _ startAt _ _ _ =>
    CreateKept w.roles.db now platform w.store member role (startAt.getD now)
  | .revoke assignment _ _ => RevokeKept w.roles.db now assignment

/-- A step that keeps the store complete. -/
structure StepKept (platform : Entity) (w : AuthorityState rt) (c : AuthorityCall) : Prop where
  /-- No assignment has begun since the last step. -/
  begun : ∀ a ∈ w.roles.db.assignments.rows, InForce a (w.clock + c.waited) → a.startAt ≤ w.clock
  change : ChangeKept platform w (w.clock + c.waited) c.change

/-- What is due was due as long as no assignment has begun. -/
theorem Due.earlier {a : RoleAssignment} {t : RelationTuple} (h : Due db now platform a t)
    (hle : clock ≤ now)
    (hbegun : ∀ b ∈ db.assignments.rows, InForce b now → b.startAt ≤ clock) :
    Due db clock platform a t := by
  have hforce : ∀ b ∈ db.assignments.rows, InForce b now → InForce b clock := fun b hb hnow =>
    ⟨hnow.active, hbegun b hb hnow, lt_of_le_of_lt hle hnow.covers.2⟩
  obtain ⟨m, hm, hmpk, hallows, hholds⟩ := h.member
  obtain ⟨b, hb, hmember, hb', hrole⟩ := holdsRole_iff.1 hholds
  exact ⟨h.mem, hforce a h.mem h.inForce,
    ⟨m, hm, hmpk, hallows, holdsRole_iff.2 ⟨b, hb, hmember, hforce b hb hb', hrole⟩⟩, h.role⟩

theorem rebuiltTuples_congr (h : SameSurroundings db db') {role : Role} {a : RoleAssignment} :
    rebuiltTuples db' platform role a = rebuiltTuples db platform role a := by
  unfold rebuiltTuples isAdministratorRole isFinanceRole inCatalogOrganization
  rw [h.organizations]

/-- A row that was there is due as before, or because of a new covenanter row of its member. -/
theorem Due.of_mem {a : RoleAssignment} {t : RelationTuple} (h : Due db' now platform a t)
    (hsame : SameSurroundings db db') (ha : a ∈ db.assignments.rows) : Due db now platform a t ∨
      ∃ c ∈ db'.assignments.rows, c ∉ db.assignments.rows ∧ c.member = a.member ∧ InForce c now ∧
        ∃ role ∈ db.roles.rows, role.pk = c.role ∧ inCatalogOrganization db role = true ∧
          role.name = roleCovenanter := by
  obtain ⟨m, hm, hmpk, hallows, hholds⟩ := h.member
  obtain ⟨role, hrole, hpk, hstatus, ht⟩ := h.role
  rw [hsame.members] at hm
  rw [hsame.roles] at hrole
  rw [rebuiltTuples_congr hsame] at ht
  obtain ⟨c, hc, hmember, hforce, covenanter, hcov, hcovpk, hcovstatus, hcatalog, hname⟩ :=
    holdsRole_iff.1 hholds
  rw [hsame.roles] at hcov
  unfold inCatalogOrganization at hcatalog
  rw [hsame.organizations] at hcatalog
  by_cases hold : c ∈ db.assignments.rows
  · exact .inl ⟨ha, h.inForce, ⟨m, hm, hmpk, hallows, holdsRole_iff.2 ⟨c, hold, hmember, hforce,
      covenanter, hcov, hcovpk, hcovstatus, hcatalog, hname⟩⟩, role, hrole, hpk, hstatus, ht⟩
  · exact .inr ⟨c, hc, hold, hmember.trans hmpk, hforce, covenanter, hcov, hcovpk, hcatalog, hname⟩

/-- Changed assignments make nothing due as long as no row comes into force. -/
theorem Due.of_rows {a : RoleAssignment} {t : RelationTuple} (h : Due db' now platform a t)
    (hsame : SameSurroundings db db')
    (hrows : ∀ b ∈ db'.assignments.rows, InForce b now → b ∈ db.assignments.rows) :
    Due db now platform a t := by
  rcases h.of_mem hsame (hrows a h.mem h.inForce) with hdue | ⟨c, hc, hnew, -, hforce, -⟩
  · exact hdue
  · exact absurd (hrows c hc hforce) hnew

/-- A due tuple survives the removal of other members' and roles' rows. -/
theorem Due.survives {a : RoleAssignment} {t : RelationTuple} (h : Due db now platform a t)
    {e : RoleAssignment} (he : t ∈ roleAssignmentTuples db platform e) :
    a.member = e.member ∧ a.role = e.role := by
  obtain ⟨role, hrole, hpk, -, ht⟩ := h.role
  exact tuple_owner hrole hpk ht he

/-- A due assignment is current. -/
theorem Due.current {a : RoleAssignment} {t : RelationTuple} (h : Due db now platform a t) :
    roleAssignmentIsCurrent db now a = true := by
  obtain ⟨m, hm, hmpk, hcov⟩ := h.member
  obtain ⟨role, hrole, hpk, hstatus, -⟩ := h.role
  have hheld : memberHasRole db now m [roleCovenanter] (some now) = true :=
    (memberHasRole_covenanter_at hm).2 hcov
  unfold roleAssignmentIsCurrent
  rw [Table.get?_eq_some.2 ⟨hrole, hpk⟩, Table.get?_eq_some.2 ⟨hm, hmpk⟩]
  simp [h.inForce.active, hstatus, h.inForce.covers.1, h.inForce.covers.2, hcov.1, hheld]

variable {env : RoleEnv} {s s' : RoleState rt} {store' : List RelationTuple}

/-- Whether a grant adds a row. -/
theorem currentAssignment_isNone {memberPk rolePk startsAt : Nat} :
    (currentAssignment db memberPk rolePk startsAt).isNone = true ↔
      ∀ b ∈ db.assignments.rows, b.member = memberPk → b.role = rolePk → b.status = .active →
        b.endAt ≤ startsAt := by
  cases h : currentAssignment db memberPk rolePk startsAt with
  | none => exact ⟨fun _ => currentAssignment_eq_none h, fun _ => rfl⟩
  | some a =>
    obtain ⟨ha, hmember, hrole, hactive, hends⟩ := currentAssignment_eq_some h
    simp only [Option.isNone_some, Bool.false_eq_true, false_iff]
    exact fun hall => absurd (hall a ha hmember hrole hactive) (not_le.2 hends)

/-- A built-in role is granted from the catalogue only. -/
theorem createRoleAssignment_catalog {memberPk : Nat} {role : Role} {grantedBy : Option Nat}
    {startAt endAt : Option Nat} {sourceType : SourceType} {skipValidation : Bool}
    {r : RoleState rt × RoleAssignment} (h : createRoleAssignment env s memberPk role grantedBy
      startAt endAt sourceType skipValidation = .ok r) :
    (roleDefinitionForName role.name).isSome →
      (catalogRoleDefinitionForRole s.db role).isSome := by
  intro hdefined
  unfold createRoleAssignment at h
  split at h
  · cases h
  · obtain ⟨hcatalog, -⟩ := rejectIf_bind_eq_ok.1 h
    simpa [hdefined, Option.isSome_iff_ne_none] using hcatalog

theorem sameSurroundings_expire {memberPk rolePk startsAt : Nat}
    (h : SameSurroundings (expireAssignments db memberPk rolePk startsAt) db') :
    SameSurroundings db db' :=
  ⟨h.members, h.organizations, h.roles, h.rolePermissions, h.domains, h.qualifications⟩

/-- The revoked row. -/
theorem revokeRoleAssignment_locked {assignmentPk : Nat} {revokedBy endAt : Option Nat}
    {a : RoleAssignment}
    (h : revokeRoleAssignment env s assignmentPk revokedBy endAt = .ok (s', a)) :
    ∃ locked ∈ s.db.assignments.rows, locked.pk = assignmentPk ∧ a.member = locked.member ∧
      a.role = locked.role := by
  unfold revokeRoleAssignment at h
  split at h
  · cases h
  · rename_i locked hget
    obtain ⟨hmem, hpk⟩ := Table.get?_eq_some.1 hget
    obtain ⟨⟨⟩, -, h⟩ := bind_eq_ok.1 h
    obtain ⟨-, rfl⟩ := Prod.mk.inj (pure_eq_ok.1 h)
    exact ⟨locked, hmem, hpk, rfl, rfl⟩

/-- What a grant does to the store. -/
theorem createProjected_ok {memberPk rolePk : Nat} {grantedBy startAt endAt : Option Nat}
    {sourceType : SourceType} {skipValidation : Bool} (h : createProjected env platform s store
      memberPk rolePk grantedBy startAt endAt sourceType skipValidation = .ok (s', store')) :
    ∃ role ∈ s.db.roles.rows, role.pk = rolePk ∧ ∃ a, createRoleAssignment env s memberPk role
      grantedBy startAt endAt sourceType skipValidation = .ok (s', a) ∧
    let left := (s.db.assignments.rows.filter
      (elapsed memberPk rolePk (startAt.getD env.now))).foldl
        (removeRoleAssignmentProjection s'.db platform) store
    store' = if (currentAssignment (expireAssignments s.db memberPk rolePk (startAt.getD env.now))
        memberPk rolePk (startAt.getD env.now)).isNone
      then projectRoleAssignment s'.db env.now platform left a else left := by
  unfold createProjected at h
  split at h
  · cases h
  · rename_i role hget
    obtain ⟨hrole, hpk⟩ := Table.get?_eq_some.1 hget
    obtain ⟨⟨s₁, a⟩, hcreate, h⟩ := bind_eq_ok.1 h
    obtain ⟨rfl, rfl⟩ := Prod.mk.inj (pure_eq_ok.1 h)
    exact ⟨role, hrole, hpk, a, hcreate, rfl⟩

/-- What stays in force is not elapsed. -/
theorem not_elapsed_of_mem {memberPk rolePk startsAt : Nat} {b : RoleAssignment}
    (hb : b ∈ (expireAssignments db memberPk rolePk startsAt).assignments.rows)
    (hforce : InForce b now) : b ∈ db.assignments.rows ∧
      (b.member = memberPk → b.role = rolePk → startsAt < b.endAt) := by
  obtain ⟨hmem, helapsed⟩ := (mem_expireAssignments hforce.active).1 hb
  exact ⟨hmem, fun hmember hrole =>
    (elapsed_eq_false ⟨hmember, hrole, hforce.active⟩).1 helapsed⟩

/-- What is due to a row that the removals left in force stays in the store. -/
theorem Due.stays {memberPk rolePk startsAt : Nat} {a : RoleAssignment} {t : RelationTuple}
    (h : Due db' now platform a t) (ht : t ∈ store)
    (hapart : ∀ e ∈ db.assignments.rows, elapsed memberPk rolePk startsAt e = true →
      a.member = memberPk → a.role = rolePk → False) :
    t ∈ (db.assignments.rows.filter (elapsed memberPk rolePk startsAt)).foldl
      (removeRoleAssignmentProjection db' platform) store := by
  refine mem_foldl_remove.2 ⟨ht, fun e he hte => ?_⟩
  obtain ⟨hmem, helapsed⟩ := List.mem_filter.1 he
  obtain ⟨hmember, hrole⟩ := h.survives hte
  have hpair : e.member = memberPk ∧ e.role = rolePk := by
    simp only [elapsed, Bool.and_eq_true, decide_eq_true_eq] at helapsed
    exact ⟨helapsed.1.1.1, helapsed.1.1.2⟩
  exact hapart e hmem helapsed (hmember.trans hpair.1) (hrole.trans hpair.2)

/-- **Grants.** -/
theorem createProjected_stored {memberPk rolePk : Nat} {grantedBy startAt endAt : Option Nat}
    {sourceType : SourceType} {skipValidation : Bool} (h : createProjected env platform s store
      memberPk rolePk grantedBy startAt endAt sourceType skipValidation = .ok (s', store'))
    (hall : AllStored s.db env.now platform store)
    (hkept : CreateKept s.db env.now platform store memberPk rolePk (startAt.getD env.now)) :
    AllStored s'.db env.now platform store' := by
  obtain ⟨role, hrole, rfl, a, hcreate, rfl⟩ := createProjected_ok h
  intro b t hdue
  cases createRoleAssignment_ok hcreate with
  | reused mem current same =>
    have hsome : ¬ (currentAssignment (expireAssignments s.db memberPk role.pk
        (startAt.getD env.now)) memberPk role.pk (startAt.getD env.now)).isNone = true := by
      intro hnone
      exact absurd (currentAssignment_isNone.1 hnone a mem current.1 current.2.1 current.2.2.1)
        (not_le.2 current.2.2.2)
    rw [if_neg hsome]
    have hb := hdue.mem
    rw [same] at hb
    obtain ⟨hb, hends⟩ := not_elapsed_of_mem hb hdue.inForce
    have hold : Due s.db env.now platform b t := by
      refine hdue.of_rows ?_ fun r hr hforce => ?_
      · rw [same]
        exact sameSurroundings_expire ⟨rfl, rfl, rfl, rfl, rfl, rfl⟩
      · rw [same] at hr
        exact (not_elapsed_of_mem hr hforce).1
    refine hdue.stays (hall b t hold) fun e he helapsed hmember hrole' => ?_
    exact absurd (hkept.apart ⟨e, he, helapsed⟩ b hb hmember hrole' hdue.inForce)
      (not_le.2 (hends hmember hrole'))
  | created rows fresh free row window same =>
    rw [if_pos (currentAssignment_isNone.2 free)]
    have hsame := sameSurroundings_expire same
    have hmem := hdue.mem
    rw [rows] at hmem
    rcases List.mem_append.1 hmem with hb | hb
    · -- An older row: no row of the new one's member and role stays in force.
      obtain ⟨hb', hends⟩ := not_elapsed_of_mem hb hdue.inForce
      have hother : b.member = memberPk → b.role = role.pk → False := fun hmember hrole' =>
        absurd (free b hb hmember hrole' hdue.inForce.active) (not_le.2 (hends hmember hrole'))
      have hstored : t ∈ store := by
        rcases hdue.of_mem hsame hb' with hold | ⟨c, hc, hnew, hmember, hforce, r, hr, hpk, hcatalog,
          hname⟩
        · exact hall b t hold
        · rw [rows] at hc
          rcases List.mem_append.1 hc with hc | hc
          · exact absurd (not_elapsed_of_mem hc hforce).1 hnew
          · obtain rfl := List.mem_singleton.1 hc
            obtain rfl := s.db.roles.eq_of_pk hr hrole (hpk.trans row.2.1)
            obtain ⟨q, hq, hqpk, hqstatus, ht⟩ := hdue.role
            rw [hsame.roles] at hq
            rw [rebuiltTuples_congr hsame] at ht
            exact hkept.prerequisite r hr rfl hcatalog hname b hb' (hmember.symm.trans row.1)
              hdue.inForce q hq hqpk hqstatus t ht
      have hleft : t ∈ (s.db.assignments.rows.filter
          (elapsed memberPk role.pk (startAt.getD env.now))).foldl
            (removeRoleAssignmentProjection s'.db platform) store :=
        hdue.stays hstored fun e _ _ => hother
      unfold projectRoleAssignment
      split
      · exact List.mem_append_left _ hleft
      · refine mem_deleteTuples.2 ⟨hleft, fun hta => ?_⟩
        obtain ⟨hmember, hrole'⟩ := hdue.survives hta
        exact hother (hmember.trans row.1) (hrole'.trans row.2.1)
    · obtain rfl := List.mem_singleton.1 hb
      obtain ⟨q, hq, hqpk, hqstatus, ht⟩ := hdue.role
      have hq' := hq
      rw [hsame.roles] at hq'
      obtain rfl := s.db.roles.eq_of_pk hq' hrole (hqpk.trans row.2.1)
      unfold projectRoleAssignment
      rw [if_pos hdue.current]
      refine List.mem_append_right _ (rebuilt_projected (Table.get?_eq_some.2 ⟨hq, hqpk⟩) ?_ ?_ ht)
      · unfold catalogRoleDefinitionForRole
        rw [hsame.organizations]
        exact createRoleAssignment_catalog hcreate
      · unfold isFinanceRole hasGuardedPermission
        rw [hsame.organizations, hsame.rolePermissions]
        exact hkept.guarded q hrole rfl

/-- **Revocations.** -/
theorem revokeProjected_stored {assignmentPk : Nat} {revokedBy endAt : Option Nat}
    (h : revokeProjected env platform s store assignmentPk revokedBy endAt = .ok (s', store'))
    (hall : AllStored s.db env.now platform store)
    (hkept : RevokeKept s.db env.now assignmentPk) : AllStored s'.db env.now platform store' := by
  obtain ⟨⟨s₁, e⟩, hrevoke, h⟩ := bind_eq_ok.1 h
  obtain ⟨rfl, rfl⟩ := Prod.mk.inj (pure_eq_ok.1 h)
  obtain ⟨hsame, -, hrows⟩ := revokeRoleAssignment_ok hrevoke
  obtain ⟨locked, hlocked, hpk, hmember, hrole⟩ := revokeRoleAssignment_locked hrevoke
  intro b t hdue
  have hold : ∀ r ∈ s₁.db.assignments.rows, InForce r env.now →
      r ∈ s.db.assignments.rows ∧ r.pk ≠ assignmentPk := by
    intro r hr hforce
    rw [hrows] at hr
    obtain ⟨q, hq, rfl⟩ := List.mem_map.1 hr
    by_cases hqpk : q.pk = assignmentPk
    · rw [if_pos hqpk] at hforce
      exact absurd hforce.active (by simp)
    · rw [if_neg hqpk]
      exact ⟨hq, hqpk⟩
  have hstored := hall b t (hdue.of_rows hsame fun r hr hforce => (hold r hr hforce).1)
  refine mem_deleteTuples.2 ⟨hstored, fun hte => ?_⟩
  obtain ⟨hb, hne⟩ := hold b hdue.mem hdue.inForce
  obtain ⟨hmember', hrole'⟩ := hdue.survives hte
  exact hne (hkept locked hlocked hpk b hb (hmember'.trans hmember) (hrole'.trans hrole)
    hdue.inForce)

/-- **Steps.** A step that meets the conditions keeps everything due in the store. -/
theorem authorityStep_stored {w w' : AuthorityState rt} {c : AuthorityCall}
    (hall : AllStored w.roles.db w.clock platform w.store) (hkept : StepKept platform w c)
    (h : authorityStep platform w c = .ok w') :
    AllStored w'.roles.db w'.clock platform w'.store := by
  have hnow : AllStored w.roles.db (w.clock + c.waited) platform w.store := fun b t hdue =>
    hall b t (hdue.earlier (Nat.le_add_right _ _) hkept.begun)
  unfold authorityStep at h
  split at h
  · rename_i roles store hrun
    obtain rfl := Except.ok.inj h
    obtain ⟨waited, grantUuid, change⟩ := c
    cases change with
    | create => exact createProjected_stored hrun hnow hkept.change
    | revoke => exact revokeProjected_stored hrun hnow hkept.change
  · obtain rfl := Except.ok.inj h
    exact hnow

/-- **Runs.** From the tuples of a rebuild, a run of grants and revocations whose steps meet the
conditions leaves every tuple of the kept relations that a rebuild would yield in the store. -/
theorem authorityRun_complete (platform : Entity) (permissions : List RolePermissionRow)
    (w₀ : AuthorityState rt) (hrebuild : projectAuthorizationTuples rt w₀.roles.db permissions
      w₀.clock platform = .ok w₀.store) (cs : List AuthorityCall)
    (hcs : EachCall (authorityStep platform) (StepKept platform) w₀ cs) :
    Complete platform permissions (runCalls (authorityStep platform) w₀ cs) := by
  have hstep : ∀ (w : AuthorityState rt) c w', AllStored w.roles.db w.clock platform w.store →
      StepKept platform w c → authorityStep platform w c = .ok w' →
      AllStored w'.roles.db w'.clock platform w'.store :=
    fun _ _ _ hall hkept h => authorityStep_stored hall hkept h
  exact AllStored.complete (hcs.invariant hstep (allStored_rebuild hrebuild))

/-! ## A second term -/

def renewed : Member := ⟨111, "m-111", none, "", .active, []⟩

/-- The first term has expired, the second one is in force. -/
def renewedAssignments : List RoleAssignment := [
  ⟨114, 111, 113, .expired, 0, 10, none, none, .direct⟩,
  ⟨115, 111, 113, .active, 10, 1000, none, none, .direct⟩]

theorem renewedAssignments_keys : (renewedAssignments.map RoleAssignment.pk).Nodup := by
  decide

def renewedState : AuthorityState textRuntime where
  roles := {
    db := {
      members := ⟨[renewed], List.nodup_singleton _, List.nodup_singleton _⟩
      organizations := ⟨[⟨112, roleCatalogOrganizationName, some roleCatalogOrganizationKey, .active⟩],
        List.nodup_singleton _, List.nodup_singleton _⟩
      roles := ⟨[⟨113, 112, roleCovenanter, "", .active⟩], List.nodup_singleton _,
        List.nodup_singleton _⟩
      assignments := ⟨renewedAssignments, renewedAssignments_keys, List.nodup_nil⟩
      rolePermissions := []
      domains := Table.empty
      qualifications := Table.empty }
    templates := Table.empty
    grants := Table.empty
    events := Journal.empty }
  store := [⟨openfgaMemberUser 111, "covenanter", platformObject "sim"⟩]
  clock := 20

/-- Revoking the first term deletes the tuple that the second one is due. -/
theorem firstTermRevoked_incomplete : ¬ ∀ (platform : Entity) (permissions : List RolePermissionRow)
    (w₀ : AuthorityState textRuntime), projectAuthorizationTuples textRuntime w₀.roles.db permissions
      w₀.clock platform = .ok w₀.store → ∀ cs : List AuthorityCall,
    Complete platform permissions (runCalls (authorityStep platform) w₀ cs) := by
  intro hclaim
  have hcomplete := hclaim (platformObject "sim") [] renewedState rfl
    [⟨0, "g-1", .revoke 114 none none⟩]
  have hmem := hcomplete _ rfl ⟨openfgaMemberUser 111, "covenanter", platformObject "sim"⟩
    (by decide) (by decide)
  exact absurd hmem (by decide)

/-- The second term is granted again, and then revoked. -/
def renewedCalls : List AuthorityCall :=
  [⟨5, "g-1", .create 111 113 none none (some 100) .direct false⟩, ⟨5, "g-2", .revoke 115 none none⟩]

theorem renewedCalls_complete : Complete (platformObject "sim") []
    (runCalls (authorityStep (platformObject "sim")) renewedState renewedCalls) := by
  refine authorityRun_complete (platformObject "sim") [] renewedState rfl renewedCalls
    ⟨⟨by decide, ?_⟩, ⟨by decide +kernel, ?_⟩, trivial⟩
  · exact ⟨by decide, by decide, by decide⟩
  · show RevokeKept _ _ _
    unfold RevokeKept
    decide +kernel

end LiveOs.Authorization
