import LiveOs.Authorization.Rebuild
import LiveOs.Lib.JsonText
import LiveOs.Roles.Verify.Permissions

/-!
# A rebuild decides like Django

What each of the seven loops yields, as one relation, and from it both halves of the agreement: no
permission that Django grants through an administrator or finance role is lost in the store, and the
store grants none that Django does not.
-/

namespace LiveOs.Authorization

open Lib EventLedger Roles

variable {rt : Runtime} {db : Directory} {permissions : List RolePermissionRow} {now : Nat}
  {platform : Entity} {tuples : List RelationTuple}

/-! ## What is yielded -/

/-- The assignment gives its member an assignee tuple. -/
structure AssigneeOf (db : Directory) (now : Nat) (a : RoleAssignment) : Prop where
  mem : a ∈ db.assignments.rows
  active : a.status = .active
  covers : a.startAt ≤ now ∧ now < a.endAt
  holder : ∃ m ∈ db.members.rows, m.pk = a.member ∧ ∃ role ∈ db.roles.rows, role.pk = a.role ∧
    role.status = .active ∧
    (memberRoleFilter db now [roleAdministrator] (some now) m = true ∧
        isAdministratorRole db role = true ∨
      memberRoleFilter db now [roleCovenanter] (some now) m = true ∧ isFinanceRole db role = true)

/-- The role permission is projected. -/
structure ProjectedPermission (db : Directory) (permissions : List RolePermissionRow)
    (rp : RolePermissionRow) : Prop where
  mem : rp ∈ permissions
  role : ∃ role ∈ db.roles.rows, role.pk = rp.grant.role ∧ role.status = .active ∧
    (isAdministratorRole db role = true ∨
      isFinanceRole db role = true ∧
        "finance.".toList.isPrefixOf rp.grant.permissionCode.toList = true)

/-- What the loops yield. -/
inductive Yielded (rt : Runtime) (db : Directory) (permissions : List RolePermissionRow) (now : Nat)
    (platform : Entity) : RelationTuple → Prop
  | platform (name relation : String) (known : (name, relation) ∈ platformRelations) (m : Member)
      (mem : m ∈ db.members.rows) (holds : memberRoleFilter db now [name] (some now) m = true) :
      Yielded rt db permissions now platform ⟨openfgaMemberUser m.pk, relation, platform⟩
  | frozen (m : Member) (mem : m ∈ db.members.rows) (frozen : isFrozenMember m = true) :
      Yielded rt db permissions now platform ⟨openfgaMemberUser m.pk, "frozen_member", platform⟩
  | assignee (a : RoleAssignment) (assigned : AssigneeOf db now a) :
      Yielded rt db permissions now platform
        ⟨openfgaMemberUser a.member, "assignee", openfgaRoleObject a.role⟩
  | role (rp : RolePermissionRow) (projected : ProjectedPermission db permissions rp)
      (objects : List Entity) (ok : permissionObjectsForRolePermission rt rp = .ok objects)
      (object : Entity) (mem : object ∈ objects) :
      Yielded rt db permissions now platform
        ⟨openfgaRoleObject rp.grant.role, "role", object⟩
  | guard (rp : RolePermissionRow) (projected : ProjectedPermission db permissions rp)
      (objects : List Entity) (ok : permissionObjectsForRolePermission rt rp = .ok objects)
      (object : Entity) (mem : object ∈ objects)
      (guarded : permissionRequiresCovenanter rp.grant.permissionCode = true) :
      Yielded rt db permissions now platform ⟨platform, "platform", object⟩
  | qualified (q : MemberProfessionalQualification) (mem : q ∈ db.qualifications.rows)
      (tuple : RelationTuple) (yields : tuple ∈ qualifiedTuples db now)
      (relation : tuple.relation = "qualified_member") :
      Yielded rt db permissions now platform tuple

theorem mem_platformTuples {t : RelationTuple} : t ∈ platformTuples db now platform ↔
    ∃ name relation, (name, relation) ∈ platformRelations ∧ ∃ m ∈ db.members.rows,
      memberRoleFilter db now [name] (some now) m = true ∧
        t = ⟨openfgaMemberUser m.pk, relation, platform⟩ := by
  simp only [platformTuples, List.mem_flatMap, List.mem_map, List.mem_filter]
  constructor
  · rintro ⟨⟨name, relation⟩, hknown, m, ⟨hm, hfilter⟩, rfl⟩
    exact ⟨name, relation, hknown, m, hm, hfilter, rfl⟩
  · rintro ⟨name, relation, hknown, m, hm, hfilter, rfl⟩
    exact ⟨(name, relation), hknown, m, ⟨hm, hfilter⟩, rfl⟩

theorem mem_assigneeTuples {holderRole : String} {ofRole : Role → Bool} {t : RelationTuple} :
    t ∈ assigneeTuples db now holderRole ofRole ↔ ∃ a ∈ db.assignments.rows, a.status = .active ∧
      (a.startAt ≤ now ∧ now < a.endAt) ∧
      (∃ m ∈ db.members.rows, m.pk = a.member ∧
        memberRoleFilter db now [holderRole] (some now) m = true) ∧
      (∃ role ∈ db.roles.rows, role.pk = a.role ∧ role.status = .active ∧ ofRole role = true) ∧
      t = ⟨openfgaMemberUser a.member, "assignee", openfgaRoleObject a.role⟩ := by
  simp only [assigneeTuples, List.mem_map, List.mem_filter, Bool.and_eq_true, any_get?_eq_true,
    decide_eq_true_eq, RoleAssignment.covers_iff]
  constructor
  · rintro ⟨a, ⟨ha, ⟨⟨hmember, hactive⟩, hrole⟩, hcovers⟩, rfl⟩
    exact ⟨a, ha, hactive, hcovers, hmember, hrole, rfl⟩
  · rintro ⟨a, ha, hactive, hcovers, hmember, hrole, rfl⟩
    exact ⟨a, ⟨ha, ⟨⟨hmember, hactive⟩, hrole⟩, hcovers⟩, rfl⟩

theorem mem_permissionTuples {rps : List RolePermissionRow}
    (h : permissionTuples rt platform rps = .ok tuples) {t : RelationTuple} :
    t ∈ tuples ↔ ∃ rp ∈ rps, ∃ objects, permissionObjectsForRolePermission rt rp = .ok objects ∧
      ∃ object ∈ objects, t = ⟨openfgaRoleObject rp.grant.role, "role", object⟩ ∨
        permissionRequiresCovenanter rp.grant.permissionCode = true ∧
          t = ⟨platform, "platform", object⟩ := by
  induction rps generalizing tuples with
  | nil =>
    obtain rfl := Except.ok.inj h
    simp
  | cons rp rps ih =>
    obtain ⟨first, hfirst, h⟩ := bind_eq_ok.1 h
    obtain ⟨rest, hrest, h⟩ := bind_eq_ok.1 h
    obtain rfl := pure_eq_ok.1 h
    obtain ⟨objects, hobjects, hfirst⟩ := bind_eq_ok.1 hfirst
    obtain rfl := pure_eq_ok.1 hfirst
    rw [List.mem_append, ih hrest, List.mem_flatMap]
    constructor
    · rintro (⟨object, hobject, ht⟩ | ⟨rp', hrp', hrest'⟩)
      · refine ⟨rp, List.mem_cons_self, objects, hobjects, object, hobject, ?_⟩
        rcases List.mem_cons.1 ht with rfl | ht
        · exact .inl rfl
        · split at ht
          · rename_i hguarded
            exact .inr ⟨hguarded, List.mem_singleton.1 ht⟩
          · cases ht
      · exact ⟨rp', List.mem_cons_of_mem _ hrp', hrest'⟩
    · rintro ⟨rp', hrp', objects', hobjects', object, hobject, ht⟩
      rcases List.mem_cons.1 hrp' with rfl | hrp'
      · obtain rfl := Except.ok.inj (hobjects.symm.trans hobjects')
        refine .inl ⟨object, hobject, ?_⟩
        rcases ht with rfl | ⟨hguarded, rfl⟩
        · exact List.mem_cons_self
        · rw [if_pos hguarded]
          exact List.mem_cons_of_mem _ List.mem_cons_self
      · exact .inr ⟨rp', hrp', objects', hobjects', object, hobject, ht⟩

theorem mem_administratorPermissions {rp : RolePermissionRow} :
    rp ∈ administratorPermissions db permissions ∨ rp ∈ financePermissions db permissions ↔
      ProjectedPermission db permissions rp := by
  simp only [administratorPermissions, financePermissions, List.mem_filter, Bool.and_eq_true,
    any_get?_eq_true, decide_eq_true_eq]
  constructor
  · rintro (⟨hmem, role, hrole, hpk, hadmin, hactive⟩ |
      ⟨hmem, ⟨role, hrole, hpk, hfinance, hactive⟩, hcode⟩)
    · exact ⟨hmem, role, hrole, hpk, hactive, .inl hadmin⟩
    · exact ⟨hmem, role, hrole, hpk, hactive, .inr ⟨hfinance, hcode⟩⟩
  · rintro ⟨hmem, role, hrole, hpk, hactive, hadmin | ⟨hfinance, hcode⟩⟩
    · exact .inl ⟨hmem, role, hrole, hpk, hadmin, hactive⟩
    · exact .inr ⟨hmem, ⟨role, hrole, hpk, hfinance, hactive⟩, hcode⟩

/-- **The tuples of a rebuild.** -/
theorem mem_project (h : projectAuthorizationTuples rt db permissions now platform = .ok tuples)
    {t : RelationTuple} : t ∈ tuples ↔ Yielded rt db permissions now platform t := by
  obtain ⟨administratorRoles, hadmin, h⟩ := bind_eq_ok.1 h
  obtain ⟨financeRoles, hfinance, h⟩ := bind_eq_ok.1 h
  obtain rfl := pure_eq_ok.1 h
  have hroles : t ∈ administratorRoles ∨ t ∈ financeRoles ↔ ∃ rp,
      ProjectedPermission db permissions rp ∧ ∃ objects,
        permissionObjectsForRolePermission rt rp = .ok objects ∧ ∃ object ∈ objects,
          t = ⟨openfgaRoleObject rp.grant.role, "role", object⟩ ∨
            permissionRequiresCovenanter rp.grant.permissionCode = true ∧
              t = ⟨platform, "platform", object⟩ := by
    rw [mem_permissionTuples hadmin, mem_permissionTuples hfinance]
    simp only [← mem_administratorPermissions]
    constructor
    · rintro (⟨rp, hrp, hrest⟩ | ⟨rp, hrp, hrest⟩)
      · exact ⟨rp, .inl hrp, hrest⟩
      · exact ⟨rp, .inr hrp, hrest⟩
    · rintro ⟨rp, hrp | hrp, hrest⟩
      · exact .inl ⟨rp, hrp, hrest⟩
      · exact .inr ⟨rp, hrp, hrest⟩
  simp only [List.mem_append]
  constructor
  · rintro ((((((ht | ht) | ht) | ht) | ht) | ht) | ht)
    · obtain ⟨name, relation, hknown, m, hm, hfilter, rfl⟩ := mem_platformTuples.1 ht
      exact .platform name relation hknown m hm hfilter
    · obtain ⟨m, hm, rfl⟩ := List.mem_map.1 ht
      exact .frozen m (List.mem_filter.1 hm).1 (List.mem_filter.1 hm).2
    · obtain ⟨a, ha, hactive, hcovers, ⟨m, hm, hmpk, hfilter⟩, ⟨role, hrole, hpk, hstatus, hof⟩,
        rfl⟩ := mem_assigneeTuples.1 ht
      exact .assignee a ⟨ha, hactive, hcovers, m, hm, hmpk, role, hrole, hpk, hstatus,
        .inl ⟨hfilter, hof⟩⟩
    · obtain ⟨a, ha, hactive, hcovers, ⟨m, hm, hmpk, hfilter⟩, ⟨role, hrole, hpk, hstatus, hof⟩,
        rfl⟩ := mem_assigneeTuples.1 ht
      exact .assignee a ⟨ha, hactive, hcovers, m, hm, hmpk, role, hrole, hpk, hstatus,
        .inr ⟨hfilter, hof⟩⟩
    · obtain ⟨rp, hrp, objects, hobjects, object, hobject, rfl | ⟨hguarded, rfl⟩⟩ :=
        hroles.1 (.inl ht)
      · exact .role rp hrp objects hobjects object hobject
      · exact .guard rp hrp objects hobjects object hobject hguarded
    · obtain ⟨rp, hrp, objects, hobjects, object, hobject, rfl | ⟨hguarded, rfl⟩⟩ :=
        hroles.1 (.inr ht)
      · exact .role rp hrp objects hobjects object hobject
      · exact .guard rp hrp objects hobjects object hobject hguarded
    · obtain ⟨q, hq, rfl⟩ := List.mem_map.1 ht
      exact .qualified q (List.mem_filter.1 hq).1 _ ht rfl
  · intro ht
    cases ht with
    | platform name relation known m mem holds =>
      exact .inl (.inl (.inl (.inl (.inl (.inl
        (mem_platformTuples.2 ⟨name, relation, known, m, mem, holds, rfl⟩))))))
    | frozen m mem frozen =>
      exact .inl (.inl (.inl (.inl (.inl (.inr
        (List.mem_map.2 ⟨m, List.mem_filter.2 ⟨mem, frozen⟩, rfl⟩))))))
    | assignee a assigned =>
      obtain ⟨ha, hactive, hcovers, m, hm, hmpk, role, hrole, hpk, hstatus,
        ⟨hfilter, hof⟩ | ⟨hfilter, hof⟩⟩ := assigned
      · exact .inl (.inl (.inl (.inl (.inr (mem_assigneeTuples.2 ⟨a, ha, hactive, hcovers,
          ⟨m, hm, hmpk, hfilter⟩, ⟨role, hrole, hpk, hstatus, hof⟩, rfl⟩)))))
      · exact .inl (.inl (.inl (.inr (mem_assigneeTuples.2 ⟨a, ha, hactive, hcovers,
          ⟨m, hm, hmpk, hfilter⟩, ⟨role, hrole, hpk, hstatus, hof⟩, rfl⟩))))
    | role rp projected objects ok object mem =>
      rcases hroles.2 ⟨rp, projected, objects, ok, object, mem, .inl rfl⟩ with ht | ht
      · exact .inl (.inl (.inr ht))
      · exact .inl (.inr ht)
    | guard rp projected objects ok object mem guarded =>
      rcases hroles.2 ⟨rp, projected, objects, ok, object, mem, .inr ⟨guarded, rfl⟩⟩ with ht | ht
      · exact .inl (.inl (.inr ht))
      · exact .inl (.inr ht)
    | qualified q mem tuple yields relation => exact .inr yields

/-- A rebuild that ends has computed the objects of every projected permission. -/
theorem project_objects
    (h : projectAuthorizationTuples rt db permissions now platform = .ok tuples)
    {rp : RolePermissionRow} (hrp : ProjectedPermission db permissions rp) :
    ∃ objects, permissionObjectsForRolePermission rt rp = .ok objects := by
  have hall : ∀ {rps : List RolePermissionRow} {ts : List RelationTuple},
      permissionTuples rt platform rps = .ok ts → ∀ rp ∈ rps,
        ∃ objects, permissionObjectsForRolePermission rt rp = .ok objects := by
    intro rps
    induction rps with
    | nil => intro ts _ rp hrp; cases hrp
    | cons first rest ih =>
      intro ts hts rp hrp
      obtain ⟨firstTuples, hfirst, hts⟩ := bind_eq_ok.1 hts
      obtain ⟨restTuples, hrest, -⟩ := bind_eq_ok.1 hts
      rcases List.mem_cons.1 hrp with rfl | hrp
      · obtain ⟨objects, hobjects, -⟩ := bind_eq_ok.1 hfirst
        exact ⟨objects, hobjects⟩
      · exact ih hrest rp hrp
  obtain ⟨administratorRoles, hadmin, h⟩ := bind_eq_ok.1 h
  obtain ⟨financeRoles, hfinance, -⟩ := bind_eq_ok.1 h
  rcases mem_administratorPermissions.2 hrp with hmem | hmem
  · exact hall hadmin rp hmem
  · exact hall hfinance rp hmem

/-! ## The tuples of one relation -/

theorem mem_platformRelations {name relation : String} : (name, relation) ∈ platformRelations ↔
    name = roleCovenanter ∧ relation = "covenanter" ∨
      name = roleDeliberator ∧ relation = "deliberator" ∨
        name = roleAdministrator ∧ relation = "administrator" := by
  simp [platformRelations]

theorem Yielded.of_covenanter {user object : Entity}
    (h : Yielded rt db permissions now platform ⟨user, "covenanter", object⟩) :
    object = platform ∧ ∃ m ∈ db.members.rows, user = openfgaMemberUser m.pk ∧
      Covenanter db m now := by
  generalize ht : (⟨user, "covenanter", object⟩ : RelationTuple) = t at h
  cases h with
  | platform name relation known m mem holds =>
    obtain ⟨rfl, rfl, rfl⟩ := RelationTuple.mk.inj ht
    rcases mem_platformRelations.1 known with ⟨rfl, -⟩ | ⟨-, hrel⟩ | ⟨-, hrel⟩
    · exact ⟨rfl, m, mem, rfl, (memberRoleFilter_covenanter mem).1 holds⟩
    · exact absurd hrel (by decide)
    · exact absurd hrel (by decide)
  | qualified q mem tuple yields relation => simp [← ht] at relation
  | _ => simp at ht

theorem Yielded.of_frozen {user object : Entity}
    (h : Yielded rt db permissions now platform ⟨user, "frozen_member", object⟩) :
    ∃ m ∈ db.members.rows, user = openfgaMemberUser m.pk ∧ isFrozenMember m = true := by
  generalize ht : (⟨user, "frozen_member", object⟩ : RelationTuple) = t at h
  cases h with
  | platform name relation known m mem holds =>
    obtain ⟨rfl, rfl, rfl⟩ := RelationTuple.mk.inj ht
    rcases mem_platformRelations.1 known with ⟨-, hrel⟩ | ⟨-, hrel⟩ | ⟨-, hrel⟩ <;>
      exact absurd hrel (by decide)
  | frozen m mem frozen =>
    obtain ⟨rfl, -, rfl⟩ := RelationTuple.mk.inj ht
    exact ⟨m, mem, rfl, frozen⟩
  | qualified q mem tuple yields relation => simp [← ht] at relation
  | _ => simp at ht

theorem Yielded.of_assignee {user object : Entity}
    (h : Yielded rt db permissions now platform ⟨user, "assignee", object⟩) :
    ∃ a, AssigneeOf db now a ∧ user = openfgaMemberUser a.member ∧
      object = openfgaRoleObject a.role := by
  generalize ht : (⟨user, "assignee", object⟩ : RelationTuple) = t at h
  cases h with
  | platform name relation known m mem holds =>
    obtain ⟨rfl, rfl, rfl⟩ := RelationTuple.mk.inj ht
    rcases mem_platformRelations.1 known with ⟨-, hrel⟩ | ⟨-, hrel⟩ | ⟨-, hrel⟩ <;>
      exact absurd hrel (by decide)
  | assignee a assigned =>
    obtain ⟨rfl, -, rfl⟩ := RelationTuple.mk.inj ht
    exact ⟨a, assigned, rfl, rfl⟩
  | qualified q mem tuple yields relation => simp [← ht] at relation
  | _ => simp at ht

theorem Yielded.of_role {user object : Entity}
    (h : Yielded rt db permissions now platform ⟨user, "role", object⟩) :
    ∃ rp, ProjectedPermission db permissions rp ∧ user = openfgaRoleObject rp.grant.role ∧
      ∃ objects, permissionObjectsForRolePermission rt rp = .ok objects ∧ object ∈ objects := by
  generalize ht : (⟨user, "role", object⟩ : RelationTuple) = t at h
  cases h with
  | platform name relation known m mem holds =>
    obtain ⟨rfl, rfl, rfl⟩ := RelationTuple.mk.inj ht
    rcases mem_platformRelations.1 known with ⟨-, hrel⟩ | ⟨-, hrel⟩ | ⟨-, hrel⟩ <;>
      exact absurd hrel (by decide)
  | role rp projected objects ok object mem =>
    obtain ⟨rfl, -, rfl⟩ := RelationTuple.mk.inj ht
    exact ⟨rp, projected, rfl, objects, ok, mem⟩
  | qualified q mem tuple yields relation => simp [← ht] at relation
  | _ => simp at ht

theorem Yielded.of_platform {user object : Entity}
    (h : Yielded rt db permissions now platform ⟨user, "platform", object⟩) : user = platform := by
  generalize ht : (⟨user, "platform", object⟩ : RelationTuple) = t at h
  cases h with
  | platform name relation known m mem holds =>
    obtain ⟨rfl, rfl, rfl⟩ := RelationTuple.mk.inj ht
    rcases mem_platformRelations.1 known with ⟨-, hrel⟩ | ⟨-, hrel⟩ | ⟨-, hrel⟩ <;>
      exact absurd hrel (by decide)
  | guard => exact (RelationTuple.mk.inj ht).1
  | qualified q mem tuple yields relation => simp [← ht] at relation
  | _ => simp at ht

/-! ## Checks on the model -/

theorem openfgaMemberUser_inj {j k : Nat} (h : openfgaMemberUser j = openfgaMemberUser k) :
    j = k :=
  Json.toNat_repr_inj (congrArg Entity.id h)

theorem openfgaRoleObject_inj {j k : Nat} (h : openfgaRoleObject j = openfgaRoleObject k) :
    j = k :=
  Json.toNat_repr_inj (congrArg Entity.id h)

theorem authorizationModel_ranked : authorizationModel.Ranked relationRank := by
  intro kind relation rewrite h
  unfold authorizationModel at h
  split at h
  all_goals first
    | (obtain rfl := Option.some.inj h; simp [Rewrite.Below, holder, guardedHolder, relationRank])
    | cases h

/-- A deeper check gives the same answer. -/
theorem openfgaCheck_eq {user object : Entity} {relation : String} {n : Nat}
    (h : relationRank relation < n) : authorizationModel.check tuples n user relation object =
      openfgaCheck tuples user relation object :=
  authorizationModel_ranked.check_eq n h (Nat.lt_succ_self _)

/-- A relation of members is read off the tuples. -/
theorem check_direct {member : Nat} {relation : String} {object : Entity}
    (h : authorizationModel object.kind relation = some (.direct ["member"])) :
    authorizationModel.check tuples 1 (openfgaMemberUser member) relation object = true ↔
      ⟨openfgaMemberUser member, relation, object⟩ ∈ tuples := by
  rw [Schema.check_succ h, Rewrite.holds_direct]
  simp [openfgaMemberUser]

/-- A guarded permission asks for an assigned role, a covenanter of the platform and a member who is
not frozen there. -/
theorem holder_guarded {member : Nat} {object : Entity}
    (h : authorizationModel object.kind "holder" = some guardedHolder) :
    openfgaCheck tuples (openfgaMemberUser member) "holder" object = true ↔
      (∃ role, ⟨role, "role", object⟩ ∈ tuples ∧
        authorizationModel.check tuples 1 (openfgaMemberUser member) "assignee" role = true) ∧
      (∃ p, ⟨p, "platform", object⟩ ∈ tuples ∧
        authorizationModel.check tuples 1 (openfgaMemberUser member) "covenanter" p = true) ∧
      ¬ ∃ p, ⟨p, "platform", object⟩ ∈ tuples ∧
        authorizationModel.check tuples 1 (openfgaMemberUser member) "frozen_member" p = true := by
  rw [openfgaCheck, show relationRank "holder" = 1 from rfl, Schema.check_succ h, guardedHolder,
    Rewrite.holds_butNot, Rewrite.holds_both, Rewrite.holds_via, Rewrite.holds_via,
    Rewrite.holds_via, and_assoc]

theorem guarded_permission_holder {permissionCode : String}
    (h : permissionRequiresCovenanter permissionCode = true) :
    authorizationModel (openfgaPermissionObject permissionCode).kind "holder" =
      some guardedHolder := by
  rw [openfgaPermissionObject, permissionObjectType, if_pos h]
  rfl

/-- Every object of a guarded permission is guarded. -/
theorem guarded_holder {rp : RolePermissionRow} {objects : List Entity} {object : Entity}
    (h : permissionRequiresCovenanter rp.grant.permissionCode = true)
    (hobjects : permissionObjectsForRolePermission rt rp = .ok objects) (hmem : object ∈ objects) :
    authorizationModel object.kind "holder" = some guardedHolder := by
  have hresource : ∀ id, authorizationModel
      (⟨resourcePermissionObjectType rp.grant.permissionCode, id⟩ : Entity).kind "holder" =
        some guardedHolder := by
    intro id
    rw [resourcePermissionObjectType, if_pos h]
    rfl
  unfold permissionObjectsForRolePermission at hobjects
  simp only at hobjects
  split at hobjects
  · obtain rfl := Except.ok.inj hobjects
    rcases List.mem_cons.1 hmem with rfl | hmem
    · exact guarded_permission_holder h
    · rw [List.mem_singleton.1 hmem]
      exact hresource _
  · obtain ⟨resourceIds, -, hobjects⟩ := bind_eq_ok.1 hobjects
    obtain rfl := pure_eq_ok.1 hobjects
    rcases List.mem_cons.1 hmem with rfl | hmem
    · exact guarded_permission_holder h
    · obtain ⟨id, -, rfl⟩ := List.mem_map.1 hmem
      exact hresource _

/-! ## Django's grants are kept -/

/-- The constraints hold nothing but a text `resource_id` and a list of non-empty texts
`resource_ids`. -/
def PlainConstraints (constraints : Json) : Prop :=
  ∃ es, constraints = .obj es ∧ ∀ e ∈ es,
    (e.1 = "resource_id" ∧ ∃ id, e.2 = .str id) ∨
      e.1 = "resource_ids" ∧ ∃ ids : List String, e.2 = .arr (ids.map Json.str) ∧ ∀ id ∈ ids, id ≠ ""

theorem PlainConstraints.resourceIds {constraints ids : Json} {items : List Json}
    (h : PlainConstraints constraints) (hids : constraintGet constraints "resource_ids" = .ok ids)
    (htruthy : ids.toPy.truthy = true) (hitems : jsonItems ids = .ok items) :
    ∀ item ∈ items, item.toPy.truthy = true := by
  obtain ⟨es, rfl, hes⟩ := h
  unfold constraintGet at hids
  split at hids
  · obtain rfl := Except.ok.inj hids
    cases htruthy
  · obtain rfl := Except.ok.inj hids
    cases hget : Json.get? es "resource_ids" with
    | none =>
      rw [hget] at htruthy
      cases htruthy
    | some value =>
      rw [hget, Option.getD_some] at hitems
      unfold Json.get? at hget
      obtain ⟨e, hfind, rfl⟩ := Option.map_eq_some_iff.1 hget
      have hkey : e.1 = "resource_ids" := by simpa using List.find?_some hfind
      rcases hes e (List.mem_of_find?_eq_some hfind) with ⟨hother, -⟩ | ⟨-, texts, harr, hne⟩
      · exact absurd (hkey.symm.trans hother) (by decide)
      · rw [harr] at hitems
        obtain rfl := Except.ok.inj hitems
        intro item hitem
        obtain ⟨text, htext, rfl⟩ := List.mem_map.1 hitem
        exact bne_iff_ne.2 (hne text htext)

/-- What applies to a resource has an object for it. -/
theorem applies_projected {rp : RolePermissionRow} {resourceId : String} {objects : List Entity}
    (hplain : PlainConstraints rp.constraintsJson)
    (h : rolePermissionAppliesToResource rt rp (some resourceId) = .ok true)
    (hobjects : permissionObjectsForRolePermission rt rp = .ok objects) :
    openfgaGlobalResourcePermissionObject rp.grant.permissionCode ∈ objects ∨
      openfgaResourcePermissionObject rp.grant.permissionCode resourceId ∈ objects := by
  unfold permissionObjectsForRolePermission at hobjects
  simp only at hobjects
  split at hobjects
  · obtain rfl := Except.ok.inj hobjects
    exact .inl (List.mem_cons_of_mem _ List.mem_cons_self)
  · rename_i hscope
    obtain ⟨resourceIds, hids, hobjects⟩ := bind_eq_ok.1 hobjects
    obtain rfl := pure_eq_ok.1 hobjects
    suffices hmem : resourceId ∈ resourceIds by
      exact .inr (List.mem_cons_of_mem _ (List.mem_map_of_mem hmem))
    obtain ⟨constrainedId, hid, hids⟩ := bind_eq_ok.1 hids
    obtain ⟨constrainedIds, hlist, hids⟩ := bind_eq_ok.1 hids
    obtain ⟨items, hitems, hids⟩ := bind_eq_ok.1 hids
    obtain rfl := pure_eq_ok.1 hids
    simp only [rolePermissionAppliesToResource, hid, hlist, ok_bind] at h
    rw [List.mem_append]
    split at h
    · rename_i htruthy
      have heq : rt.str constrainedId.toPy = resourceId := by simpa using pure_eq_ok.1 h
      left
      rw [if_pos htruthy, heq]
      exact List.mem_singleton_self _
    · split at h
      · rename_i htruthy
        obtain ⟨items', hitems', h⟩ := bind_eq_ok.1 h
        rw [if_pos htruthy, hitems'] at hitems
        obtain rfl := Except.ok.inj hitems
        right
        have hcontains : resourceId ∈ items'.map fun id => rt.str id.toPy := by
          simpa using pure_eq_ok.1 h
        rwa [List.filter_eq_self.2 (hplain.resourceIds hlist htruthy hitems')]
      · -- only the scope is left, and a global scope is not changed by stripping it
        exfalso
        apply hscope
        have hglobal : isGlobalScope rp.scope = true := pure_eq_ok.1 h
        simp only [isGlobalScope, List.contains_iff_mem, List.mem_cons, List.not_mem_nil,
          or_false] at hglobal
        rcases hglobal with hglobal | hglobal | hglobal <;> rw [hglobal] <;> decide

/-- Django grants the permission through a projected role permission. -/
structure HoldsThrough (rt : Runtime) (db : Directory) (permissions : List RolePermissionRow)
    (now : Nat) (m : Member) (permissionCode : String) (resource : Option String)
    (rp : RolePermissionRow) (role : Role) : Prop where
  legacy : legacyMemberHasResourcePermission rt db permissions now m permissionCode resource none =
    .ok true
  granted : rp ∈ grantedRows db permissions m permissionCode now
  applies : rolePermissionAppliesToResource rt rp resource = .ok true
  ofRole : role ∈ db.roles.rows ∧ role.pk = rp.grant.role
  kind : isAdministratorRole db role = true ∨
    isFinanceRole db role = true ∧ "finance.".toList.isPrefixOf permissionCode.toList = true
  plain : PlainConstraints rp.constraintsJson

/-- The guards of the Django decision. -/
theorem legacy_guards {m : Member} {permissionCode : String} {resource : Option String}
    (hm : m ∈ db.members.rows) (hguarded : permissionRequiresCovenanter permissionCode = true)
    (h : legacyMemberHasResourcePermission rt db permissions now m permissionCode resource none =
      .ok true) : memberAllowsRoleFacts m = true ∧ Covenanter db m now := by
  unfold legacyMemberHasResourcePermission at h
  simp only [Option.getD_none, hguarded, Bool.true_and, Bool.not_eq_true'] at h
  split at h
  · cases h
  · rename_i hallows
    split at h
    · cases h
    · rename_i hcov
      exact ⟨by simpa using hallows,
        (memberHasRole_covenanter_at hm).1 (by simpa using hcov)⟩

theorem not_frozen {m : Member} (h : memberAllowsRoleFacts m = true) :
    isFrozenMember m = false := by
  unfold memberAllowsRoleFacts at h
  unfold isFrozenMember
  cases hstatus : m.status with
  | active | admitted => cases huser : m.user <;> simp_all [MemberStatus.isRoleFact]
  | _ => simp [hstatus, MemberStatus.isRoleFact] at h

/-- A member with an assigned role of a projected permission holds each object of it. -/
theorem holds_object (hT : projectAuthorizationTuples rt db permissions now platform = .ok tuples)
    {name : String} (hplatform : platform = platformObject name) {m : Member}
    (hm : m ∈ db.members.rows) (hcov : Covenanter db m now) {rp : RolePermissionRow}
    (hrp : ProjectedPermission db permissions rp)
    (hguarded : permissionRequiresCovenanter rp.grant.permissionCode = true) {a : RoleAssignment}
    (ha : AssigneeOf db now a) (hmember : a.member = m.pk) (hrole : a.role = rp.grant.role)
    {objects : List Entity} (hobjects : permissionObjectsForRolePermission rt rp = .ok objects)
    {object : Entity} (hobject : object ∈ objects) :
    openfgaCheck tuples (openfgaMemberUser m.pk) "holder" object = true := by
  have hyields := fun t => mem_project (t := t) hT
  rw [holder_guarded (guarded_holder hguarded hobjects hobject)]
  refine ⟨⟨openfgaRoleObject rp.grant.role, ?_, ?_⟩, ⟨platform, ?_, ?_⟩, ?_⟩
  · exact (hyields _).2 (.role rp hrp objects hobjects object hobject)
  · rw [check_direct rfl, ← hmember, ← hrole]
    exact (hyields _).2 (.assignee a ha)
  · exact (hyields _).2 (.guard rp hrp objects hobjects object hobject hguarded)
  · subst hplatform
    rw [check_direct rfl]
    exact (hyields _).2 (.platform roleCovenanter "covenanter" List.mem_cons_self m hm
      ((memberRoleFilter_covenanter hm).2 hcov))
  · rintro ⟨p, hp, hfrozen⟩
    obtain rfl := ((hyields _).1 hp).of_platform
    subst hplatform
    rw [check_direct rfl] at hfrozen
    obtain ⟨m', hm', huser, hisfrozen⟩ := ((hyields _).1 hfrozen).of_frozen
    obtain rfl := db.members.eq_of_pk hm' hm (openfgaMemberUser_inj huser.symm)
    exact Bool.false_ne_true ((not_frozen hcov.1).symm.trans hisfrozen)

/-! ## The agreement -/

/-- The assignment through which Django grants the permission is projected. -/
theorem HoldsThrough.assignee {m : Member} {permissionCode : String} {resource : Option String}
    {rp : RolePermissionRow} {role : Role} (hm : m ∈ db.members.rows)
    (hcov : Covenanter db m now)
    (h : HoldsThrough rt db permissions now m permissionCode resource rp role) :
    ProjectedPermission db permissions rp ∧ rp.grant.permissionCode = permissionCode ∧
      ∃ a, AssigneeOf db now a ∧ a.member = m.pk ∧ a.role = rp.grant.role := by
  obtain ⟨hmem, hgranted⟩ := List.mem_filter.1 h.granted
  simp only [Bool.and_eq_true, List.contains_iff_mem, decide_eq_true_eq] at hgranted
  obtain ⟨hassigned, rfl⟩ := hgranted
  obtain ⟨a, ha, hmember, hactive, hcovers, role', hrole', hpk, hstatus, hpk'⟩ :=
    mem_assignedRoles.1 hassigned
  obtain rfl := db.roles.eq_of_pk hrole' h.ofRole.1 (hpk'.trans h.ofRole.2.symm)
  refine ⟨⟨hmem, role', hrole', hpk', hstatus, h.kind⟩, rfl, a,
    ⟨ha, hactive, hcovers, m, hm, hmember.symm, role', hrole', hpk, hstatus, ?_⟩, hmember,
    hpk.symm.trans hpk'⟩
  rcases h.kind with hadmin | ⟨hfinance, -⟩
  · left
    refine ⟨?_, hadmin⟩
    obtain ⟨hcatalog, hname⟩ := Bool.and_eq_true_iff.1 hadmin
    obtain ⟨o, ho, hopk, hkey⟩ := any_get?_eq_true.1 hcatalog
    have hdef : roleDefinitionForName roleAdministrator = some ⟨"administrator", roleAdministrator,
        "通过正常程序取得、只包含明确管理权限的独立职责。", true⟩ := by decide
    exact (memberRoleFilter_iff hm hdef).2 ⟨hcov.1, ⟨a, ha, hmember, hactive, hcovers, role', hrole',
      hpk, of_decide_eq_true hname, hstatus, o, ho, hopk, of_decide_eq_true hkey⟩, fun _ => hcov⟩
  · exact .inr ⟨(memberRoleFilter_covenanter hm).2 hcov, hfinance⟩

/-- The object of a guarded permission is projected for that permission only. -/
theorem permissionObject_code {permissionCode : String} {rp : RolePermissionRow}
    {objects : List Entity} (hguarded : permissionRequiresCovenanter permissionCode = true)
    (hobjects : permissionObjectsForRolePermission rt rp = .ok objects)
    (hmem : openfgaPermissionObject permissionCode ∈ objects) :
    rp.grant.permissionCode = permissionCode := by
  have hkind : (openfgaPermissionObject permissionCode).kind = "guarded_permission" := by
    rw [openfgaPermissionObject, permissionObjectType, if_pos hguarded]
  have hresource : ∀ id, openfgaPermissionObject permissionCode ≠
      ⟨resourcePermissionObjectType rp.grant.permissionCode, id⟩ := by
    intro id heq
    have hkind' := congrArg Entity.kind heq
    rw [hkind] at hkind'
    simp only [resourcePermissionObjectType] at hkind'
    split at hkind'
    · exact absurd hkind' (by decide)
    · exact absurd hkind' (by decide)
  unfold permissionObjectsForRolePermission at hobjects
  simp only at hobjects
  split at hobjects
  · obtain rfl := Except.ok.inj hobjects
    rcases List.mem_cons.1 hmem with heq | hmem
    · exact (congrArg Entity.id heq).symm
    · exact absurd (List.mem_singleton.1 hmem) (hresource _)
  · obtain ⟨resourceIds, -, hobjects⟩ := bind_eq_ok.1 hobjects
    obtain rfl := pure_eq_ok.1 hobjects
    rcases List.mem_cons.1 hmem with heq | hmem
    · exact (congrArg Entity.id heq).symm
    · obtain ⟨id, -, heq⟩ := List.mem_map.1 hmem
      exact absurd heq.symm (hresource _)

/-- The store of a rebuild and Django agree on the guarded permissions. -/
structure RebuildAgrees (rt : Runtime) (db : Directory) (permissions : List RolePermissionRow)
    (now : Nat) (tuples : List RelationTuple) : Prop where
  /-- What Django grants through an administrator or finance role, the checks grant. -/
  kept : ∀ m ∈ db.members.rows, ∀ permissionCode,
    permissionRequiresCovenanter permissionCode = true → ∀ resource rp role,
      HoldsThrough rt db permissions now m permissionCode resource rp role →
      openfgaMemberHasPermission tuples m.pk permissionCode resource = true
  /-- What the check without a resource grants, Django grants. -/
  held : ∀ m ∈ db.members.rows, ∀ permissionCode,
    permissionRequiresCovenanter permissionCode = true →
    openfgaMemberHasPermission tuples m.pk permissionCode none = true →
      legacyMemberHasResourcePermission rt db permissions now m permissionCode none none = .ok true

/-- **A rebuild decides like Django.** -/
theorem rebuild_agrees (rt : Runtime) (db : Directory) (permissions : List RolePermissionRow)
    (now : Nat) (name : String) {tuples : List RelationTuple}
    (hT : projectAuthorizationTuples rt db permissions now (platformObject name) = .ok tuples) :
    RebuildAgrees rt db permissions now tuples := by
  constructor
  · intro m hm permissionCode hguarded resource rp role h
    obtain ⟨hallows, hcov⟩ := legacy_guards hm hguarded h.legacy
    obtain ⟨hrp, rfl, a, ha, hmember, hrole⟩ := h.assignee hm hcov
    obtain ⟨objects, hobjects⟩ := project_objects hT hrp
    have hholds : ∀ object ∈ objects,
        openfgaCheck tuples (openfgaMemberUser m.pk) "holder" object = true := fun _ hobject =>
      holds_object hT rfl hm hcov hrp hguarded ha hmember hrole hobjects hobject
    cases resource with
    | none =>
      apply hholds
      unfold permissionObjectsForRolePermission at hobjects
      simp only at hobjects
      split at hobjects
      · obtain rfl := Except.ok.inj hobjects
        exact List.mem_cons_self
      · obtain ⟨resourceIds, -, hobjects⟩ := bind_eq_ok.1 hobjects
        obtain rfl := pure_eq_ok.1 hobjects
        exact List.mem_cons_self
    | some resourceId =>
      rw [openfgaMemberHasPermission, Bool.or_eq_true]
      exact (applies_projected h.plain h.applies hobjects).imp (hholds _) (hholds _)
  · intro m hm permissionCode hguarded h
    rw [openfgaMemberHasPermission, holder_guarded (guarded_permission_holder hguarded)] at h
    obtain ⟨⟨role, hrole, hassignee⟩, ⟨p, hp, hcov⟩, -⟩ := h
    obtain ⟨rp, hrp, rfl, objects, hobjects, hobject⟩ := ((mem_project hT).1 hrole).of_role
    obtain rfl := ((mem_project hT).1 hp).of_platform
    rw [check_direct rfl] at hassignee hcov
    obtain ⟨a, ha, huser, hobject'⟩ := ((mem_project hT).1 hassignee).of_assignee
    obtain ⟨-, m', hm', huser', hcovenanter⟩ := ((mem_project hT).1 hcov).of_covenanter
    have hmm : m' = m := db.members.eq_of_pk hm' hm (openfgaMemberUser_inj huser'.symm)
    rw [hmm] at hcovenanter
    have hcode := permissionObject_code hguarded hobjects hobject
    have hrows : rp ∈ grantedRows db permissions m permissionCode now := by
      obtain ⟨m'', hm'', hmpk, role, hrole, hpk, hstatus, -⟩ := ha.holder
      refine List.mem_filter.2 ⟨hrp.mem, ?_⟩
      rw [Bool.and_eq_true, List.contains_iff_mem, mem_assignedRoles]
      refine ⟨⟨a, ha.mem, (openfgaMemberUser_inj huser).symm, ha.active, ha.covers, role, hrole, hpk,
        hstatus, ?_⟩, decide_eq_true hcode⟩
      exact hpk.trans (openfgaRoleObject_inj hobject').symm
    have hholds : memberHasRole db now m [roleCovenanter] (some now) = true :=
      (memberHasRole_covenanter_at hm).2 hcovenanter
    unfold legacyMemberHasResourcePermission
    simp only [Option.getD_none, hcovenanter.1, hguarded, hholds, anyApplies_none, Bool.not_true,
      Bool.and_false, Bool.false_eq_true, if_false]
    rw [decide_eq_true (List.ne_nil_of_mem hrows)]

/-! ## One administrator -/

def keeper : Member := ⟨101, "m-101", none, "", .active, []⟩

def keeperRoles : List Role := [⟨103, 102, roleCovenanter, "", .active⟩,
  ⟨104, 102, roleAdministrator, "", .active⟩]

theorem keeperRoles_keys : (keeperRoles.map Role.pk).Nodup := by
  decide

theorem keeperRoles_names : (keeperRoles.filterMap fun r => some (r.organization, r.name)).Nodup := by
  decide

def keeperAssignments : List RoleAssignment := [
  ⟨105, 101, 103, .active, 0, 1000, none, none, .direct⟩,
  ⟨106, 101, 104, .active, 0, 1000, none, none, .direct⟩]

theorem keeperAssignments_keys : (keeperAssignments.map RoleAssignment.pk).Nodup := by
  decide

def keeperDirectory : Directory where
  members := ⟨[keeper], List.nodup_singleton _, List.nodup_singleton _⟩
  organizations := ⟨[⟨102, roleCatalogOrganizationName, some roleCatalogOrganizationKey, .active⟩],
    List.nodup_singleton _, List.nodup_singleton _⟩
  roles := ⟨keeperRoles, keeperRoles_keys, keeperRoles_names⟩
  assignments := ⟨keeperAssignments, keeperAssignments_keys, List.nodup_nil⟩
  rolePermissions := [⟨104, "governance.manage"⟩]
  domains := Table.empty
  qualifications := Table.empty

/-- A permission that holds for one resource only. -/
def keeperPermissions : List RolePermissionRow :=
  [⟨⟨104, "governance.manage"⟩, "shelf", .obj [("resource_id", .str "r1")]⟩]

theorem rebuild_agrees_keeper : ∃ tuples, projectAuthorizationTuples textRuntime keeperDirectory
      keeperPermissions 5 (platformObject "sim") = .ok tuples ∧
    RebuildAgrees textRuntime keeperDirectory keeperPermissions 5 tuples :=
  ⟨_, rfl, rebuild_agrees _ _ _ _ "sim" rfl⟩

end LiveOs.Authorization
