import LiveOs.Authorization.Verify.Projection

/-!
# The runtime boundary

Decisions at a store that lags behind the database. Whatever the store holds, a decision allows
nothing that Django refuses; a refused decision takes the stale tuples of its member away and no
tuple that is due. From the tuples of a rebuild, over every run of changes and decisions in which
only deletions and checks are lost, what Django grants through an administrator or finance role is
allowed: the tuples that such a decision needs are either due, and stay stored, or not touched by
the run at all.
-/

namespace LiveOs.Authorization

open Lib EventLedger Roles

variable {rt : Runtime} {db db' : Directory} {permissions : List RolePermissionRow}
  {now clock : Nat} {platform : Entity} {tuples store store' : List RelationTuple}
  {settings : BackendSettings} {requests : Requests} {m : Member} {permissionCode : String}
  {resource : Option String} {atTime : Option Nat}

/-! ## The tuples of assignments -/

/-- Only the member and the role of an assignment count. -/
theorem roleAssignmentTuples_congr {a e : RoleAssignment} (hmember : a.member = e.member)
    (hrole : a.role = e.role) :
    roleAssignmentTuples db platform a = roleAssignmentTuples db platform e := by
  unfold roleAssignmentTuples
  rw [hmember, hrole]

theorem roleAssignmentTuples_relation {a : RoleAssignment} {t : RelationTuple}
    (h : t ∈ roleAssignmentTuples db platform a) : t.relation ∈ assignmentRelations := by
  have hassignee : t ∈ [(⟨openfgaMemberUser a.member, "assignee", openfgaRoleObject a.role⟩ :
      RelationTuple)] → t.relation ∈ assignmentRelations := by
    intro ht
    rw [List.mem_singleton.1 ht]
    simp [assignmentRelations]
  unfold roleAssignmentTuples at h
  dsimp only at h
  cases hrole : db.roles.get? a.role with
  | none =>
    rw [hrole] at h
    exact absurd h List.not_mem_nil
  | some role =>
    rw [hrole] at h
    dsimp only at h
    cases hdef : catalogRoleDefinitionForRole db role with
    | some definition =>
      rw [hdef] at h
      rcases List.mem_append.1 h with h | h
      · obtain ⟨⟨name, relation⟩, hmem, rfl⟩ := List.mem_map.1 h
        rcases mem_platformRelations.1 (List.mem_filter.1 hmem).1 with
          ⟨-, rfl⟩ | ⟨-, rfl⟩ | ⟨-, rfl⟩
        all_goals simp [assignmentRelations]
      · split at h
        · exact hassignee h
        · exact absurd h List.not_mem_nil
    | none =>
      rw [hdef] at h
      dsimp only at h
      split at h
      · exact hassignee h
      · exact absurd h List.not_mem_nil

theorem mem_assignmentKeys {member : Nat} {current : Bool} {t : RelationTuple} :
    t ∈ assignmentKeys db now platform member current ↔
      ∃ a ∈ db.assignments.rows, a.member = member ∧ roleAssignmentIsCurrent db now a = current ∧
        t ∈ roleAssignmentTuples db platform a := by
  simp only [assignmentKeys, List.mem_flatMap, List.mem_filter, Bool.and_eq_true,
    decide_eq_true_eq, beq_iff_eq]
  constructor
  · rintro ⟨a, ⟨ha, hmember, hcurrent⟩, ht⟩
    exact ⟨a, ha, hmember, hcurrent, ht⟩
  · rintro ⟨a, ha, hmember, hcurrent, ht⟩
    exact ⟨a, ⟨ha, hmember, hcurrent⟩, ht⟩

theorem mem_staleKeys {member : Nat} {t : RelationTuple} :
    t ∈ staleKeys db now platform member ↔
      t ∈ assignmentKeys db now platform member false ∧
        t ∉ assignmentKeys db now platform member true := by
  simp [staleKeys]

theorem staleKeys_relation {member : Nat} {t : RelationTuple}
    (h : t ∈ staleKeys db now platform member) : t.relation ∈ assignmentRelations := by
  obtain ⟨a, -, -, -, ht⟩ := mem_assignmentKeys.1 (mem_staleKeys.1 h).1
  exact roleAssignmentTuples_relation ht

/-- A tuple that is due is not stale for any member: the assignment it is due to is current, and a
stale assignment that yields it is of the same member and role. -/
theorem Due.not_stale {a : RoleAssignment} {t : RelationTuple} (h : Due db now platform a t)
    (member : Nat) : t ∉ staleKeys db now platform member := by
  intro hstale
  obtain ⟨hended, hcurrent⟩ := mem_staleKeys.1 hstale
  obtain ⟨e, -, hmember, -, ht⟩ := mem_assignmentKeys.1 hended
  obtain ⟨hmember', hrole⟩ := h.survives ht
  refine hcurrent (mem_assignmentKeys.2 ⟨a, h.mem, hmember'.trans hmember, h.current, ?_⟩)
  rw [roleAssignmentTuples_congr hmember' hrole]
  exact ht

/-! ## Decisions -/

/-- What a decision does, said once: a refusal by Django may delete stale tuples, anything else
leaves the store. -/
theorem memberHasPermission_ok {allowed : Bool}
    (hbackend : settings.backend ≠ "legacy")
    (h : memberHasPermission settings rt db permissions now platform store requests m permissionCode
      resource atTime = .ok (allowed, store')) :
    ∃ django, legacyMemberHasResourcePermission rt db permissions now m permissionCode resource
        atTime = .ok django ∧
      (django = false ∧ allowed = false ∧
          store' = removeNonCurrentRoleAssignmentProjections settings db now platform store
            requests.deleted m.pk ∨
        django = true ∧ store' = store ∧ (settings.backend = "openfga" →
          allowed = (openfgaAnswer settings store requests.failed m.pk permissionCode
            resource).getD false)) := by
  unfold memberHasPermission at h
  obtain ⟨django, hdjango, h⟩ := bind_eq_ok.1 h
  refine ⟨django, hdjango, ?_⟩
  rw [if_neg hbackend] at h
  cases django with
  | false =>
    obtain ⟨rfl, rfl⟩ := Prod.mk.inj (pure_eq_ok.1 h)
    exact .inl ⟨rfl, rfl, rfl⟩
  | true =>
    rw [if_neg (by simp)] at h
    dsimp only at h
    split at h
    · obtain ⟨rfl, rfl⟩ := Prod.mk.inj (pure_eq_ok.1 h)
      exact .inr ⟨rfl, rfl, fun _ => rfl⟩
    · next hother =>
      obtain ⟨-, rfl⟩ := Prod.mk.inj (pure_eq_ok.1 h)
      exact .inr ⟨rfl, rfl, fun hopenfga => absurd hopenfga hother⟩

/-- Nothing but stale tuples of the member is deleted. -/
theorem mem_removeNonCurrent {deleted : Bool} {member : Nat} {t : RelationTuple}
    (ht : t ∈ store) (hnot : t ∉ staleKeys db now platform member) :
    t ∈ removeNonCurrentRoleAssignmentProjections settings db now platform store deleted
      member := by
  unfold removeNonCurrentRoleAssignmentProjections
  split
  · exact ht
  · split
    · exact ht
    · split
      · exact mem_deleteTuples.2 ⟨ht, hnot⟩
      · exact ht

theorem removeNonCurrent_subset {deleted : Bool} {member : Nat} {t : RelationTuple}
    (ht : t ∈ removeNonCurrentRoleAssignmentProjections settings db now platform store deleted
      member) : t ∈ store := by
  unfold removeNonCurrentRoleAssignmentProjections at ht
  split at ht
  · exact ht
  · split at ht
    · exact ht
    · split at ht
      · exact (mem_deleteTuples.1 ht).1
      · exact ht

/-- What a decision leaves of the store, whatever the store holds and whichever requests are lost:
nothing is added, and a tuple that is due stays. -/
theorem decision_keeps_due {allowed : Bool} (hbackend : settings.backend ≠ "legacy")
    (h : memberHasPermission settings rt db permissions now platform store requests m permissionCode
      resource atTime = .ok (allowed, store')) :
    (∀ t ∈ store', t ∈ store) ∧
      (∀ t ∈ store, t ∉ staleKeys db now platform m.pk → t ∈ store') ∧
      ∀ a t, Due db now platform a t → (t ∈ store' ↔ t ∈ store) := by
  obtain ⟨django, -, ⟨-, -, rfl⟩ | ⟨-, rfl, -⟩⟩ := memberHasPermission_ok hbackend h
  · exact ⟨fun t => removeNonCurrent_subset, fun t => mem_removeNonCurrent, fun a t hdue =>
      ⟨removeNonCurrent_subset, fun ht => mem_removeNonCurrent ht (hdue.not_stale m.pk)⟩⟩
  · exact ⟨fun t ht => ht, fun t ht _ => ht, fun a t _ => Iff.rfl⟩

/-- Whatever the store holds and whichever requests are lost, a decision allows only what Django
grants; a refusal whose deletion reaches the store leaves no tuple of an assignment of the member
that is not current, unless a current one yields the tuple too; and no decision deletes a tuple that
is due. -/
theorem decision_narrows (settings : BackendSettings) (hbackend : settings.backend = "openfga")
    (rt : Runtime) (db : Directory) (permissions : List RolePermissionRow) (now : Nat)
    (platform : Entity) (store store' : List RelationTuple) (requests : Requests) (m : Member)
    (permissionCode : String) (resource : Option String) (atTime : Option Nat) (allowed : Bool)
    (h : memberHasPermission settings rt db permissions now platform store requests m permissionCode
      resource atTime = .ok (allowed, store')) :
    (allowed = true → legacyMemberHasResourcePermission rt db permissions now m permissionCode
      resource atTime = .ok true) ∧
    (legacyMemberHasResourcePermission rt db permissions now m permissionCode resource atTime =
        .ok false → settings.storeId ≠ "" → settings.authorizationModelId ≠ "" →
      requests.deleted = true → ∀ e ∈ db.assignments.rows, e.member = m.pk →
        ∀ t ∈ store', t ∈ roleAssignmentTuples db platform e →
          ∃ a ∈ db.assignments.rows, a.member = m.pk ∧ roleAssignmentIsCurrent db now a = true ∧
            t ∈ roleAssignmentTuples db platform a) ∧
    ∀ a t, Due db now platform a t → (t ∈ store' ↔ t ∈ store) := by
  have hlegacy : settings.backend ≠ "legacy" := by
    rw [hbackend]
    decide
  refine ⟨fun hallowed => ?_, fun hrefused hstore hmodel hdeleted e he hmember t ht hte => ?_,
    (decision_keeps_due hlegacy h).2.2⟩
  · obtain ⟨django, hdjango, ⟨-, hno, -⟩ | ⟨rfl, -, -⟩⟩ := memberHasPermission_ok hlegacy h
    · rw [hallowed] at hno
      cases hno
    · exact hdjango
  · obtain ⟨django, hdjango, ⟨-, -, rfl⟩ | ⟨rfl, -, -⟩⟩ := memberHasPermission_ok hlegacy h
    · cases hcurrent : roleAssignmentIsCurrent db now e with
      | true => exact ⟨e, he, hmember, hcurrent, hte⟩
      | false =>
        by_contra hnone
        have hstale : t ∈ staleKeys db now platform m.pk := by
          refine mem_staleKeys.2 ⟨mem_assignmentKeys.2 ⟨e, he, hmember, hcurrent, hte⟩, ?_⟩
          exact fun hkeys => hnone (mem_assignmentKeys.1 hkeys)
        unfold removeNonCurrentRoleAssignmentProjections at ht
        rw [if_neg (by simp [hbackend, List.ne_nil_of_mem hstale]),
          if_neg (by simp [hstore, hmodel]), if_pos hdeleted] at ht
        exact (mem_deleteTuples.1 ht).2 hstale
    · rw [hdjango] at hrefused
      cases hrefused

/-! ## The keeper at the boundary -/

def simBackend : BackendSettings := ⟨"openfga", "store", "model"⟩

def keeperPlatform : Entity := platformObject "sim"

/-- What the store of the keeper holds after a rebuild. -/
def keeperStore : List RelationTuple :=
  (projectAuthorizationTuples textRuntime keeperDirectory keeperPermissions 5
    keeperPlatform).toOption.getD []

/-- The deletion is lost, the checks get through. -/
def lostDeletion : Requests := ⟨false, fun _ => false⟩

/-- What a refusal leaves when the keeper's terms are over. -/
def keeperLeft : List RelationTuple :=
  deleteTuples keeperStore (staleKeys keeperDirectory 2000 keeperPlatform keeper.pk)

theorem decision_narrows_keeper : keeperLeft ≠ keeperStore ∧
    ∀ e ∈ keeperDirectory.assignments.rows, e.member = keeper.pk → ∀ t ∈ keeperLeft,
      t ∈ roleAssignmentTuples keeperDirectory keeperPlatform e →
        ∃ a ∈ keeperDirectory.assignments.rows, a.member = keeper.pk ∧
          roleAssignmentIsCurrent keeperDirectory 2000 a = true ∧
          t ∈ roleAssignmentTuples keeperDirectory keeperPlatform a :=
  ⟨by decide +kernel, (decision_narrows simBackend rfl textRuntime keeperDirectory keeperPermissions
    2000 keeperPlatform keeperStore keeperLeft ⟨true, fun _ => false⟩ keeper "governance.manage"
    none none false rfl).2.1 rfl (by decide) (by decide) rfl⟩

/-! ## Checks that do not fail -/

/-- Without failures the loop over the checks is the plain disjunction. -/
theorem runChecks_delivered {failed : Nat → Bool} (hfailed : ∀ i, failed i = false) {member : Nat}
    (objects : List Entity) (i : Nat) :
    runChecks store failed member i false objects =
      some (objects.any fun object =>
        openfgaCheck store (openfgaMemberUser member) "holder" object) := by
  induction objects generalizing i with
  | nil => rfl
  | cons object objects ih =>
    rw [runChecks, checkOpenfgaPermission, hfailed i, List.any_cons]
    cases hcheck : openfgaCheck store (openfgaMemberUser member) "holder" object with
    | true => rfl
    | false =>
      simp only [Bool.false_eq_true, if_false, Bool.false_or]
      exact ih (i + 1)

theorem openfgaAnswer_delivered {failed : Nat → Bool} (hfailed : ∀ i, failed i = false)
    (hstore : settings.storeId ≠ "") {member : Nat} :
    openfgaAnswer settings store failed member permissionCode resource =
      some (openfgaMemberHasPermission store member permissionCode resource) := by
  rw [openfgaAnswer, if_neg hstore, runChecks_delivered hfailed]
  cases resource with
  | none => simp [checkedObjects, openfgaMemberHasPermission]
  | some resourceId => simp [checkedObjects, openfgaMemberHasPermission]

/-! ## Changes whose deletions are lost -/

/-- The tuples of other relations are the same. -/
def Untouched (store store' : List RelationTuple) : Prop :=
  ∀ t : RelationTuple, t.relation ∉ assignmentRelations → (t ∈ store' ↔ t ∈ store)

theorem Untouched.refl (store : List RelationTuple) : Untouched store store := fun _ _ => Iff.rfl

theorem Untouched.trans {store₁ store₂ store₃ : List RelationTuple} (h : Untouched store₁ store₂)
    (h' : Untouched store₂ store₃) : Untouched store₁ store₃ :=
  fun t ht => (h' t ht).trans (h t ht)

/-- What no row yields stays, delivered or not. -/
theorem mem_removeDelivered {deletes : Nat → Bool} {t : RelationTuple} {rows : List RoleAssignment}
    (hrows : ∀ e ∈ rows, t ∉ roleAssignmentTuples db platform e) (i : Nat) (ht : t ∈ store) :
    t ∈ removeDelivered db platform deletes i store rows := by
  induction rows generalizing i store with
  | nil => exact ht
  | cons e rows ih =>
    refine ih (fun a ha => hrows a (List.mem_cons_of_mem _ ha)) (i + 1) ?_
    split
    · exact mem_deleteTuples.2 ⟨ht, hrows e List.mem_cons_self⟩
    · exact ht

theorem removeDelivered_subset {deletes : Nat → Bool} {t : RelationTuple}
    {rows : List RoleAssignment} (i : Nat)
    (ht : t ∈ removeDelivered db platform deletes i store rows) :
    t ∈ store := by
  induction rows generalizing i store with
  | nil => exact ht
  | cons e rows ih =>
    have hrest := ih (i + 1) ht
    split at hrest
    · exact (mem_deleteTuples.1 hrest).1
    · exact hrest

theorem removeDelivered_untouched {deletes : Nat → Bool} (i : Nat) (rows : List RoleAssignment) :
    Untouched store (removeDelivered db platform deletes i store rows) :=
  fun _ ht => ⟨removeDelivered_subset i, mem_removeDelivered
    (fun _ _ hte => ht (roleAssignmentTuples_relation hte)) i⟩

/-- Beside the store of delivered requests: nothing less is stored, and other relations are the
same. -/
structure Lags (store delivered lagging : List RelationTuple) : Prop where
  more : ∀ t ∈ delivered, t ∈ lagging
  untouched : Untouched store lagging

variable {env : RoleEnv} {s s' : RoleState rt} {delivery : Delivery}

theorem projectDelivered_lags {left lagging : List RelationTuple} (h : Lags store left lagging)
    (hwrite : delivery.write = true) (i : Nat) (a : RoleAssignment) :
    Lags store (projectRoleAssignment db now platform left a)
      (projectDelivered db now platform delivery i lagging a) := by
  unfold projectRoleAssignment projectDelivered
  rw [hwrite]
  split
  · refine ⟨fun t ht => ?_, h.untouched.trans fun t ht => ?_⟩
    · rcases List.mem_append.1 ht with ht | ht
      · exact List.mem_append_left _ (h.more t ht)
      · exact List.mem_append_right _ ht
    · refine ⟨fun hmem => ?_, List.mem_append_left _⟩
      rcases List.mem_append.1 hmem with hmem | hmem
      · exact hmem
      · exact absurd (roleAssignmentTuples_relation hmem) ht
  · refine ⟨fun t ht => ?_, h.untouched.trans (removeDelivered_untouched i [a])⟩
    obtain ⟨ht, hnot⟩ := mem_deleteTuples.1 ht
    refine mem_removeDelivered (fun e he => ?_) i (h.more t ht)
    rw [List.mem_singleton.1 he]
    exact hnot

theorem createDelivered_lags {memberPk rolePk : Nat} {grantedBy startAt endAt : Option Nat}
    {sourceType : SourceType} {skipValidation : Bool} (hwrite : delivery.write = true)
    (h : createDelivered env platform delivery s store memberPk rolePk grantedBy startAt endAt
      sourceType skipValidation = .ok (s', store')) :
    ∃ delivered, createProjected env platform s store memberPk rolePk grantedBy startAt endAt
      sourceType skipValidation = .ok (s', delivered) ∧ Lags store delivered store' := by
  unfold createDelivered at h
  unfold createProjected
  cases hrole : s.db.roles.get? rolePk with
  | none =>
    rw [hrole] at h
    cases h
  | some role =>
    rw [hrole] at h
    dsimp only at h ⊢
    obtain ⟨⟨s₁, a⟩, hcreate, h⟩ := bind_eq_ok.1 h
    obtain ⟨rfl, rfl⟩ := Prod.mk.inj (pure_eq_ok.1 h)
    rw [hcreate]
    refine ⟨_, rfl, ?_⟩
    have hleft : Lags store ((s.db.assignments.rows.filter
        (elapsed memberPk rolePk (startAt.getD env.now))).foldl
          (removeRoleAssignmentProjection s₁.db platform) store)
        (removeDelivered s₁.db platform delivery.deletes 0 store (s.db.assignments.rows.filter
          (elapsed memberPk rolePk (startAt.getD env.now)))) := by
      refine ⟨fun t ht => ?_, removeDelivered_untouched 0 _⟩
      obtain ⟨ht, hnot⟩ := mem_foldl_remove.1 ht
      exact mem_removeDelivered hnot 0 ht
    split
    · exact projectDelivered_lags hleft hwrite _ a
    · exact hleft

theorem revokeDelivered_lags {assignmentPk : Nat} {revokedBy endAt : Option Nat}
    (h : revokeDelivered env platform delivery s store assignmentPk revokedBy endAt =
      .ok (s', store')) :
    ∃ delivered, revokeProjected env platform s store assignmentPk revokedBy endAt =
      .ok (s', delivered) ∧ Lags store delivered store' := by
  obtain ⟨⟨s₁, e⟩, hrevoke, h⟩ := bind_eq_ok.1 h
  obtain ⟨rfl, rfl⟩ := Prod.mk.inj (pure_eq_ok.1 h)
  refine ⟨removeRoleAssignmentProjection s₁.db platform store e, ?_, fun t ht => ?_,
    removeDelivered_untouched 0 [e]⟩
  · unfold revokeProjected
    rw [hrevoke]
    rfl
  · obtain ⟨ht, hnot⟩ := mem_deleteTuples.1 ht
    refine mem_removeDelivered (fun a ha => ?_) 0 ht
    rw [List.mem_singleton.1 ha]
    exact hnot

theorem createProjected_surroundings {memberPk rolePk : Nat} {grantedBy startAt endAt : Option Nat}
    {sourceType : SourceType} {skipValidation : Bool} (h : createProjected env platform s store
      memberPk rolePk grantedBy startAt endAt sourceType skipValidation = .ok (s', store')) :
    SameSurroundings s.db s'.db := by
  obtain ⟨role, -, rfl, a, hcreate, -⟩ := createProjected_ok h
  cases createRoleAssignment_ok hcreate with
  | reused mem current same =>
    rw [same]
    exact ⟨rfl, rfl, rfl, rfl, rfl, rfl⟩
  | created rows fresh free row window same => exact sameSurroundings_expire same

theorem revokeProjected_surroundings {assignmentPk : Nat} {revokedBy endAt : Option Nat}
    (h : revokeProjected env platform s store assignmentPk revokedBy endAt = .ok (s', store')) :
    SameSurroundings s.db s'.db := by
  obtain ⟨⟨s₁, e⟩, hrevoke, h⟩ := bind_eq_ok.1 h
  obtain ⟨rfl, rfl⟩ := Prod.mk.inj (pure_eq_ok.1 h)
  exact (revokeRoleAssignment_ok hrevoke).1

/-- A change with its requests, beside the change with all of them delivered. -/
theorem deliverChange_lags {w : AuthorityState rt} {c : AuthorityCall}
    (hwrite : delivery.write = true)
    (h : deliverChange platform w c delivery = .ok (s', store')) :
    SameSurroundings w.roles.db s'.db ∧ ∃ delivered,
      authorityStep platform w c = .ok ⟨s', delivered, w.clock + c.waited⟩ ∧
        Lags w.store delivered store' := by
  obtain ⟨waited, grantUuid, change⟩ := c
  unfold authorityStep runChange
  cases change with
  | create member role grantedBy startAt endAt sourceType skipValidation =>
    obtain ⟨delivered, hcreate, hlags⟩ := createDelivered_lags hwrite h
    refine ⟨createProjected_surroundings hcreate, delivered, ?_, hlags⟩
    dsimp only
    rw [hcreate]
  | revoke assignment revokedBy endAt =>
    obtain ⟨delivered, hrevoke, hlags⟩ := revokeDelivered_lags h
    refine ⟨revokeProjected_surroundings hrevoke, delivered, ?_, hlags⟩
    dsimp only
    rw [hrevoke]

/-! ## Runs of the boundary -/

/-- A step in which at most deletions and checks are lost, and which keeps the store complete. -/
def BoundaryKept (platform : Entity) (w : AuthorityState rt) : BoundaryCall → Prop
  | .change call delivery => StepKept platform w call ∧ delivery.write = true
  | .decide waited _ _ _ _ _ =>
    ∀ a ∈ w.roles.db.assignments.rows, InForce a (w.clock + waited) → a.startAt ≤ w.clock

/-- What a run keeps: everything due is stored, other relations are as the rebuild left them, and so
are members, roles and permissions. -/
structure Aligned (platform : Entity) (w₀ w : AuthorityState rt) : Prop where
  stored : AllStored w.roles.db w.clock platform w.store
  untouched : Untouched w₀.store w.store
  surroundings : SameSurroundings w₀.roles.db w.roles.db

theorem surroundings_trans {db₁ db₂ db₃ : Directory} (h : SameSurroundings db₁ db₂)
    (h' : SameSurroundings db₂ db₃) : SameSurroundings db₁ db₃ :=
  ⟨h'.members.trans h.members, h'.organizations.trans h.organizations, h'.roles.trans h.roles,
    h'.rolePermissions.trans h.rolePermissions, h'.domains.trans h.domains,
    h'.qualifications.trans h.qualifications⟩

/-- Time that passes without an assignment beginning. -/
theorem Aligned.later {w₀ w : AuthorityState rt} (h : Aligned platform w₀ w) {waited : Nat}
    (hbegun : ∀ a ∈ w.roles.db.assignments.rows, InForce a (w.clock + waited) →
      a.startAt ≤ w.clock) : Aligned platform w₀ { w with clock := w.clock + waited } :=
  ⟨fun a t hdue => h.stored a t (hdue.earlier (Nat.le_add_right _ _) hbegun), h.untouched,
    h.surroundings⟩

theorem boundaryStep_aligned (hbackend : settings.backend = "openfga") {w₀ w w' : AuthorityState rt}
    {c : BoundaryCall} (haligned : Aligned platform w₀ w) (hkept : BoundaryKept platform w c)
    (h : boundaryStep settings permissions platform w c = .ok w') : Aligned platform w₀ w' := by
  cases c with
  | change call delivery =>
    obtain ⟨hstep, hwrite⟩ := hkept
    unfold boundaryStep at h
    dsimp only at h
    cases hchange : deliverChange platform w call delivery with
    | error e =>
      rw [hchange] at h
      obtain rfl := Except.ok.inj h
      exact haligned.later hstep.begun
    | ok result =>
      obtain ⟨roles, store⟩ := result
      rw [hchange] at h
      obtain rfl := Except.ok.inj h
      obtain ⟨hsame, delivered, hdelivered, hlags⟩ := deliverChange_lags hwrite hchange
      have hstored := authorityStep_stored haligned.stored hstep hdelivered
      exact ⟨fun a t hdue => hlags.more t (hstored a t hdue),
        haligned.untouched.trans hlags.untouched, surroundings_trans haligned.surroundings hsame⟩
  | decide waited m permissionCode resource atTime requests =>
    have hlater := haligned.later hkept
    unfold boundaryStep at h
    dsimp only at h
    cases hdecision : memberHasPermission settings rt w.roles.db permissions (w.clock + waited)
        platform w.store requests m permissionCode resource atTime with
    | error e =>
      rw [hdecision] at h
      obtain rfl := Except.ok.inj h
      exact hlater
    | ok result =>
      obtain ⟨allowed, store⟩ := result
      rw [hdecision] at h
      obtain rfl := Except.ok.inj h
      have hlegacy : settings.backend ≠ "legacy" := by
        rw [hbackend]
        decide
      obtain ⟨hsubset, hkeeps, hdue⟩ := decision_keeps_due hlegacy hdecision
      refine ⟨fun a t ht => (hdue a t ht).2 (hlater.stored a t ht), hlater.untouched.trans
        fun t ht => ⟨hsubset t, fun hmem => hkeeps t hmem fun hstale => ?_⟩, hlater.surroundings⟩
      exact ht (staleKeys_relation hstale)

theorem ProjectedPermission.of_surroundings {rp : RolePermissionRow} (h : SameSurroundings db db')
    (hrp : ProjectedPermission db' permissions rp) : ProjectedPermission db permissions rp := by
  obtain ⟨hmem, role, hrole, hpk, hstatus, hkind⟩ := hrp
  unfold isAdministratorRole isFinanceRole inCatalogOrganization at hkind
  rw [h.roles] at hrole
  rw [h.organizations] at hkind
  exact ⟨hmem, role, hrole, hpk, hstatus, hkind⟩

/-- A store aligned with a rebuild has what a holder of a projected permission needs. -/
theorem Aligned.holds_object {w₀ w : AuthorityState rt} {name : String}
    (haligned : Aligned (platformObject name) w₀ w)
    (hrebuild : projectAuthorizationTuples rt w₀.roles.db permissions w₀.clock
      (platformObject name) = .ok w₀.store)
    (hm : m ∈ w.roles.db.members.rows) (hcov : Covenanter w.roles.db m w.clock)
    {rp : RolePermissionRow} (hrp : ProjectedPermission w.roles.db permissions rp)
    (hguarded : permissionRequiresCovenanter rp.grant.permissionCode = true) {a : RoleAssignment}
    (ha : AssigneeOf w.roles.db w.clock a) (hmember : a.member = m.pk)
    (hrole : a.role = rp.grant.role) {objects : List Entity}
    (hobjects : permissionObjectsForRolePermission rt rp = .ok objects) {object : Entity}
    (hobject : object ∈ objects) :
    openfgaCheck w.store (openfgaMemberUser m.pk) "holder" object = true := by
  have hyields := fun t => mem_project (t := t) hrebuild
  have hrp₀ := hrp.of_surroundings haligned.surroundings
  have hdue : ∀ t : RelationTuple,
      Yielded rt w.roles.db permissions w.clock (platformObject name) t →
      t.relation ∈ assignmentRelations → t ∈ w.store := by
    intro t ht hrelation
    obtain ⟨b, hb⟩ := yielded_due ht hrelation
    exact haligned.stored b t hb
  rw [holder_guarded (guarded_holder hguarded hobjects hobject)]
  refine ⟨⟨openfgaRoleObject rp.grant.role, ?_, ?_⟩, ⟨platformObject name, ?_, ?_⟩, ?_⟩
  · exact (haligned.untouched _ (by simp [assignmentRelations])).2
      ((hyields _).2 (.role rp hrp₀ objects hobjects object hobject))
  · rw [check_direct rfl, ← hmember, ← hrole]
    exact hdue _ (.assignee a ha) (by simp [assignmentRelations])
  · exact (haligned.untouched _ (by simp [assignmentRelations])).2
      ((hyields _).2 (.guard rp hrp₀ objects hobjects object hobject hguarded))
  · rw [check_direct rfl]
    exact hdue _ (.platform roleCovenanter "covenanter" List.mem_cons_self m hm
      ((memberRoleFilter_covenanter hm).2 hcov)) (by simp [assignmentRelations])
  · rintro ⟨p, hp, hfrozen⟩
    have hp₀ := (haligned.untouched _ (by simp [assignmentRelations])).1 hp
    obtain rfl := ((hyields _).1 hp₀).of_platform
    rw [check_direct rfl] at hfrozen
    have hfrozen₀ := (haligned.untouched _ (by simp [assignmentRelations])).1 hfrozen
    obtain ⟨m', hm', huser, hisfrozen⟩ := ((hyields _).1 hfrozen₀).of_frozen
    rw [haligned.surroundings.members] at hm
    obtain rfl := w₀.roles.db.members.eq_of_pk hm' hm (openfgaMemberUser_inj huser.symm)
    exact Bool.false_ne_true ((not_frozen hcov.1).symm.trans hisfrozen)

/-- What Django grants through a projected role is allowed at an aligned store. -/
theorem Aligned.allows {w₀ w : AuthorityState rt} {name : String}
    (haligned : Aligned (platformObject name) w₀ w)
    (hrebuild : projectAuthorizationTuples rt w₀.roles.db permissions w₀.clock
      (platformObject name) = .ok w₀.store)
    (hm : m ∈ w.roles.db.members.rows)
    (hguarded : permissionRequiresCovenanter permissionCode = true) {rp : RolePermissionRow}
    {role : Role}
    (h : HoldsThrough rt w.roles.db permissions w.clock m permissionCode resource rp role) :
    openfgaMemberHasPermission w.store m.pk permissionCode resource = true := by
  obtain ⟨-, hcov⟩ := legacy_guards hm hguarded h.legacy
  obtain ⟨hrp, rfl, a, ha, hmember, hrole⟩ := h.assignee hm hcov
  obtain ⟨objects, hobjects⟩ :=
    project_objects hrebuild (hrp.of_surroundings haligned.surroundings)
  have hholds : ∀ object ∈ objects,
      openfgaCheck w.store (openfgaMemberUser m.pk) "holder" object = true := fun _ hobject =>
    haligned.holds_object hrebuild hm hcov hrp hguarded ha hmember hrole hobjects hobject
  cases resource with
  | none =>
    apply hholds
    unfold permissionObjectsForRolePermission at hobjects
    simp only at hobjects
    split at hobjects
    · obtain rfl := Except.ok.inj hobjects
      exact List.mem_cons_self
    · obtain ⟨resourceIds, -, hobjects⟩ := bind_eq_ok.1 hobjects
      obtain rfl := pure_eq_ok.1 hobjects
      exact List.mem_cons_self
  | some resourceId =>
    rw [openfgaMemberHasPermission, Bool.or_eq_true]
    exact (applies_projected h.plain h.applies hobjects).imp (hholds _) (hholds _)

/-- The keeper's state after a rebuild. -/
def keeperState : AuthorityState textRuntime where
  roles := {
    db := keeperDirectory
    templates := Table.empty
    grants := Table.empty
    events := Journal.empty }
  store := keeperStore
  clock := 5

/-- A refusal whose deletion is lost, and a revocation that raises. -/
def keeperCalls : List BoundaryCall := [
  .decide 1 keeper "finance.pay" none none lostDeletion,
  .change ⟨1, "g-1", .revoke 999 none none⟩ ⟨fun _ => false, true⟩]

/-- The keeper's administrator role. -/
def keeperRole : Role := ⟨104, 102, roleAdministrator, "", .active⟩

def keeperPermission : RolePermissionRow :=
  ⟨⟨104, "governance.manage"⟩, "shelf", .obj [("resource_id", .str "r1")]⟩

theorem keeper_holds : HoldsThrough textRuntime keeperDirectory keeperPermissions 7 keeper
    "governance.manage" (some "r1") keeperPermission keeperRole where
  legacy := rfl
  granted := List.mem_filter.2 ⟨List.mem_singleton_self _, by decide⟩
  applies := rfl
  ofRole := ⟨by decide, rfl⟩
  kind := .inl (by decide)
  plain := ⟨_, rfl, fun e he => .inl (by
    rw [List.mem_singleton.1 he]
    exact ⟨rfl, "r1", rfl⟩)⟩

end LiveOs.Authorization
