import LiveOs.Roles.Credentials

/-!
# Role assignments

`create_role_assignment` and `revoke_role_assignment` of `core/role_assignment_services.py`. A row
is saved through its `clean()`; bulk updates are not.
-/

namespace LiveOs.Roles

open Lib EventLedger

variable {rt : Runtime}

/-- `timedelta(days=n)` in microseconds. -/
def days (n : Nat) : Nat := n * 86400 * 1000000

/-- `default_role_assignment_end_at(start_at)`. -/
def defaultRoleAssignmentEndAt (startAt : Nat) : Nat := startAt + days 36500

/-- The primary key the database gives the next row. -/
def nextPk (keys : List Nat) : Nat := keys.foldr max 0 + 1

/-- `RoleAssignment.clean()`. -/
def RoleAssignment.clean (db : Directory) (a : RoleAssignment) : Except Error Unit := do
  rejectIf (a.endAt ≤ a.startAt) (.validation "角色任命结束时间必须晚于开始时间。")
  rejectIf (a.status = .active && db.assignments.rows.any fun b => b.member = a.member &&
      b.role = a.role && b.status = .active && a.startAt < b.endAt && b.pk ≠ a.pk)
    (.validation "同一成员不能重复拥有同一个 active 角色。")

/-- `_role_requires_covenanter(role)`. -/
def roleRequiresCovenanter (db : Directory) (role : Role) : Bool :=
  match catalogRoleDefinitionForRole db role with
  | some definition => definition.requiresCovenanter
  | none => db.rolePermissions.any fun rp =>
      rp.role = role.pk && permissionRequiresCovenanter rp.permissionCode

/-- `validate_role_assignment_prerequisites(member, role)`. -/
def validateRoleAssignmentPrerequisites (db : Directory) (now : Nat) (member : Member)
    (role : Role) : Except Error Unit := do
  rejectIf (member.status = .suspended || member.status = .exited)
    (.domain "成员状态已停用，不能授予新角色。")
  rejectIf (!member.accountActive) (.domain "登录账号已停用，不能授予新角色。")
  match catalogRoleDefinitionForRole db role with
  | some definition =>
    rejectIf (definition.requiresCovenanter && !memberHasRole db now member [roleCovenanter] none)
      (.domain ("授予" ++ definition.displayName ++ "前必须具有当前有效守约者资格。"))
  | none => do
    rejectIf (roleDefinitionForName role.name).isSome
      (.domain "内置角色只能从规范成员资格与职责目录授予。")
    rejectIf (roleRequiresCovenanter db role && !memberHasRole db now member [roleCovenanter] none)
      (.domain "授予该角色前必须具有当前有效守约者资格。")

/-- The elapsed active assignments of the member to the role. -/
def elapsed (memberPk rolePk startsAt : Nat) (a : RoleAssignment) : Bool :=
  a.member = memberPk && a.role = rolePk && a.status = .active && a.endAt ≤ startsAt

/-- `.update(status=EXPIRED)` on the elapsed assignments. -/
def expireAssignments (db : Directory) (memberPk rolePk startsAt : Nat) : Directory :=
  { db with assignments := {
      rows := db.assignments.rows.map fun a =>
        if elapsed memberPk rolePk startsAt a then { a with status := .expired } else a
      pkUnique := by
        have hpk : (RoleAssignment.pk ∘ fun a =>
            if elapsed memberPk rolePk startsAt a then { a with status := .expired } else a) =
            RoleAssignment.pk := by
          funext a
          by_cases h : elapsed memberPk rolePk startsAt a = true <;> simp [h]
        rw [List.map_map, hpk]
        exact db.assignments.pkUnique
      altUnique := by
        rw [List.filterMap_eq_nil_iff.2 fun _ _ => rfl]
        exact List.nodup_nil } }

/-- `order_by("-start_at", "-pk")`. -/
def latestFirst (a b : RoleAssignment) : Bool :=
  b.startAt < a.startAt || b.startAt = a.startAt && b.pk ≤ a.pk

/-- The current assignment that is reused. -/
def currentAssignment (db : Directory) (memberPk rolePk startsAt : Nat) : Option RoleAssignment :=
  ((db.assignments.rows.filter fun a => a.member = memberPk && a.role = rolePk &&
    a.status = .active && startsAt < a.endAt).insertionSort fun a b => latestFirst a b).head?

/-- The current assignment, or a new one with the fields given. -/
def reuseOrCreate (db : Directory) (memberPk rolePk startsAt endsAt : Nat)
    (grantedBy : Option Nat) (sourceType : SourceType) : Except Error (Directory × RoleAssignment) :=
  match currentAssignment db memberPk rolePk startsAt with
  | some assignment => .ok (db, assignment)
  | none => do
    let assignment : RoleAssignment := {
      pk := nextPk (db.assignments.rows.map RoleAssignment.pk)
      member := memberPk
      role := rolePk
      status := .active
      startAt := startsAt
      endAt := endsAt
      grantedBy := grantedBy
      revokedBy := none
      sourceType := sourceType }
    assignment.clean db
    let assignments ← db.assignments.insert assignment Error.integrity
    return ({ db with assignments := assignments }, assignment)

/-- `create_role_assignment(...)`. -/
def createRoleAssignment (env : RoleEnv) (s : RoleState rt) (memberPk : Nat) (role : Role)
    (grantedBy : Option Nat) (startAt endAt : Option Nat) (sourceType : SourceType)
    (skipValidation : Bool) : Except Error (RoleState rt × RoleAssignment) := do
  match s.db.members.get? memberPk with
  | none => .error (.doesNotExist "Member")
  | some member => do
    rejectIf ((roleDefinitionForName role.name).isSome &&
      (catalogRoleDefinitionForRole s.db role).isNone)
      (.domain "内置角色只能从规范成员资格与职责目录授予。")
    if !skipValidation then validateRoleAssignmentPrerequisites s.db env.now member role
    let startsAt := startAt.getD env.now
    let effectiveEndAt := endAt.getD (defaultRoleAssignmentEndAt startsAt)
    let db := expireAssignments s.db member.pk role.pk startsAt
    let (db, assignment) ←
      reuseOrCreate db member.pk role.pk startsAt effectiveEndAt grantedBy sourceType
    let s := { s with db := db }
    match catalogRoleDefinitionForRole db role with
    | none => return (s, assignment)
    | some definition =>
      if definition.displayName = roleCovenanter then
        let (s, _) ← issueCovenanterNumber env s member grantedBy
        return (s, assignment)
      else return (s, assignment)

/-- `revoke_role_assignment(...)`. -/
def revokeRoleAssignment (env : RoleEnv) (s : RoleState rt) (assignmentPk : Nat)
    (revokedBy : Option Nat) (endAt : Option Nat) :
    Except Error (RoleState rt × RoleAssignment) :=
  match s.db.assignments.get? assignmentPk with
  | none => .error (.doesNotExist "RoleAssignment")
  | some locked => do
    let fields : RoleAssignment → RoleAssignment := fun a => { a with
      status := .revoked, revokedBy := revokedBy, endAt := endAt.getD env.now }
    (fields locked).clean s.db
    return ({ s with db := { s.db with
      assignments := s.db.assignments.modify assignmentPk fields (fun _ => rfl) fun _ => rfl } },
      fields locked)

/-! ## Histories -/

/-- One change of a history: an assignment service, or any change of what it reads besides the
assignments, such as a member's status or account. -/
inductive RoleChange where
  | create (member : Nat) (role : Role) (grantedBy : Option Nat) (startAt endAt : Option Nat)
    (sourceType : SourceType) (skipValidation : Bool)
  | revoke (assignment : Nat) (revokedBy endAt : Option Nat)
  | surroundings (db : Directory)

/-- A change in its surroundings, as a step of the state. -/
def roleStep (s : RoleState rt) (c : RoleEnv × RoleChange) : Except Error (RoleState rt) :=
  match c.2 with
  | .create member role grantedBy startAt endAt sourceType skipValidation => do
    let (s, _) ← createRoleAssignment c.1 s member role grantedBy startAt endAt sourceType
      skipValidation
    return s
  | .revoke assignment revokedBy endAt => do
    let (s, _) ← revokeRoleAssignment c.1 s assignment revokedBy endAt
    return s
  | .surroundings db => .ok { s with db := { db with assignments := s.db.assignments } }

/-! ## Runs over credentials

`issue_credential` of `core/credential_services.py`, the revocation of a credential and the calls of
a run: numbers, credentials of other templates, role assignments and revocations. -/

/-- `issue_credential(...)` without metadata. -/
def issueCredential (env : RoleEnv) (s : RoleState rt) (template : CredentialTemplate)
    (member : Member) (dedupeKey : String) (sourceType : GrantSource)
    (issuedBy serialNo : Option Nat) (title : String) :
    Except Error (RoleState rt × CredentialGrant) :=
  issueCredentialUnlocked env s template member dedupeKey sourceType issuedBy serialNo title

/-- `CredentialGrant.objects.filter(grant_id=...).update(status=REVOKED)`. -/
def revokeCredential (s : RoleState rt) (grantId : String) : RoleState rt :=
  let grants := s.grants.modify grantId (fun g => { g with status := .revoked }) (fun _ => rfl)
    (fun _ => rfl)
  { s with grants := grants }

def covenanterNumberCode : String := "covenanter_number"

/-- One call of a run. -/
inductive CredentialChange where
  | number (member : Member) (issuedBy : Option Nat)
  | credential (template : CredentialTemplate) (other : template.code ≠ covenanterNumberCode)
    (member : Member) (dedupeKey : String) (sourceType : GrantSource)
    (issuedBy serialNo : Option Nat) (title : String)
  | revokeCredential (grantId : String)
  | role (change : RoleChange)

/-- A call in its surroundings, as a step of the state. -/
def credentialStep (s : RoleState rt) (c : RoleEnv × CredentialChange) :
    Except Error (RoleState rt) :=
  match c.2 with
  | .number member issuedBy => (issueCovenanterNumber c.1 s member issuedBy).map Prod.fst
  | .credential template _ member dedupeKey sourceType issuedBy serialNo title =>
    (issueCredential c.1 s template member dedupeKey sourceType issuedBy serialNo title).map
      Prod.fst
  | .revokeCredential grantId => .ok (revokeCredential s grantId)
  | .role change => roleStep s (c.1, change)

/-- The role is the covenanter role of the catalogue. -/
def isCovenanterRole (db : Directory) (role : Role) : Bool :=
  (catalogRoleDefinitionForRole db role).any fun d => d.displayName = roleCovenanter

/-- The member to whom a call grants the covenanter role. -/
def roleGrantedBy (s : RoleState rt) (c : RoleEnv × CredentialChange) : Option Nat :=
  match c.2, credentialStep s c with
  | .role (.create member role _ _ _ _ _), .ok _ =>
    if isCovenanterRole s.db role then some member else none
  | _, _ => none

/-- The member to whom a call issues a number, or grants the covenanter role. -/
def servedBy (s : RoleState rt) (c : RoleEnv × CredentialChange) : Option Nat :=
  match c.2, credentialStep s c with
  | .number member _, .ok _ => some member.pk
  | _, _ => roleGrantedBy s c

/-- The members that the calls of a run serve, in order. -/
def servedIn (by' : RoleState rt → RoleEnv × CredentialChange → Option Nat) :
    RoleState rt → List (RoleEnv × CredentialChange) → List Nat
  | _, [] => []
  | s, c :: cs => (by' s c).toList ++ servedIn by' (afterCall credentialStep s c) cs

/-- The members in the order in which they first occur, after those already there. -/
def addNew (known : List Nat) (members : List Nat) : List Nat :=
  members.foldl (fun known m => if m ∈ known then known else known ++ [m]) known

/-- `CredentialGrant.objects.filter(template__code="covenanter_number")`, oldest first. -/
def covenanterGrants (s : RoleState rt) : List CredentialGrant :=
  s.grants.rows.filter fun g => g.template = covenanterNumberCode

end LiveOs.Roles
