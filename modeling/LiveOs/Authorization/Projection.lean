import LiveOs.Authorization.Rebuild
import LiveOs.Roles.Assignments

/-!
# The incremental projection

`core/openfga_projection_services.py`: what the assignment services write to the tuple store, and
delete from it, once their transaction has committed. Requests to the store succeed, and deleting an
absent tuple does nothing, up to the last sections: there the decisions of
`core/authorization_services.py` are made at a store whose requests may be lost.
-/

namespace LiveOs.Authorization

open Lib EventLedger Roles

variable {rt : Runtime}

/-- A permission of the role starts with `finance.` or `governance.`. -/
def hasGuardedPermission (db : Directory) (role : Role) : Bool :=
  db.rolePermissions.any fun rp =>
    rp.role = role.pk && permissionRequiresCovenanter rp.permissionCode

/-- `_role_assignment_tuples(assignment)`. -/
def roleAssignmentTuples (db : Directory) (platform : Entity) (a : RoleAssignment) :
    List RelationTuple :=
  let assignee : RelationTuple :=
    ⟨openfgaMemberUser a.member, "assignee", openfgaRoleObject a.role⟩
  match db.roles.get? a.role with
  | none => []
  | some role =>
    match catalogRoleDefinitionForRole db role with
    | some definition =>
      ((platformRelations.filter fun e => e.1 = definition.displayName).map fun e =>
          ⟨openfgaMemberUser a.member, e.2, platform⟩) ++
        if definition.displayName = roleAdministrator then [assignee] else []
    | none => if hasGuardedPermission db role then [assignee] else []

/-- `_role_assignment_is_current(assignment)`. -/
def roleAssignmentIsCurrent (db : Directory) (now : Nat) (a : RoleAssignment) : Bool :=
  (db.roles.get? a.role).any fun role => (db.members.get? a.member).any fun member =>
    if a.status ≠ .active || role.status ≠ .active || now < a.startAt || a.endAt ≤ now ||
        !memberAllowsRoleFacts member then false
    else !roleRequiresCovenanter db role ||
      memberHasRole db now member [roleCovenanter] (some now)

/-- `_write_tuples(tuples)`. -/
def writeTuples (store tuples : List RelationTuple) : List RelationTuple := store ++ tuples

/-- `_delete_tuples(tuples)`. -/
def deleteTuples (store tuples : List RelationTuple) : List RelationTuple :=
  store.filter fun t => !tuples.contains t

/-- `remove_role_assignment_projection(assignment)`. -/
def removeRoleAssignmentProjection (db : Directory) (platform : Entity)
    (store : List RelationTuple) (a : RoleAssignment) : List RelationTuple :=
  deleteTuples store (roleAssignmentTuples db platform a)

/-- `project_role_assignment(assignment)`. -/
def projectRoleAssignment (db : Directory) (now : Nat) (platform : Entity)
    (store : List RelationTuple) (a : RoleAssignment) : List RelationTuple :=
  if roleAssignmentIsCurrent db now a then
    writeTuples store (roleAssignmentTuples db platform a)
  else removeRoleAssignmentProjection db platform store a

/-! ## The services with what they do on commit -/

/-- The database, the tuple store and the time of the last step. -/
structure AuthorityState (rt : Runtime) where
  roles : RoleState rt
  store : List RelationTuple
  clock : Nat

inductive AuthorityChange where
  | create (member role : Nat) (grantedBy : Option Nat) (startAt endAt : Option Nat)
    (sourceType : SourceType) (skipValidation : Bool)
  | revoke (assignment : Nat) (revokedBy endAt : Option Nat)

/-- `create_role_assignment(...)` and its callbacks: the projections of the expired rows are
removed, and a row that was created is projected. -/
def createProjected (env : RoleEnv) (platform : Entity) (s : RoleState rt)
    (store : List RelationTuple) (memberPk rolePk : Nat) (grantedBy startAt endAt : Option Nat)
    (sourceType : SourceType) (skipValidation : Bool) :
    Except Error (RoleState rt × List RelationTuple) :=
  match s.db.roles.get? rolePk with
  | none => .error (.doesNotExist "Role")
  | some role => do
    let startsAt := startAt.getD env.now
    let expired := s.db.assignments.rows.filter (elapsed memberPk rolePk startsAt)
    let created := (currentAssignment (expireAssignments s.db memberPk rolePk startsAt) memberPk
      rolePk startsAt).isNone
    let (s, a) ← createRoleAssignment env s memberPk role grantedBy startAt endAt sourceType
      skipValidation
    let store := expired.foldl (removeRoleAssignmentProjection s.db platform) store
    return (s, if created then projectRoleAssignment s.db env.now platform store a else store)

/-- `revoke_role_assignment(...)` and its callback. -/
def revokeProjected (env : RoleEnv) (platform : Entity) (s : RoleState rt)
    (store : List RelationTuple) (assignmentPk : Nat) (revokedBy endAt : Option Nat) :
    Except Error (RoleState rt × List RelationTuple) := do
  let (s, a) ← revokeRoleAssignment env s assignmentPk revokedBy endAt
  return (s, removeRoleAssignmentProjection s.db platform store a)

/-- A change made some time after the last one. -/
structure AuthorityCall where
  waited : Nat
  grantUuid : String
  change : AuthorityChange

/-- The surroundings of a call. -/
def AuthorityCall.env (c : AuthorityCall) (clock : Nat) : RoleEnv := ⟨clock + c.waited, c.grantUuid⟩

def runChange (platform : Entity) (w : AuthorityState rt) (c : AuthorityCall) :
    Except Error (RoleState rt × List RelationTuple) :=
  match c.change with
  | .create member role grantedBy startAt endAt sourceType skipValidation =>
    createProjected (c.env w.clock) platform w.roles w.store member role grantedBy startAt endAt
      sourceType skipValidation
  | .revoke assignment revokedBy endAt =>
    revokeProjected (c.env w.clock) platform w.roles w.store assignment revokedBy endAt

/-- One step. Time passes also when the change raises. -/
def authorityStep (platform : Entity) (w : AuthorityState rt) (c : AuthorityCall) :
    Except Error (AuthorityState rt) :=
  match runChange platform w c with
  | .ok (roles, store) => .ok ⟨roles, store, w.clock + c.waited⟩
  | .error _ => .ok { w with clock := w.clock + c.waited }

/-- The relations that the assignment services keep up. -/
def assignmentRelations : List String := ["covenanter", "deliberator", "administrator", "assignee"]

/-- The store contains what a rebuild would yield for those relations now. -/
def Complete (platform : Entity) (permissions : List RolePermissionRow) (w : AuthorityState rt) :
    Prop :=
  ∀ tuples, projectAuthorizationTuples rt w.roles.db permissions w.clock platform = .ok tuples →
    ∀ t ∈ tuples, t.relation ∈ assignmentRelations → t ∈ w.store

/-! ## The runtime boundary -/

/-- The settings of the authorization backend. -/
structure BackendSettings where
  backend : String
  storeId : String
  authorizationModelId : String

/-- How the requests of a decision end: whether the deletion reaches the store, and which checks
fail. -/
structure Requests where
  deleted : Bool
  failed : Nat → Bool

/-- `_check_openfga_permission(...)`: nothing where the request fails. -/
def checkOpenfgaPermission (store : List RelationTuple) (failed : Bool) (member : Nat)
    (object : Entity) : Option Bool :=
  if failed then none else some (openfgaCheck store (openfgaMemberUser member) "holder" object)

/-- The loop over the checks from the `i`-th on: the first that is allowed decides. -/
def runChecks (store : List RelationTuple) (failed : Nat → Bool) (member : Nat) :
    Nat → Bool → List Entity → Option Bool
  | _, unavailable, [] => if unavailable then none else some false
  | i, unavailable, object :: objects =>
    match checkOpenfgaPermission store (failed i) member object with
    | some true => some true
    | some false => runChecks store failed member (i + 1) unavailable objects
    | none => runChecks store failed member (i + 1) true objects

/-- The objects that a decision asks about, in order. -/
def checkedObjects (permissionCode : String) : Option String → List Entity
  | none => [openfgaPermissionObject permissionCode]
  | some resourceId => [openfgaGlobalResourcePermissionObject permissionCode,
      openfgaResourcePermissionObject permissionCode resourceId]

/-- `_openfga_member_has_permission(member, permission_code, resource)` with requests that may fail:
nothing where the store is not configured or no check is allowed and one has failed. -/
def openfgaAnswer (settings : BackendSettings) (store : List RelationTuple)
    (failed : Nat → Bool) (member : Nat) (permissionCode : String) (resource : Option String) :
    Option Bool :=
  if settings.storeId = "" then none
  else runChecks store failed member 0 false (checkedObjects permissionCode resource)

/-- `current_keys` or `stale_keys` of a member. -/
def assignmentKeys (db : Directory) (now : Nat) (platform : Entity) (member : Nat)
    (current : Bool) : List RelationTuple :=
  (db.assignments.rows.filter fun a =>
    a.member = member && roleAssignmentIsCurrent db now a == current).flatMap
      (roleAssignmentTuples db platform)

/-- `stale_keys - current_keys`. -/
def staleKeys (db : Directory) (now : Nat) (platform : Entity) (member : Nat) :
    List RelationTuple :=
  (assignmentKeys db now platform member false).filter fun t =>
    !(assignmentKeys db now platform member true).contains t

/-- `remove_non_current_role_assignment_projections(member)`. -/
def removeNonCurrentRoleAssignmentProjections (settings : BackendSettings) (db : Directory)
    (now : Nat) (platform : Entity) (store : List RelationTuple) (deleted : Bool) (member : Nat) :
    List RelationTuple :=
  if settings.backend ≠ "openfga" ∨ staleKeys db now platform member = [] then store
  else if settings.storeId = "" ∨ settings.authorizationModelId = "" then store
  else if deleted then deleteTuples store (staleKeys db now platform member) else store

/-- `AuthorizationService.member_has_permission(...)`, with the store it leaves. -/
def memberHasPermission (settings : BackendSettings) (rt : Runtime) (db : Directory)
    (permissions : List RolePermissionRow) (now : Nat) (platform : Entity)
    (store : List RelationTuple) (requests : Requests) (m : Member) (permissionCode : String)
    (resource : Option String) (atTime : Option Nat) :
    Except Error (Bool × List RelationTuple) := do
  let django ← legacyMemberHasResourcePermission rt db permissions now m permissionCode resource
    atTime
  if settings.backend = "legacy" then return (django, store)
  else if django = false then
    return (false, removeNonCurrentRoleAssignmentProjections settings db now platform store
      requests.deleted m.pk)
  else
    let allowed := openfgaAnswer settings store requests.failed m.pk permissionCode resource
    if settings.backend = "openfga" then return (allowed.getD false, store)
    else return (false, store)

/-! ## Requests that are lost -/

/-- Which requests of a change reach the store; what fails is logged only. -/
structure Delivery where
  deletes : Nat → Bool
  write : Bool

/-- `remove_role_assignment_projection` for rows, the first of them by the `i`-th request. -/
def removeDelivered (db : Directory) (platform : Entity) (deletes : Nat → Bool) :
    Nat → List RelationTuple → List RoleAssignment → List RelationTuple
  | _, store, [] => store
  | i, store, a :: rest => removeDelivered db platform deletes (i + 1)
      (if deletes i then removeRoleAssignmentProjection db platform store a else store) rest

/-- `project_role_assignment(assignment)`, whose deletion would be the `i`-th. -/
def projectDelivered (db : Directory) (now : Nat) (platform : Entity) (delivery : Delivery)
    (i : Nat) (store : List RelationTuple) (a : RoleAssignment) : List RelationTuple :=
  if roleAssignmentIsCurrent db now a then
    if delivery.write then writeTuples store (roleAssignmentTuples db platform a) else store
  else removeDelivered db platform delivery.deletes i store [a]

/-- `createProjected` with requests that may be lost. -/
def createDelivered (env : RoleEnv) (platform : Entity) (delivery : Delivery) (s : RoleState rt)
    (store : List RelationTuple) (memberPk rolePk : Nat) (grantedBy startAt endAt : Option Nat)
    (sourceType : SourceType) (skipValidation : Bool) :
    Except Error (RoleState rt × List RelationTuple) :=
  match s.db.roles.get? rolePk with
  | none => .error (.doesNotExist "Role")
  | some role => do
    let startsAt := startAt.getD env.now
    let expired := s.db.assignments.rows.filter (elapsed memberPk rolePk startsAt)
    let created := (currentAssignment (expireAssignments s.db memberPk rolePk startsAt) memberPk
      rolePk startsAt).isNone
    let (s, a) ← createRoleAssignment env s memberPk role grantedBy startAt endAt sourceType
      skipValidation
    let store := removeDelivered s.db platform delivery.deletes 0 store expired
    return (s, if created then
      projectDelivered s.db env.now platform delivery expired.length store a else store)

/-- `revokeProjected` with a request that may be lost. -/
def revokeDelivered (env : RoleEnv) (platform : Entity) (delivery : Delivery) (s : RoleState rt)
    (store : List RelationTuple) (assignmentPk : Nat) (revokedBy endAt : Option Nat) :
    Except Error (RoleState rt × List RelationTuple) := do
  let (s, a) ← revokeRoleAssignment env s assignmentPk revokedBy endAt
  return (s, removeDelivered s.db platform delivery.deletes 0 store [a])

def deliverChange (platform : Entity) (w : AuthorityState rt) (c : AuthorityCall)
    (delivery : Delivery) : Except Error (RoleState rt × List RelationTuple) :=
  match c.change with
  | .create member role grantedBy startAt endAt sourceType skipValidation =>
    createDelivered (c.env w.clock) platform delivery w.roles w.store member role grantedBy startAt
      endAt sourceType skipValidation
  | .revoke assignment revokedBy endAt =>
    revokeDelivered (c.env w.clock) platform delivery w.roles w.store assignment revokedBy endAt

/-- What happens at the boundary: a change with its requests, or a decision some time later. -/
inductive BoundaryCall where
  | change (call : AuthorityCall) (delivery : Delivery)
  | decide (waited : Nat) (member : Member) (permissionCode : String) (resource : Option String)
    (atTime : Option Nat) (requests : Requests)

/-- One step of the boundary. Time passes also when a change or a decision raises. -/
def boundaryStep (settings : BackendSettings) (permissions : List RolePermissionRow)
    (platform : Entity) (w : AuthorityState rt) : BoundaryCall → Except Error (AuthorityState rt)
  | .change call delivery =>
    match deliverChange platform w call delivery with
    | .ok (roles, store) => .ok ⟨roles, store, w.clock + call.waited⟩
    | .error _ => .ok { w with clock := w.clock + call.waited }
  | .decide waited m permissionCode resource atTime requests =>
    match memberHasPermission settings rt w.roles.db permissions (w.clock + waited) platform w.store
        requests m permissionCode resource atTime with
    | .ok (_, store) => .ok { w with store := store, clock := w.clock + waited }
    | .error _ => .ok { w with clock := w.clock + waited }

end LiveOs.Authorization
