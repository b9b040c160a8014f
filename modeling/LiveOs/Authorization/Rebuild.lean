import LiveOs.Authorization.Model

/-!
# The rebuild of the tuple store

`_project_authorization_tuples` of `core/management/commands/openfga_rebuild_tuples.py`: seven loops
over what Django knows at one time, in the order of the source.
-/

namespace LiveOs.Authorization

open Lib EventLedger Roles

def financeOrganizationName : String := "大苹果财务组"

def financeRoleNames : List String := ["财务审核者", "财务付款者", "财务公开发布者"]

/-- `role__organization__role_catalog_key=ROLE_CATALOG_ORGANIZATION_KEY`. -/
def inCatalogOrganization (db : Directory) (role : Role) : Bool :=
  (db.organizations.get? role.organization).any fun o =>
    o.roleCatalogKey = some roleCatalogOrganizationKey

/-- The catalogue's administrator role. -/
def isAdministratorRole (db : Directory) (role : Role) : Bool :=
  inCatalogOrganization db role && role.name = roleAdministrator

/-- One of the three roles of the finance organization. -/
def isFinanceRole (db : Directory) (role : Role) : Bool :=
  ((db.organizations.get? role.organization).any fun o => o.name = financeOrganizationName) &&
    financeRoleNames.contains role.name

/-! ## Members -/

/-- The relations to the platform, each with its role. -/
def platformRelations : List (String × String) :=
  [(roleCovenanter, "covenanter"), (roleDeliberator, "deliberator"),
    (roleAdministrator, "administrator")]

/-- The loop over `platformRelations`. -/
def platformTuples (db : Directory) (checkedAt : Nat) (platform : Entity) : List RelationTuple :=
  platformRelations.flatMap fun (name, relation) =>
    (db.members.rows.filter (memberRoleFilter db checkedAt [name] (some checkedAt))).map fun m =>
      ⟨openfgaMemberUser m.pk, relation, platform⟩

/-- A member whose status or account freezes every guarded permission. -/
def isFrozenMember (m : Member) : Bool :=
  m.status = .suspended || m.status = .exited || m.user.any fun user => !user.isActive

/-- The loop over `frozen_members`. -/
def frozenTuples (db : Directory) (platform : Entity) : List RelationTuple :=
  (db.members.rows.filter isFrozenMember).map fun m =>
    ⟨openfgaMemberUser m.pk, "frozen_member", platform⟩

/-- The loop over the current assignments to certain roles of the members who hold a catalogue role,
with which `administrator_assignments` and `finance_assignments` both go. -/
def assigneeTuples (db : Directory) (checkedAt : Nat) (holderRole : String) (ofRole : Role → Bool) :
    List RelationTuple :=
  (db.assignments.rows.filter fun a =>
    ((db.members.get? a.member).any (memberRoleFilter db checkedAt [holderRole] (some checkedAt))) &&
      a.status = .active && ((db.roles.get? a.role).any fun role => role.status = .active &&
        ofRole role) && a.covers checkedAt).map fun a =>
    ⟨openfgaMemberUser a.member, "assignee", openfgaRoleObject a.role⟩

def administratorAssigneeTuples (db : Directory) (checkedAt : Nat) : List RelationTuple :=
  assigneeTuples db checkedAt roleAdministrator (isAdministratorRole db)

def financeAssigneeTuples (db : Directory) (checkedAt : Nat) : List RelationTuple :=
  assigneeTuples db checkedAt roleCovenanter (isFinanceRole db)

/-! ## Permissions -/

/-- `_resource_ids_for_role_permission(role_permission)`. -/
def resourceIdsForRolePermission (rt : Runtime) (rp : RolePermissionRow) :
    Except Error (List String) := do
  let constrainedId ← constraintGet rp.constraintsJson "resource_id"
  let constrainedIds ← constraintGet rp.constraintsJson "resource_ids"
  let items ← (if constrainedIds.toPy.truthy then jsonItems constrainedIds else .ok [])
  return (if constrainedId.toPy.truthy then [rt.str constrainedId.toPy] else []) ++
    (items.filter fun item => item.toPy.truthy).map fun item => rt.str item.toPy

/-- `_permission_objects_for_role_permission(role_permission)`. -/
def permissionObjectsForRolePermission (rt : Runtime) (rp : RolePermissionRow) :
    Except Error (List Entity) :=
  let permissionCode := rp.grant.permissionCode
  if isGlobalScope (strip rp.scope) then
    .ok [openfgaPermissionObject permissionCode,
      openfgaGlobalResourcePermissionObject permissionCode]
  else do
    let resourceIds ← resourceIdsForRolePermission rt rp
    return openfgaPermissionObject permissionCode ::
      resourceIds.map (openfgaResourcePermissionObject permissionCode)

/-- The tuples of one role permission. -/
def rolePermissionTuples (rt : Runtime) (platform : Entity) (rp : RolePermissionRow) :
    Except Error (List RelationTuple) := do
  let objects ← permissionObjectsForRolePermission rt rp
  return objects.flatMap fun object =>
    ⟨openfgaRoleObject rp.grant.role, "role", object⟩ ::
      if permissionRequiresCovenanter rp.grant.permissionCode then [⟨platform, "platform", object⟩]
      else []

/-- A loop over role permissions, up to the first that raises. -/
def permissionTuples (rt : Runtime) (platform : Entity) :
    List RolePermissionRow → Except Error (List RelationTuple)
  | [] => .ok []
  | rp :: rps => do
    let tuples ← rolePermissionTuples rt platform rp
    let rest ← permissionTuples rt platform rps
    return tuples ++ rest

/-- `role_permissions`. -/
def administratorPermissions (db : Directory) (permissions : List RolePermissionRow) :
    List RolePermissionRow :=
  permissions.filter fun rp => (db.roles.get? rp.grant.role).any fun role =>
    isAdministratorRole db role && role.status = .active

/-- `finance_role_permissions`. -/
def financePermissions (db : Directory) (permissions : List RolePermissionRow) :
    List RolePermissionRow :=
  permissions.filter fun rp => ((db.roles.get? rp.grant.role).any fun role =>
    isFinanceRole db role && role.status = .active) &&
      "finance.".toList.isPrefixOf rp.grant.permissionCode.toList

/-! ## Qualifications -/

/-- The loop over `qualifications`. -/
def qualifiedTuples (db : Directory) (checkedAt : Nat) : List RelationTuple :=
  (db.qualifications.rows.filter fun q =>
    ((db.members.get? q.member).any fun m => m.status.isRoleFact && m.accountActive) &&
      q.status = .active && ((db.domains.get? q.domain).any fun d => d.status = .active) &&
      q.validFrom ≤ checkedAt && q.openAt checkedAt).map fun q =>
    ⟨openfgaMemberUser q.member, "qualified_member", openfgaProfessionalDomainObject q.domain⟩

/-! ## The rebuild -/

/-- `_project_authorization_tuples(platform_object=...)` at the time `checkedAt`. -/
def projectAuthorizationTuples (rt : Runtime) (db : Directory)
    (permissions : List RolePermissionRow) (checkedAt : Nat) (platform : Entity) :
    Except Error (List RelationTuple) := do
  let administratorRoles ← permissionTuples rt platform (administratorPermissions db permissions)
  let financeRoles ← permissionTuples rt platform (financePermissions db permissions)
  return platformTuples db checkedAt platform ++ frozenTuples db platform ++
    administratorAssigneeTuples db checkedAt ++ financeAssigneeTuples db checkedAt ++
    administratorRoles ++ financeRoles ++ qualifiedTuples db checkedAt

end LiveOs.Authorization
