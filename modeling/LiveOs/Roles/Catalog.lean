import LiveOs.Roles.Assignments

/-!
# Creating the role catalogue

`ensure_catalog_roles` of `core/role_catalog.py` and `ensure_catalog_role` of
`core/member_roles.py`.
-/

namespace LiveOs.Roles

open Lib

/-- The catalogue organization, created or brought back to its name and status. -/
def ensureCatalogOrganization (db : Directory) : Except Error (Directory × Organization) := do
  let (organizations, organization, _) ← db.organizations.getOrCreate
    (fun o => o.roleCatalogKey = some roleCatalogOrganizationKey)
    ⟨nextPk (db.organizations.rows.map Organization.pk), roleCatalogOrganizationName,
      some roleCatalogOrganizationKey, .active⟩ Error.multipleObjects Error.integrity
  let fields : Organization → Organization := fun o =>
    { o with name := roleCatalogOrganizationName, status := .active }
  let organizations := organizations.modify organization.pk fields (fun _ => rfl) fun _ => rfl
  return ({ db with organizations := organizations }, fields organization)

/-- The role of a definition, created or brought back to its description and status. -/
def ensureDefinedRole (db : Directory) (organization : Organization) (definition : RoleDefinition) :
    Except Error (Directory × Role) := do
  let (roles, role, _) ← db.roles.getOrCreate
    (fun r => r.organization = organization.pk && r.name = definition.displayName)
    ⟨nextPk (db.roles.rows.map Role.pk), organization.pk, definition.displayName,
      definition.description, .active⟩ Error.multipleObjects Error.integrity
  let fields : Role → Role := fun r =>
    { r with status := .active, description := definition.description }
  let roles := roles.modify role.pk fields (fun _ => rfl) fun _ => rfl
  return ({ db with roles := roles }, fields role)

/-- `ensure_catalog_roles()`, with the roles by code. -/
def ensureCatalogRoles (db : Directory) : Except Error (Directory × List (String × Role)) := do
  let (db, organization) ← ensureCatalogOrganization db
  roleDefinitions.foldlM (fun (db, roles) definition => do
    let (db, role) ← ensureDefinedRole db organization definition
    return (db, roles ++ [(definition.code, role)])) (db, [])

/-- `ensure_catalog_role(role_name)`. -/
def ensureCatalogRole (db : Directory) (roleName : String) : Except Error (Directory × Role) :=
  match roleDefinitionForName roleName with
  | none => .error (.value ("不是可直接授予的规范角色：" ++ roleName))
  | some definition => do
    let (db, roles) ← ensureCatalogRoles db
    match roles.find? fun e => e.1 = definition.code with
    | none => .error (.value "KeyError")
    | some (_, role) => return (db, role)

end LiveOs.Roles
