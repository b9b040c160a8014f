import LiveOs.Lib.RelationTuples
import LiveOs.Roles.Queries
import LiveOs.EventLedger.Validator

/-!
# OpenFGA objects, checks and the authorization model

The names by which `core/authorization_services.py` knows members, roles and permissions in OpenFGA,
the checks it asks for, the model `openfga/bigapple.authorization-model.fga`, and the decision of
`core/permission_services.py` that the checks are to agree with.
-/

namespace LiveOs.Authorization

open Lib EventLedger Roles

/-! ## Rows -/

/-- A `RolePermission` with its scope and its constraints. -/
structure RolePermissionRow where
  grant : RolePermission
  scope : String
  constraintsJson : Json

/-! ## Object names -/

/-- `openfga_member_user(member)`. -/
def openfgaMemberUser (member : Nat) : Entity := ⟨"member", toString member⟩

/-- `openfga_role_object(role_id)`. -/
def openfgaRoleObject (roleId : Nat) : Entity := ⟨"role", toString roleId⟩

/-- `openfga_professional_domain_object(domain)`. -/
def openfgaProfessionalDomainObject (domain : Nat) : Entity :=
  ⟨"professional_domain", toString domain⟩

/-- The platform object of the settings, by what follows `platform:`. -/
def platformObject (name : String) : Entity := ⟨"platform", name⟩

def permissionObjectType (permissionCode : String) : String :=
  if permissionRequiresCovenanter permissionCode then "guarded_permission" else "permission"

def resourcePermissionObjectType (permissionCode : String) : String :=
  if permissionRequiresCovenanter permissionCode then "guarded_resource_permission"
  else "resource_permission"

/-- The digit of six bits in the URL-safe base64 alphabet. -/
def base64Digit (n : Nat) : Char :=
  ("ABCDEFGHIJKLMNOPQRSTUVWXYZabcdefghijklmnopqrstuvwxyz0123456789-_".toList[n]?).getD 'A'

/-- `urlsafe_b64encode` without the padding. -/
def base64Digits : List Nat → List Char
  | [] => []
  | [a] => [base64Digit (a / 4), base64Digit (a % 4 * 16)]
  | [a, b] => [base64Digit (a / 4), base64Digit (a % 4 * 16 + b / 16), base64Digit (b % 16 * 4)]
  | a :: b :: c :: bytes => base64Digit (a / 4) :: base64Digit (a % 4 * 16 + b / 16) ::
      base64Digit (b % 16 * 4 + c / 64) :: base64Digit (c % 64) :: base64Digits bytes

example : base64Digits [226, 156, 147, 33] = "4pyTIQ".toList := by decide

/-- `openfga_object_id_part(value)` of a text. -/
def openfgaObjectIdPart (text : String) : String :=
  String.ofList (base64Digits (text.toUTF8.data.toList.map UInt8.toNat))

/-- `openfga_permission_object(permission_code)`. -/
def openfgaPermissionObject (permissionCode : String) : Entity :=
  ⟨permissionObjectType permissionCode, permissionCode⟩

/-- `openfga_global_resource_permission_object(permission_code)`. -/
def openfgaGlobalResourcePermissionObject (permissionCode : String) : Entity :=
  ⟨resourcePermissionObjectType permissionCode, openfgaObjectIdPart permissionCode ++ ".global"⟩

/-- `openfga_resource_permission_object(permission_code, resource_id)`. -/
def openfgaResourcePermissionObject (permissionCode resourceId : String) : Entity :=
  ⟨resourcePermissionObjectType permissionCode,
    openfgaObjectIdPart permissionCode ++ "." ++ openfgaObjectIdPart resourceId⟩

/-! ## The authorization model -/

def holder : Rewrite := .via "assignee" "role"

def guardedHolder : Rewrite :=
  .butNot (.both (.via "assignee" "role") (.via "covenanter" "platform"))
    (.via "frozen_member" "platform")

/-- `bigapple.authorization-model.fga`. -/
def authorizationModel : Schema
  | "platform", "covenanter" => some (.direct ["member"])
  | "platform", "deliberator" => some (.direct ["member"])
  | "platform", "administrator" => some (.direct ["member"])
  | "platform", "frozen_member" => some (.direct ["member"])
  | "professional_domain", "qualified_member" => some (.direct ["member"])
  | "role", "assignee" => some (.direct ["member"])
  | "permission", "role" => some (.direct ["role"])
  | "permission", "holder" => some holder
  | "guarded_permission", "role" => some (.direct ["role"])
  | "guarded_permission", "platform" => some (.direct ["platform"])
  | "guarded_permission", "holder" => some guardedHolder
  | "resource_permission", "role" => some (.direct ["role"])
  | "resource_permission", "holder" => some holder
  | "guarded_resource_permission", "role" => some (.direct ["role"])
  | "guarded_resource_permission", "platform" => some (.direct ["platform"])
  | "guarded_resource_permission", "holder" => some guardedHolder
  | _, _ => none

/-- Only `holder` refers to other relations. -/
def relationRank (relation : String) : Nat := if relation = "holder" then 1 else 0

/-- A check of OpenFGA on a store of tuples. -/
def openfgaCheck (tuples : List RelationTuple) (user : Entity) (relation : String)
    (object : Entity) : Bool :=
  authorizationModel.check tuples (relationRank relation + 1) user relation object

/-- `_openfga_member_has_permission(member, permission_code, resource)` over the tuples of an
available store; a resource by its primary key as a text. -/
def openfgaMemberHasPermission (tuples : List RelationTuple) (member : Nat)
    (permissionCode : String) (resource : Option String) : Bool :=
  let check := openfgaCheck tuples (openfgaMemberUser member) "holder"
  match resource with
  | none => check (openfgaPermissionObject permissionCode)
  | some resourceId => check (openfgaGlobalResourcePermissionObject permissionCode) ||
      check (openfgaResourcePermissionObject permissionCode resourceId)

/-! ## The Django decision -/

/-- The values that a loop over a JSON value goes through. -/
def jsonItems : Json → Except Error (List Json)
  | .arr xs => .ok xs
  | .obj es => .ok (es.map fun e => .str e.1)
  | .str s => .ok (s.toList.map fun c => .str (String.singleton c))
  | .scalar _ => .error .type

/-- `(constraints_json or {}).get(key)`; null where the key is missing. -/
def constraintGet (constraints : Json) (key : String) : Except Error Json :=
  if constraints.toPy.truthy = false then .ok (.scalar .none)
  else match constraints with
    | .obj es => .ok ((Json.get? es key).getD (.scalar .none))
    | _ => .error .attribute

def isGlobalScope (scope : String) : Bool := ["", "global", "all"].contains scope

/-- `_role_permission_applies_to_resource(role_permission, resource)`. -/
def rolePermissionAppliesToResource (rt : Runtime) (rp : RolePermissionRow)
    (resource : Option String) : Except Error Bool :=
  match resource with
  | none => .ok true
  | some resourceId => do
    let constrainedId ← constraintGet rp.constraintsJson "resource_id"
    let constrainedIds ← constraintGet rp.constraintsJson "resource_ids"
    if constrainedId.toPy.truthy then return rt.str constrainedId.toPy = resourceId
    else if constrainedIds.toPy.truthy then do
      let ids ← jsonItems constrainedIds
      return (ids.map fun id => rt.str id.toPy).contains resourceId
    else return isGlobalScope rp.scope

/-- Whether some row applies; the rows are asked in order up to the first that does. -/
def anyApplies (rt : Runtime) (resource : Option String) :
    List RolePermissionRow → Except Error Bool
  | [] => .ok false
  | rp :: rps => do
    let applies ← rolePermissionAppliesToResource rt rp resource
    if applies then return true else anyApplies rt resource rps

/-- The rows of the member's roles for the permission. -/
def grantedRows (db : Directory) (permissions : List RolePermissionRow) (m : Member)
    (permissionCode : String) (checkedAt : Nat) : List RolePermissionRow :=
  permissions.filter fun rp => (assignedRoles db m checkedAt).contains rp.grant.role &&
    rp.grant.permissionCode = permissionCode

/-- `legacy_member_has_permission(member, permission_code, resource=resource)`. -/
def legacyMemberHasResourcePermission (rt : Runtime) (db : Directory)
    (permissions : List RolePermissionRow) (now : Nat) (m : Member) (permissionCode : String)
    (resource : Option String) (atTime : Option Nat) : Except Error Bool :=
  let checkedAt := atTime.getD now
  if !memberAllowsRoleFacts m then .ok false
  else if permissionRequiresCovenanter permissionCode &&
      !memberHasRole db now m [roleCovenanter] (some checkedAt) then .ok false
  else anyApplies rt resource (grantedRows db permissions m permissionCode checkedAt)

theorem anyApplies_none (rt : Runtime) (rps : List RolePermissionRow) :
    anyApplies rt none rps = .ok (decide (rps ≠ [])) := by
  cases rps <;> rfl

/-- Without a resource the scopes and constraints are not read. -/
theorem legacyMemberHasResourcePermission_none {rt : Runtime} {db : Directory}
    {permissions : List RolePermissionRow} {now : Nat} {m : Member} {permissionCode : String}
    {atTime : Option Nat} (h : db.rolePermissions = permissions.map RolePermissionRow.grant) :
    legacyMemberHasResourcePermission rt db permissions now m permissionCode none atTime =
      .ok (legacyMemberHasPermission db now m permissionCode atTime) := by
  have hrows : (!decide (grantedRows db permissions m permissionCode (atTime.getD now) = [])) =
      db.rolePermissions.any fun rp => (assignedRoles db m (atTime.getD now)).contains rp.role &&
        rp.permissionCode = permissionCode := by
    rw [grantedRows, h, Bool.eq_iff_iff, Bool.not_eq_true', decide_eq_false_iff_not, List.any_map,
      List.any_eq_true, List.filter_eq_nil_iff]
    push Not
    rfl
  unfold legacyMemberHasResourcePermission legacyMemberHasPermission
  simp only [anyApplies_none, ne_eq, decide_not, hrows]
  split
  · rfl
  · split
    · rfl
    · rfl

end LiveOs.Authorization
