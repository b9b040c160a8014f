import LiveOs.Roles.Model

/-!
# Roles, permissions and qualifications in force

The queries of `core/member_roles.py`, `core/permission_services.py` and
`core/professional_qualification_services.py`. Every query takes the clock of its call, since an
omitted time means the time of the call, and conditions that Django joins on one alias are tests on
one row.
-/

namespace LiveOs.Roles

open Lib

/-! ## Member roles -/

/-- `MEMBER_ROLE_FACT_STATUSES` and `MEMBER_PERMISSION_STATUSES`. -/
def MemberStatus.isRoleFact : MemberStatus → Bool
  | .active | .admitted => true
  | _ => false

/-- `Q(user__isnull=True) | Q(user__is_active=True)` -/
def Member.accountActive (m : Member) : Bool := m.user.all User.isActive

/-- `member_allows_role_facts(member)`. -/
def memberAllowsRoleFacts (m : Member) : Bool :=
  if !m.status.isRoleFact then false
  else match m.user with
    | none => true
    | some user => user.isActive

/-- The window of an assignment contains the time. -/
def RoleAssignment.covers (a : RoleAssignment) (moment : Nat) : Bool :=
  a.startAt ≤ moment && moment < a.endAt

/-- `_current_catalog_role_filter(...)` on a member row. -/
def currentCatalogRoleFilter (db : Directory) (roleNames : List String) (moment : Nat)
    (m : Member) : Bool :=
  m.status.isRoleFact && m.accountActive && db.assignments.rows.any fun a =>
    a.member = m.pk && (db.roles.get? a.role).any fun role =>
      ((db.organizations.get? role.organization).any fun o =>
        o.roleCatalogKey = some roleCatalogOrganizationKey) &&
      roleNames.contains role.name && a.status = .active && role.status = .active &&
      a.covers moment

/-- `member_role_filter(...)` on a member row. -/
def memberRoleFilter (db : Directory) (now : Nat) (roleNames : List String)
    (checkedAt : Option Nat) (m : Member) : Bool :=
  let moment := checkedAt.getD now
  if roleNames.isEmpty || roleNames.any fun name => (roleDefinitionForName name).isNone then false
  else if roleNames.any fun name =>
      (roleDefinitionForName name).any RoleDefinition.requiresCovenanter then
    let covenanters := (db.members.rows.filter
      (currentCatalogRoleFilter db [roleCovenanter] moment)).map Member.pk
    currentCatalogRoleFilter db roleNames moment m && covenanters.contains m.pk
  else currentCatalogRoleFilter db roleNames moment m

/-- `active_member_role_names(member)`. -/
def activeMemberRoleNames (db : Directory) (now : Nat) (m : Member) (checkedAt : Option Nat) :
    List String :=
  if !memberAllowsRoleFacts m then []
  else ((roleDefinitions.map RoleDefinition.displayName).insertionSort fun a b => a ≤ b).filter
    fun name => db.members.rows.any fun row =>
      row.pk = m.pk && memberRoleFilter db now [name] checkedAt row

/-- `member_has_role(member, *role_names)`. -/
def memberHasRole (db : Directory) (now : Nat) (m : Member) (roleNames : List String)
    (checkedAt : Option Nat) : Bool :=
  if roleNames.isEmpty || roleNames.any fun name => (roleDefinitionForName name).isNone then false
  else (activeMemberRoleNames db now m checkedAt).any roleNames.contains

/-- `participation_status(member)`. -/
def participationStatus (db : Directory) (now : Nat) (m : Member) (checkedAt : Option Nat) :
    Option String :=
  if !memberAllowsRoleFacts m then none
  else if !memberHasRole db now m [roleCovenanter] checkedAt then some "contributor"
  else none

/-! ## Permissions -/

/-- `permission_requires_covenanter(permission_code)`. -/
def permissionRequiresCovenanter (permissionCode : String) : Bool :=
  "governance.".toList.isPrefixOf permissionCode.toList ||
    "finance.".toList.isPrefixOf permissionCode.toList

/-- The ids of the roles that active assignments of the member give at the time. -/
def assignedRoles (db : Directory) (m : Member) (checkedAt : Nat) : List Nat :=
  (db.assignments.rows.filter fun a => a.member = m.pk && a.status = .active &&
    ((db.roles.get? a.role).any fun role => role.status = .active) && a.covers checkedAt).map
    RoleAssignment.role

/-- `legacy_member_has_permission(member, permission_code)` without a resource. -/
def legacyMemberHasPermission (db : Directory) (now : Nat) (m : Member) (permissionCode : String)
    (atTime : Option Nat) : Bool :=
  let checkedAt := atTime.getD now
  if !memberAllowsRoleFacts m then false
  else if permissionRequiresCovenanter permissionCode &&
      !memberHasRole db now m [roleCovenanter] (some checkedAt) then false
  else db.rolePermissions.any fun rp =>
    (assignedRoles db m checkedAt).contains rp.role && rp.permissionCode = permissionCode

/-- `members_with_permission(permission_code)`. -/
def membersWithPermission (db : Directory) (now : Nat) (permissionCode : String)
    (atTime : Option Nat) : List Member :=
  let checkedAt := atTime.getD now
  let queryset := db.members.rows.filter fun m => m.status.isRoleFact && m.accountActive
  let queryset := if permissionRequiresCovenanter permissionCode
    then queryset.filter (memberRoleFilter db now [roleCovenanter] none)
    else queryset
  queryset.filter fun m => db.assignments.rows.any fun a =>
    a.member = m.pk && a.status = .active && a.covers checkedAt &&
      (db.roles.get? a.role).any fun role => role.status = .active &&
        db.rolePermissions.any fun rp => rp.role = role.pk && rp.permissionCode = permissionCode

/-! ## Professional qualifications -/

/-- `Q(valid_until__isnull=True) | Q(valid_until__gt=...)` -/
def MemberProfessionalQualification.openAt (q : MemberProfessionalQualification)
    (moment : Nat) : Bool :=
  q.validUntil.all fun until_ => moment < until_

/-- `has_current_professional_qualification(member, domain=domain)`. -/
def hasCurrentProfessionalQualification (db : Directory) (now : Nat) (m : Member)
    (domain : ProfessionalDomain) (atTime : Option Nat) : Bool :=
  let checkedAt := atTime.getD now
  if !memberAllowsRoleFacts m then false
  else if !memberHasRole db now m [roleCovenanter] (some checkedAt) then false
  else db.qualifications.rows.any fun q =>
    q.member = m.pk && q.status = .active &&
      ((db.domains.get? q.domain).any fun d => d.status = .active) &&
      q.validFrom ≤ checkedAt && q.openAt checkedAt && q.domain = domain.pk

/-- `members_with_current_professional_qualification(domain=domain)`. The second `filter` joins the
qualifications anew, so its test may be met by another row than the first one. -/
def membersWithCurrentProfessionalQualification (db : Directory) (now : Nat)
    (domain : ProfessionalDomain) (atTime : Option Nat) : List Member :=
  let checkedAt := atTime.getD now
  if domain.status ≠ .active then []
  else
    let covenanters := (db.members.rows.filter
      (memberRoleFilter db now [roleCovenanter] (some checkedAt))).map Member.pk
    let queryset := db.members.rows.filter fun m => covenanters.contains m.pk &&
      db.qualifications.rows.any fun q => q.member = m.pk && q.domain = domain.pk &&
        q.status = .active && q.validFrom ≤ checkedAt
    let queryset := queryset.filter fun m => db.qualifications.rows.any fun q =>
      q.member = m.pk && q.openAt checkedAt
    queryset.insertionSort fun a b => a.memberNo ≤ b.memberNo

end LiveOs.Roles
