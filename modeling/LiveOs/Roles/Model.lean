import LiveOs.Lib.PyJson
import LiveOs.Lib.Table

/-!
# Members, roles and qualifications

The rows of `core/models/identity.py` and `core/models/qualifications.py` that decide what a member
may do, and the catalogue of roles in `core/role_catalog.py`. Times are instants on one axis.
-/

namespace LiveOs.Roles

open Lib

/-! ## Rows -/

/-- `Member.Status`. -/
inductive MemberStatus where
  | active
  | pendingTraining
  | pendingReview
  | admitted
  | applicationRejected
  | suspended
  | exited
deriving DecidableEq

/-- The login account of a member. -/
structure User where
  isActive : Bool
deriving DecidableEq

structure Member where
  pk : Nat
  memberNo : String
  user : Option User
  displayName : String
  status : MemberStatus
  profile : List (String × Json)

/-- `Organization.Status`. -/
inductive OrganizationStatus where
  | active
  | inactive
  | archived
deriving DecidableEq

structure Organization where
  pk : Nat
  name : String
  roleCatalogKey : Option String
  status : OrganizationStatus
deriving DecidableEq

/-- `Role.Status`. -/
inductive RoleStatus where
  | active
  | inactive
  | retired
deriving DecidableEq

structure Role where
  pk : Nat
  organization : Nat
  name : String
  description : String
  status : RoleStatus
deriving DecidableEq

/-- `RoleAssignment.Status`. -/
inductive AssignmentStatus where
  | active
  | revoked
  | suspended
  | expired
deriving DecidableEq

/-- `RoleAssignment.SourceType`. -/
inductive SourceType where
  | direct
  | selfApplication
  | proposal
  | initialization
  | system
deriving DecidableEq

structure RoleAssignment where
  pk : Nat
  member : Nat
  role : Nat
  status : AssignmentStatus
  startAt : Nat
  endAt : Nat
  grantedBy : Option Nat
  revokedBy : Option Nat
  sourceType : SourceType
deriving DecidableEq

/-- A row of `RolePermission`, with the code of its permission. -/
structure RolePermission where
  role : Nat
  permissionCode : String
deriving DecidableEq

/-- `ProfessionalDomain.Status`. -/
inductive DomainStatus where
  | active
  | archived
deriving DecidableEq

structure ProfessionalDomain where
  pk : Nat
  code : String
  status : DomainStatus
deriving DecidableEq

/-- `MemberProfessionalQualification.Status`. -/
inductive QualificationStatus where
  | active
  | revoked
  | expired
deriving DecidableEq

structure MemberProfessionalQualification where
  pk : Nat
  member : Nat
  domain : Nat
  status : QualificationStatus
  validFrom : Nat
  validUntil : Option Nat
deriving DecidableEq

abbrev MemberTable := Table Member Nat String Member.pk fun m => some m.memberNo

abbrev OrganizationTable :=
  Table Organization Nat String Organization.pk Organization.roleCatalogKey

abbrev RoleTable := Table Role Nat (Nat × String) Role.pk fun r => some (r.organization, r.name)

abbrev AssignmentTable := Table RoleAssignment Nat Unit RoleAssignment.pk fun _ => none

abbrev DomainTable :=
  Table ProfessionalDomain Nat String ProfessionalDomain.pk fun d => some d.code

abbrev QualificationTable :=
  Table MemberProfessionalQualification Nat Unit MemberProfessionalQualification.pk fun _ => none

/-- What the database says of members and of their roles and qualifications. -/
structure Directory where
  members : MemberTable
  organizations : OrganizationTable
  roles : RoleTable
  assignments : AssignmentTable
  rolePermissions : List RolePermission
  domains : DomainTable
  qualifications : QualificationTable

/-! ## The role catalogue -/

def roleCatalogOrganizationName : String := "成员资格与职责"

def roleCatalogOrganizationKey : String := "member-role-catalog"

def roleCovenanter : String := "守约者"

def roleDeliberator : String := "执衡者"

def roleAdministrator : String := "管理员"

/-- The fields of `RoleDefinition` that a service reads. -/
structure RoleDefinition where
  code : String
  displayName : String
  description : String
  requiresCovenanter : Bool
deriving DecidableEq

/-- `ROLE_DEFINITIONS`. -/
def roleDefinitions : List RoleDefinition := [
  ⟨"covenanter", roleCovenanter, "通过守约者准入后取得的成员资格。", false⟩,
  ⟨"deliberator", roleDeliberator, "守约者主动申请、承担参与义务的一年期执衡职责。", true⟩,
  ⟨"administrator", roleAdministrator, "通过正常程序取得、只包含明确管理权限的独立职责。", true⟩]

def roleDefinitionForName (name : String) : Option RoleDefinition :=
  roleDefinitions.find? fun item => item.displayName = name

def roleDefinitionForCode (code : String) : Option RoleDefinition :=
  roleDefinitions.find? fun item => item.code = code

/-- `catalog_role_definition_for_role(role)`. -/
def catalogRoleDefinitionForRole (db : Directory) (role : Role) : Option RoleDefinition :=
  match roleDefinitionForName role.name with
  | none => none
  | some definition =>
    if db.organizations.rows.any fun o => o.pk = role.organization &&
        o.roleCatalogKey = some roleCatalogOrganizationKey &&
        o.name = roleCatalogOrganizationName && o.status = .active
    then some definition
    else none

end LiveOs.Roles
