import LiveOs.EventLedger.Chain
import LiveOs.Exams.Model
import LiveOs.Lib.Rollback

/-!
# Resetting the roles of a world

`clear_role_permission_baseline` of `core/role_baseline.py`: what it deletes, in its order, and the
references that protect rows from being deleted. An event is referred to by its number.
-/

namespace LiveOs.Roles

open Lib EventLedger Exams

/-! ## Rows -/

/-- A `Role` with the role whose holders vote on its appointments. -/
structure BaselineRole where
  role : Role
  appointmentElectorateRole : Option Nat
deriving DecidableEq

/-- A row of `LedgerEntry` or of `ResourceTransaction`: it may point at a system event. -/
structure EventHolder where
  pk : Nat
  systemEvent : Option Nat
deriving DecidableEq

/-- The tables that the reset reads or writes. -/
structure BaselineDb where
  attempts : AttemptTable
  policies : PolicyTable
  questions : QuestionTable
  qualifications : QualificationTable
  events : EventTable
  ledgerEntries : List EventHolder
  resourceTransactions : List EventHolder
  assignments : AssignmentTable
  rolePermissions : List RolePermission
  roles : List BaselineRole

/-- The counts that the reset returns. -/
structure ClearedRows where
  roleAssignments : Nat
  rolePermissions : Nat
  roles : Nat
  professionalQualifications : Nat
  roleEvents : Nat
deriving DecidableEq

/-- `event_type__in=(ROLE_ASSIGNED, ROLE_REVOKED)`. -/
def isRoleEvent (event : SystemEvent) : Bool :=
  ["role_assigned", "role_revoked"].contains event.eventType

/-! ## Deletions

Each refuses with a `ProtectedError`, an integrity error, while a row that is not deleted with them
points at one of the rows under `on_delete=PROTECT`. -/

/-- `DeliberatorExamAttempt.objects.all().delete()`; nothing points at an attempt. -/
def deleteAttempts (db : BaselineDb) : Except Error BaselineDb :=
  .ok { db with attempts := .empty }

/-- `DeliberatorExamPolicy.objects.all().delete()`. -/
def deletePolicies (db : BaselineDb) : Except Error BaselineDb := do
  rejectIf (db.attempts.rows.any fun a => db.policies.rows.any fun p => p.version = a.policy)
    .integrity
  return { db with policies := .empty }

/-- `DeliberatorExamQuestion.objects.all().delete()`; nothing points at a question. -/
def deleteQuestions (db : BaselineDb) : Except Error BaselineDb :=
  .ok { db with questions := .empty }

/-- `MemberProfessionalQualification.objects.all().delete()`; nothing points at a qualification. -/
def deleteQualifications (db : BaselineDb) : Except Error BaselineDb :=
  .ok { db with qualifications := .empty }

/-- Some of the rows points at a role event. -/
def holdsRoleEvent (events : EventTable) (holders : List EventHolder) : Bool :=
  holders.any fun holder => events.rows.any fun event =>
    isRoleEvent event && holder.systemEvent = some event.seq

/-- `SystemEvent.objects.filter(event_type__in=(ROLE_ASSIGNED, ROLE_REVOKED)).delete()`. -/
def deleteRoleEvents (db : BaselineDb) : Except Error BaselineDb := do
  rejectIf (holdsRoleEvent db.events db.ledgerEntries ||
    holdsRoleEvent db.events db.resourceTransactions) .integrity
  return { db with events := db.events.delete isRoleEvent }

/-- `RoleAssignment.objects.all().delete()`: attempts and events may point at an assignment. -/
def deleteAssignments (db : BaselineDb) : Except Error BaselineDb := do
  rejectIf (db.assignments.rows.any fun a =>
    (db.attempts.rows.any fun attempt => attempt.roleAssignment = some a.pk) ||
      db.events.rows.any fun event => event.actorRoleAssignment = some a.pk) .integrity
  return { db with assignments := .empty }

/-- `RolePermission.objects.all().delete()`; nothing points at a role permission. -/
def deleteRolePermissions (db : BaselineDb) : Except Error BaselineDb :=
  .ok { db with rolePermissions := [] }

/-- `Role.objects.update(appointment_electorate_role=None)`. -/
def clearElectorateRoles (db : BaselineDb) : Except Error BaselineDb :=
  .ok { db with roles := db.roles.map fun r => { r with appointmentElectorateRole := none } }

/-- `Role.objects.all().delete()`: assignments and other roles protect a role, its permissions are
deleted with it. -/
def deleteRoles (db : BaselineDb) : Except Error BaselineDb := do
  rejectIf (db.roles.any fun r => (db.assignments.rows.any fun a => a.role = r.role.pk) ||
    db.roles.any fun other => other.appointmentElectorateRole = some r.role.pk) .integrity
  return { db with
    roles := []
    rolePermissions := db.rolePermissions.filter fun rp =>
      !db.roles.any fun r => r.role.pk = rp.role }

/-- `clear_role_permission_baseline()`. -/
def clearRolePermissionBaseline : EStateM Error BaselineDb ClearedRows :=
  atomic do
    update deleteAttempts
    update deletePolicies
    update deleteQuestions
    let qualificationCount := (← get).qualifications.rows.length
    update deleteQualifications
    let roleEventCount := ((← get).events.rows.filter isRoleEvent).length
    update deleteRoleEvents
    let assignmentCount := (← get).assignments.rows.length
    update deleteAssignments
    let bindingCount := (← get).rolePermissions.length
    update deleteRolePermissions
    update clearElectorateRoles
    let roleCount := (← get).roles.length
    update deleteRoles
    return ⟨assignmentCount, bindingCount, roleCount, qualificationCount, roleEventCount⟩

end LiveOs.Roles
