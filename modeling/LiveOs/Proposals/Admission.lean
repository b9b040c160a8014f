import LiveOs.Proposals.Model
import LiveOs.Roles.Catalog

/-!
# The member admission adapter

`core/proposal_adapters.py` and the one adapter it loads, `core/member_admission_proposal_adapter.py`:
who is excluded from a vote, what a resolution does to the application, and how an approved
admission is executed.
-/

namespace LiveOs.Proposals

open Lib EventLedger Roles

variable {rt : Runtime}

/-- `{**metadata, key: value}`. -/
def setEntry (metadata : List (String × Json)) (key : String) (value : Json) :
    List (String × Json) :=
  if metadata.any fun e => e.1 = key
  then metadata.map fun e => if e.1 = key then (key, value) else e
  else metadata ++ [(key, value)]

/-- `_application_for(proposal)`. -/
def applicationFor (s : ProposalState rt) (p : ApprovalProposal) :
    Except Error MemberApplication := do
  rejectIf (p.targetType ≠ "member_application" ∨ p.targetId = "")
    (.domain "成员准入提案缺少有效报名来源。")
  match s.applications.get? p.targetId with
  | none => .error (.domain "成员准入提案关联的报名不存在。")
  | some application => .ok application

/-- `_excluded_member_id(proposal)`. -/
def excludedMemberId (s : ProposalState rt) (p : ApprovalProposal) : Except Error (Option Nat) := do
  let application ← applicationFor s p
  return application.linkedMember

/-- Save an application whose id is not changed. -/
def saveApplication (s : ProposalState rt) (applicationId : String)
    (fields : MemberApplication → MemberApplication)
    (h : ∀ a, (fields a).applicationId = a.applicationId) : ProposalState rt :=
  { s with applications := s.applications.modify applicationId fields h fun _ => rfl }

/-- The part of `_execute_member_admission` that needs no writes. -/
def admissionPreconditions (s : ProposalState rt) (application : MemberApplication) (actor : Nat) :
    Except Error Member := do
  match application.linkedMember with
  | none => .error (.domain "报名尚未绑定成员身份。")
  | some linkedMember =>
    match s.roles.db.members.get? linkedMember with
    | none => .error (.doesNotExist "Member")
    | some applicant => do
      rejectIf (applicant.pk = actor) (.domain "申请人不能执行自己的准入提案。")
      rejectIf (applicant.status = .suspended ∨ applicant.status = .exited)
        (.domain "申请人当前状态不允许准入。")
      rejectIf (!applicant.accountActive) (.domain "申请人的登录账号已停用。")
      return applicant

/-- `now + timedelta(days=365)`. -/
def termEnd (now : Nat) : Nat := now + days 365

/-- The active assignments that keep an admission from being executed. -/
def conflictingTerm (db : Directory) (applicant : Nat) (role : Role) (now : Nat) : Bool :=
  db.assignments.rows.any fun a => a.member = applicant && a.role = role.pk &&
    a.status = .active && a.startAt < termEnd now && now < a.endAt

/-- `_execute_member_admission(proposal, actor)`. -/
def executeMemberAdmission (env : ProposalEnv) (s : ProposalState rt) (p : ApprovalProposal)
    (actor : Nat) : Except Error (ProposalState rt × List (String × Json)) := do
  let application ← applicationFor s p
  let applicant ← admissionPreconditions s application actor
  let (db, covenanterRole) ← ensureCatalogRole s.roles.db roleCovenanter
  rejectIf (conflictingTerm db applicant.pk covenanterRole env.now)
    (.domain "申请人已有有效或冲突的守约者任期。")
  let (roles, assignment) ← createRoleAssignment ⟨env.now, env.grantUuid⟩
    { s.roles with db := db } applicant.pk covenanterRole (some actor) (some env.now)
    (some (termEnd env.now)) .proposal false
  let members := roles.db.members.modify applicant.pk (fun m => { m with status := .admitted })
    (fun _ => rfl) fun _ => rfl
  let s := { s with roles := { roles with db := { roles.db with members := members } } }
  let s := saveApplication s application.applicationId (fun a => { a with
    status := .admitted
    decidedBy := some actor
    decidedAt := some env.now
    metadata := setEntry (setEntry a.metadata "proposal_outcome" (.str "approved"))
      "admission_role_assignment_id" (.scalar (.int assignment.pk)) }) fun _ => rfl
  return (s, [("application_id", .str application.applicationId),
    ("role_assignment_id", .scalar (.int assignment.pk)), ("role_code", .str "covenanter")])

/-- `_sync_member_application_resolution(proposal, actor)`. -/
def syncMemberApplicationResolution (s : ProposalState rt) (p : ApprovalProposal) (actor : Nat) :
    Except Error (ProposalState rt) :=
  match s.resolutions.get? p.proposalId with
  | none => .error (.doesNotExist "ProposalResolution")
  | some resolution =>
    if resolution.outcome = .approved then .ok s
    else do
      let application ← applicationFor s p
      return saveApplication s application.applicationId (fun a => { a with
        status := .rejected
        decidedBy := some actor
        decidedAt := some resolution.decidedAt
        metadata := setEntry (setEntry a.metadata "proposal_outcome"
          (.str resolution.outcome.value)) "proposal_resolution_reason"
          (.str resolution.reasonCode) }) fun _ => rfl

/-! ## The registry -/

/-- `ProposalTypeAdapter`. -/
structure ProposalTypeAdapter (rt : Runtime) where
  strategyType : StrategyType
  initiationPermission : String
  resolutionPermission : String
  executionPermission : String
  executor : ProposalEnv → ProposalState rt → ApprovalProposal → Nat →
    Except Error (ProposalState rt × List (String × Json))
  excludedMemberId : ProposalState rt → ApprovalProposal → Except Error (Option Nat)
  resolutionCallback : ProposalState rt → ApprovalProposal → Nat → Except Error (ProposalState rt)

def memberAdmissionAdapter : ProposalTypeAdapter rt where
  strategyType := .electorate
  initiationPermission := ""
  resolutionPermission := "governance.resolve_proposals"
  executionPermission := "governance.manage_people"
  executor := executeMemberAdmission
  excludedMemberId := excludedMemberId
  resolutionCallback := syncMemberApplicationResolution

/-- `proposal_adapter_for(proposal_type)`. -/
def proposalAdapterFor (proposalType : ProposalType) : Except Error (ProposalTypeAdapter rt) :=
  match proposalType with
  | .memberApplication => .ok memberAdmissionAdapter
  | .procurementAcceptance | .procurementPayment | .inventoryAdjustment | .disputeResolution =>
    .error (.domain "该提案业务尚未迁移到统一提案系统。")

end LiveOs.Proposals
