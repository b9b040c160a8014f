import LiveOs.Proposals.Voting

/-!
# Approval slots

The services of `core/proposal_services.py` that work on a proposal alone: who may fill a slot, and
the creation and approval of a proposal that needs slots. Permissions are those of the local
authorization backend.
-/

namespace LiveOs.Proposals

open Lib EventLedger Roles

variable {rt : Runtime}

/-! ## Who may decide -/

/-- `ADMINISTRATION_VIEW_ADMIN_PERMISSION`. -/
def administrationViewAdminPermission : String := "governance.view_admin"

/-- `member_can_administer(member)`. -/
def memberCanAdminister (db : Directory) (now : Nat) (m : Member) : Bool :=
  legacyMemberHasPermission db now m administrationViewAdminPermission none

/-- `is_finance_reviewer(member)`. -/
def isFinanceReviewer (db : Directory) (now : Nat) (m : Member) : Bool :=
  legacyMemberHasPermission db now m "finance.review" none

/-- `_member_role_for_proposal(member, proposal)`. -/
def memberRoleForProposal (s : ProposalState rt) (now : Nat) (m : Member) : List String :=
  (if memberCanAdminister s.roles.db now m then ["governance", "second_governance"] else []) ++
    (if isFinanceReviewer s.roles.db now m then ["finance"] else [])

/-- The approving decisions on a proposal. -/
def existingApprovals (decisions : List ApprovalDecision) (proposalId : String) :
    List ApprovalDecision :=
  decisions.filter fun d => d.proposal = proposalId && d.decision = .approved

/-- `member_available_approval_roles(member, proposal)`. -/
def memberAvailableApprovalRoles (s : ProposalState rt) (now : Nat) (m : Member)
    (p : ApprovalProposal) : List String :=
  let memberRoles := memberRoleForProposal s now m
  let approved := proposalApprovedRoles s.decisions.rows p
  let already := (s.decisions.rows.filter fun d =>
    d.proposal = p.proposalId && d.approver = m.pk).map ApprovalDecision.role
  (proposalRequiredRoleGroups p).flatMap fun group =>
    if group.any fun role => approved.contains role then []
    else sortedRoles (group.filter fun role =>
      memberRoles.contains role && !already.contains role)

/-! ## Creation -/

/-- The text of `raise_proposal_flow_unavailable()`. -/
def proposalFlowUnavailableMessage : String :=
  "统一提案流程正在迁移，当前决策操作暂不可用。报名资料已保留，请稍后再试。"

/-- The arguments of `create_approval_proposal`. -/
structure CreateApprovalArgs where
  proposalType : ProposalType
  title : String
  submittedBy : Member
  dedupeKey : String
  targetType : String
  targetId : String
  summary : String
  publicReason : String
  approvalTier : Tier
  metadata : List (String × Json)

/-- The row that `create_approval_proposal` inserts. -/
def newApprovalProposal (env : ProposalEnv) (args : CreateApprovalArgs) : ApprovalProposal where
  proposalId := "proposal-" ++ env.uuid
  proposalType := args.proposalType
  title := args.title
  summary := args.summary
  publicReason := args.publicReason
  approvalTier := args.approvalTier
  targetType := args.targetType
  targetId := args.targetId
  dedupeKey := args.dedupeKey
  submittedBy := args.submittedBy.pk
  submittedAt := env.now
  metadata := args.metadata

/-- `create_approval_proposal(...)`. -/
def createApprovalProposal (env : ProposalEnv) (s : ProposalState rt) (args : CreateApprovalArgs) :
    Except Error (ProposalState rt × ApprovalProposal) := do
  rejectIf (args.dedupeKey = "") (.domain "dedupe_key 不能为空。")
  rejectIf (args.proposalType = .memberApplication) (.domain proposalFlowUnavailableMessage)
  match existingProposal s args.proposalType args.dedupeKey with
  | some existing => return (s, existing)
  | none => do
    let p := newApprovalProposal env args
    let proposals ← s.proposals.insert p Error.integrity
    let s ← appendProposalEvent { s with proposals := proposals } env.now p
      "approval_proposal_submitted" "submitted" args.submittedBy
    return (s, p)

/-! ## Decisions -/

/-- The checks of a decision on a submitted proposal that approvals and rejections share; their
messages differ. -/
def slotChecks (env : ProposalEnv) (s : ProposalState rt) (locked : ApprovalProposal) (m : Member)
    (role statusMessage roleMessage : String) : Except Error Unit := do
  rejectIf (locked.proposalType = .memberApplication) (.domain proposalFlowUnavailableMessage)
  rejectIf (locked.status ≠ .submitted) (.domain statusMessage)
  rejectIf (!(validApprovalRoles locked).contains role) (.domain roleMessage)
  rejectIf (!(memberRoleForProposal s env.now m).contains role) (.domain "你不具备该审批角色。")

/-- The checks of `approve_proposal` on the approvals there are. -/
def approvalOrderChecks (existing : List ApprovalDecision) (m : Member) (role : String) :
    Except Error Unit := do
  rejectIf (existing.any fun d => d.approver = m.pk)
    (.domain "同一人不能同时满足多个审批角色。")
  rejectIf (role = "second_governance" &&
      existing.any fun d => d.role = "governance" && d.approver = m.pk)
    (.domain "治理二次确认人不能与第一次治理审批人为同一人。")
  rejectIf (role = "second_governance" && !(existing.any fun d => d.role = "finance"))
    (.domain "需先完成财务确认。")
  rejectIf (role = "finance" && !(existing.any fun d => d.role = "governance"))
    (.domain "需先完成治理采纳。")

/-- The row that a decision inserts. -/
def newDecision (env : ProposalEnv) (proposalId : String) (approver : Nat) (role : String)
    (decision : SlotDecision) (reason : String) : ApprovalDecision where
  approvalId := "approval-" ++ env.uuid
  proposal := proposalId
  approver := approver
  role := role
  decision := decision
  reason := reason

/-- `approve_proposal(...)`. -/
def approveProposal (env : ProposalEnv) (s : ProposalState rt) (proposalId : String)
    (approvedBy : Member) (role reason : String) :
    Except Error (ProposalState rt × ApprovalProposal) := do
  let locked ← lockProposal s proposalId
  slotChecks env s locked approvedBy role "只能审批状态为'已提交'的提案。"
    ("该提案不需要 " ++ role ++ " 审批。")
  approvalOrderChecks (existingApprovals s.decisions.rows locked.proposalId) approvedBy role
  let decisions ← s.decisions.insert
    (newDecision env locked.proposalId approvedBy.pk role .approved reason) Error.integrity
  let s := { s with decisions := decisions }
  let approved := proposalIsApproved s.decisions.rows locked
  let locked := if approved
    then { locked with status := .approved, resolvedAt := some env.now } else locked
  let s ← appendProposalEvent (saveProposal s locked) env.now locked
    (if approved then "approval_proposal_approved" else "approval_proposal_submitted")
    ("approved_" ++ role) approvedBy
  return (s, locked)

end LiveOs.Proposals
