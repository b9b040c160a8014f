import LiveOs.Feedback.Services
import LiveOs.Procurement.Model
import LiveOs.Tasks.Payloads

/-!
# Work items of the workspace

`workspace/work_item_context.py`: which proposals and quotes wait for a member, read by one query
for each source, and the matters of a member in three lists. A query is ordered and cut before its
rows are sorted into the lists.
-/

namespace LiveOs.Workspace

open Lib Roles Proposals Procurement Tasks Feedback

/-! ## Rows -/

/-- What the lists read of a `Task`. -/
structure WorkTask where
  taskId : String
  title : String
  status : TaskStatus
  assigneeMember : Option Nat
  failureConsequence : String
  createdAt : Nat
  submittedAt : Option Nat
  reviewedAt : Option Nat

/-- A `SupplierQuote` with its `updated_at`. -/
structure WorkQuote where
  quote : SupplierQuote
  updatedAt : Option Nat

def WorkQuote.id (q : WorkQuote) : String := q.quote.quoteId

/-- The tables that the lists read; `proposalUpdatedAt` is the column `updated_at` of proposals and
`resourceNames` the names of the resources. -/
structure WorkDb (rt : Runtime) where
  state : ProposalState rt
  tasks : Table WorkTask String Unit WorkTask.taskId fun _ => none
  feedbacks : FeedbackTable
  quotes : Table WorkQuote String Unit WorkQuote.id fun _ => none
  proposalUpdatedAt : String → Option Nat
  resourceNames : List (String × String)

variable {rt : Runtime}

def matterDisplayLimit : Nat := 20

/-- `order_by("-k1", "-k2", ..., id)`; rows that agree in all of it stay in their order. -/
def newestFirst {α : Type} (keys : α → List Nat) (id : α → String) (rows : List α) : List α :=
  rows.insertionSort fun a b => keys b < keys a ∨ (keys a = keys b ∧ id a ≤ id b)

/-- A nullable time as a key: no time comes after every time. -/
def timeKey (t : Option Nat) : Nat := t.elim 0 (· + 1)

/-! ## Proposals that wait for a member -/

/-- `_approval_exists(role=..., decision=..., approver_id=...)`. -/
def approvalExists (decisions : List ApprovalDecision) (p : ApprovalProposal) (role : String)
    (decision : Option SlotDecision) (approver : Option Nat) : Bool :=
  decisions.any fun d => d.proposal = p.proposalId && d.role = role &&
    decision.all (fun x => d.decision = x) && approver.all fun a => d.approver = a

/-- The annotations of a proposal: the roles that have approved it and those in which the member
has decided. -/
structure SlotAnnotations where
  approvedGovernance : Bool
  approvedFinance : Bool
  approvedSecondGovernance : Bool
  actedGovernance : Bool
  actedFinance : Bool
  actedSecondGovernance : Bool

def slotAnnotations (decisions : List ApprovalDecision) (m : Member) (p : ApprovalProposal) :
    SlotAnnotations where
  approvedGovernance := approvalExists decisions p "governance" (some .approved) none
  approvedFinance := approvalExists decisions p "finance" (some .approved) none
  approvedSecondGovernance := approvalExists decisions p "second_governance" (some .approved) none
  actedGovernance := approvalExists decisions p "governance" none (some m.pk)
  actedFinance := approvalExists decisions p "finance" none (some m.pk)
  actedSecondGovernance := approvalExists decisions p "second_governance" none (some m.pk)

/-- The clauses that `is_gov` adds to `eligible`. -/
def eligibleForGovernance (p : ApprovalProposal) (a : SlotAnnotations) : Bool :=
  (p.proposalType = .procurementAcceptance && p.approvalTier = .single &&
    !a.approvedGovernance && !a.approvedFinance && !a.actedGovernance) ||
  (p.proposalType = .procurementAcceptance && p.approvalTier = .standard &&
    !a.approvedGovernance && !a.actedGovernance) ||
  ((p.proposalType = .procurementAcceptance && p.approvalTier = .major &&
    !a.approvedGovernance && !a.actedGovernance) ||
   (p.proposalType = .procurementAcceptance && p.approvalTier = .major &&
    !a.approvedSecondGovernance && !a.actedSecondGovernance)) ||
  (!(p.proposalType = .procurementAcceptance || p.proposalType = .procurementPayment) &&
    (!a.approvedGovernance && !a.actedGovernance))

/-- The clauses that `is_fin` adds to `eligible`. -/
def eligibleForFinance (p : ApprovalProposal) (a : SlotAnnotations) : Bool :=
  (p.proposalType = .procurementAcceptance && p.approvalTier = .single &&
    !a.approvedGovernance && !a.approvedFinance && !a.actedFinance) ||
  (p.proposalType = .procurementAcceptance &&
    (p.approvalTier = .standard || p.approvalTier = .major) &&
    !a.approvedFinance && !a.actedFinance) ||
  (p.proposalType = .procurementPayment && !a.approvedFinance && !a.actedFinance)

/-- `_actionable_proposal_queryset(member, is_gov=..., is_fin=...)`. -/
def actionableProposalQueryset (db : WorkDb rt) (m : Member) (isGov isFin : Bool) :
    List ApprovalProposal :=
  newestFirst (fun p => [p.submittedAt]) ApprovalProposal.proposalId
    (db.state.proposals.rows.filter fun p => p.status = .submitted &&
      let a := slotAnnotations db.state.decisions.rows m p
      (isGov && eligibleForGovernance p a) || (isFin && eligibleForFinance p a))

/-- `proposal_is_actionable_by(member, proposal)`. -/
def proposalIsActionableBy (s : ProposalState rt) (now : Nat) (m : Member) (p : ApprovalProposal) :
    Bool :=
  0 < (memberAvailableApprovalRoles s now m p).length

/-! ## The governance worksets -/

/-- `executable_queryset`. -/
def executableQueryset (db : WorkDb rt) : List ApprovalProposal :=
  newestFirst (fun p => [timeKey p.resolvedAt, p.submittedAt]) ApprovalProposal.proposalId
    (db.state.proposals.rows.filter fun p => p.status = .approved)

/-- `latest_acceptance_status`: the status of the newest acceptance proposal about the quote. -/
def latestAcceptanceStatus (db : WorkDb rt) (q : WorkQuote) : Option ProposalStatus :=
  (newestFirst (fun p => [p.submittedAt]) (fun _ => "")
    (db.state.proposals.rows.filter fun p => p.targetType = "supplier_quote" &&
      p.targetId = q.id && p.proposalType = .procurementAcceptance)).head?.map
        ApprovalProposal.status

/-- The quote waits for its receipt. -/
def awaitsReceipt (db : WorkDb rt) (q : WorkQuote) : Bool :=
  q.quote.decisionStatus = .accepted && q.quote.receiptStatus = .pending &&
    (latestAcceptanceStatus db q).all fun status => status = .executed

/-- The quote waits for its payment. -/
def awaitsPayment (q : WorkQuote) : Bool :=
  q.quote.decisionStatus = .accepted && q.quote.receiptStatus = .accepted &&
    q.quote.paymentStatus = .pending

/-- `receipt_queryset`. -/
def receiptQueryset (db : WorkDb rt) : List WorkQuote :=
  newestFirst (fun q => [q.quote.createdAt]) WorkQuote.id (db.quotes.rows.filter (awaitsReceipt db))

/-- `payment_queryset`. -/
def paymentQueryset (db : WorkDb rt) : List WorkQuote :=
  newestFirst (fun q => [q.quote.createdAt]) WorkQuote.id (db.quotes.rows.filter awaitsPayment)

/-- Microseconds in a number of hours. -/
def hours (n : Nat) : Nat := n * 3600000000

/-- The time lies more than `n` hours before now. -/
def olderThan (now n t : Nat) : Bool := t + hours n < now

/-- `Q(updated_at__lt=...) | Q(updated_at__isnull=True, created_at__lt=...)`. -/
def quoteOlderThan (now n : Nat) (q : WorkQuote) : Bool :=
  olderThan now n (q.updatedAt.getD q.quote.createdAt)

/-- `stats` of `_governance_worksets`. -/
structure GovernanceStats where
  approvalCount : Nat
  executeCount : Nat
  receiptCount : Nat
  paymentCount : Nat
  approvalOverdueCount : Nat
  executeOverdueCount : Nat
  receiptOverdueCount : Nat
  paymentOverdueCount : Nat

structure GovernanceWorksets where
  actionable : List ApprovalProposal
  executable : List ApprovalProposal
  receipt : List WorkQuote
  payment : List WorkQuote
  stats : GovernanceStats

/-- `_governance_worksets(member, is_gov=..., is_fin=...)`. -/
def governanceWorksets (db : WorkDb rt) (now : Nat) (m : Member) (isGov isFin : Bool) :
    GovernanceWorksets :=
  let actionable := actionableProposalQueryset db m isGov isFin
  let executable := executableQueryset db
  let receipt := receiptQueryset db
  let payment := paymentQueryset db
  { actionable := actionable.take matterDisplayLimit
    executable := executable.take matterDisplayLimit
    receipt := receipt.take matterDisplayLimit
    payment := payment.take matterDisplayLimit
    stats := {
      approvalCount := actionable.length
      executeCount := executable.length
      receiptCount := receipt.length
      paymentCount := payment.length
      approvalOverdueCount := (actionable.filter fun p => olderThan now 24 p.submittedAt).length
      executeOverdueCount :=
        (executable.filter fun p => p.resolvedAt.any (olderThan now 12)).length
      receiptOverdueCount := (receipt.filter (quoteOlderThan now 48)).length
      paymentOverdueCount := (payment.filter (quoteOlderThan now 72)).length } }

/-- `build_member_work_items(member)["approval_pending_count"]`. -/
def approvalPendingCount (db : WorkDb rt) (now : Nat) (m : Member) : Nat :=
  let isGov := memberCanAdminister db.state.roles.db now m
  let isFin := isFinanceReviewer db.state.roles.db now m
  if isGov || isFin then (governanceWorksets db now m isGov isFin).stats.approvalCount else 0

/-! ## Displays -/

/-- `ApprovalProposal.get_status_display()`. -/
def proposalStatusDisplay : ProposalStatus → String
  | .draft => "草拟"
  | .awaitingPolicy => "等待政策配置"
  | .submitted => "已提交"
  | .voting => "表决中"
  | .approved => "已通过"
  | .rejected => "已拒绝"
  | .expired => "已过期"
  | .cancelled => "已取消"
  | .executed => "已执行"
  | .executionFailed => "执行失败"

/-- `EventFeedback.get_status_display()`. -/
def feedbackStatusDisplay : FeedbackStatus → String
  | .submitted => "已提交"
  | .verifying => "核实中"
  | .awaitingResponse => "等待回应"
  | .concluded => "已形成结论"
  | .closed => "已结束"
  | .withdrawn => "已撤回"

/-- `SupplierQuote.get_decision_status_display()`. -/
def decisionStatusDisplay : DecisionStatus → String
  | .submitted => "已提交"
  | .underReview => "审核中"
  | .accepted => "已采纳"
  | .rejected => "已拒绝"
  | .withdrawn => "已撤回"
  | .fulfilled => "已履约"
  | .cancelled => "已取消"

/-- `SupplierQuote.get_receipt_status_display()`. -/
def receiptStatusDisplay : ReceiptStatus → String
  | .pending => "待验收"
  | .accepted => "验收通过"
  | .rejected => "验收未通过"
  | .partly => "部分验收"

/-- `SupplierQuote.get_payment_status_display()`. -/
def paymentStatusDisplay : PaymentStatus → String
  | .notRequired => "无需付款"
  | .pending => "待付款"
  | .paid => "已付款"
  | .disputed => "付款争议"

/-! ## Matters -/

/-- The dict of `_matter(...)`. -/
structure Matter where
  id : String
  type : String
  typeLabel : String
  title : String
  status : String
  statusLabel : String
  responsible : String
  currentHandler : String
  actionLabel : String
  targetUrl : String
  updatedAt : Nat
  priority : String := "normal"
  isOverdue : Bool := false

/-- `label or "暂未明确"`. -/
def orUnclear (label : String) : String := if label = "" then "暂未明确" else label

/-- `member_no` of a related member. -/
def memberNoOf (db : WorkDb rt) (pk : Nat) : String :=
  ((db.state.roles.db.members.get? pk).map Member.memberNo).getD ""

/-- `_priority_for_proposal(p)`. -/
def priorityForProposal (p : ApprovalProposal) : String :=
  match p.approvalTier with
  | .major => "critical"
  | .standard => "high"
  | .single => "normal"

/-- The member has to work on the task. -/
def needsAssignee (t : WorkTask) : Bool := t.status = .claimed || t.status = .inProgress

def taskMatterId (t : WorkTask) : String := "task:" ++ t.taskId

/-- The matter of an active task of the member. -/
def taskMatter (m : Member) (t : WorkTask) : Matter where
  id := taskMatterId t
  type := "task"
  typeLabel := "任务"
  title := t.title
  status := t.status.value
  statusLabel := t.status.label
  responsible := orUnclear m.memberNo
  currentHandler := orUnclear (if needsAssignee t then m.memberNo else "任务验收角色")
  actionLabel := if needsAssignee t then "提交劳动" else "等待验收"
  targetUrl := "/workspace/tasks/" ++ t.taskId ++ "/"
  updatedAt := t.submittedAt.getD t.createdAt
  priority := if t.failureConsequence = "high" ∨ t.failureConsequence = "critical" then "high"
    else "normal"

/-- The matter of an ended task of the member. -/
def endedTaskMatter (m : Member) (t : WorkTask) : Matter where
  id := taskMatterId t
  type := "task"
  typeLabel := "任务"
  title := t.title
  status := t.status.value
  statusLabel := t.status.label
  responsible := orUnclear m.memberNo
  currentHandler := "已结束"
  actionLabel := "查看结果"
  targetUrl := "/workspace/tasks/" ++ t.taskId ++ "/"
  updatedAt := t.reviewedAt.getD t.createdAt

/-- `subject_must_respond`. -/
def subjectMustRespond (m : Member) (f : EventFeedback) : Bool :=
  f.status = .awaitingResponse && f.subjectMember = some m.pk

/-- `handler_must_act`. -/
def handlerMustAct (m : Member) (f : EventFeedback) : Bool :=
  f.assignedHandler = some m.pk && (f.status = .verifying || f.status = .concluded)

/-- `needs_member` of a feedback. -/
def needsMember (m : Member) (f : EventFeedback) : Bool :=
  subjectMustRespond m f || handlerMustAct m f

/-- `ended` of a feedback. -/
def feedbackEnded (f : EventFeedback) : Bool := f.status = .closed || f.status = .withdrawn

def feedbackMatterId (f : EventFeedback) : String := "event-feedback:" ++ f.feedbackId

/-- `handler` of a feedback's matter. -/
def feedbackHandler (db : WorkDb rt) (m : Member) (f : EventFeedback) : String :=
  if feedbackEnded f then "已结束"
  else if needsMember m f then m.memberNo
  else if f.assignedHandler.getD 0 = 0 then "反馈处理角色"
  else memberNoOf db (f.assignedHandler.getD 0)

/-- `action_label` of a feedback's matter. -/
def feedbackActionLabel (m : Member) (f : EventFeedback) : String :=
  if feedbackEnded f then "查看结果"
  else if subjectMustRespond m f then "正式回应"
  else if handlerMustAct m f then (if f.status = .concluded then "结束反馈" else "继续核实")
  else "等待处理"

/-- The matter of a feedback. -/
def feedbackMatter (db : WorkDb rt) (m : Member) (f : EventFeedback) : Matter where
  id := feedbackMatterId f
  type := "event_feedback"
  typeLabel := "事件反馈"
  title := f.typeDisplay ++ " · " ++ f.feedbackId
  status := f.status.value
  statusLabel := feedbackStatusDisplay f.status
  responsible := orUnclear (memberNoOf db f.submittedBy)
  currentHandler := orUnclear (feedbackHandler db m f)
  actionLabel := feedbackActionLabel m f
  targetUrl := "/event-feedbacks/" ++ f.feedbackId ++ "/"
  updatedAt := f.closedAt.getD (f.concludedAt.getD f.submittedAt)

/-- `f"{quote.resource.name or quote.resource_id} · {quote.quote_id}"`. -/
def quoteTitle (db : WorkDb rt) (q : WorkQuote) : String :=
  let name := (db.resourceNames.lookup q.quote.resource).getD ""
  (if name = "" then q.quote.resource else name) ++ " · " ++ q.id

def quoteMatterId (q : WorkQuote) : String := "supplier-quote:" ++ q.id

/-- The matter of a quote that its member waits for. -/
def memberQuoteMatter (db : WorkDb rt) (m : Member) (q : WorkQuote) : Matter where
  id := quoteMatterId q
  type := "procurement"
  typeLabel := "采购"
  title := quoteTitle db q
  status := q.quote.decisionStatus.value
  statusLabel := decisionStatusDisplay q.quote.decisionStatus
  responsible := orUnclear m.memberNo
  currentHandler := "采购/财务处理角色"
  actionLabel := "等待处理"
  targetUrl := "/workspace/procurement/"
  updatedAt := q.updatedAt.getD q.quote.createdAt

/-- `quote.submitted_by.member_no if quote.submitted_by else "供应方"`. -/
def quoteSubmitter (db : WorkDb rt) (q : WorkQuote) : String :=
  match q.quote.submittedBy with
  | some pk => memberNoOf db pk
  | none => "供应方"

/-- The matter of a quote that waits for receipt or payment. -/
def procurementMatter (db : WorkDb rt) (q : WorkQuote) (statusLabel currentHandler actionLabel :
    String) : Matter where
  id := quoteMatterId q
  type := "procurement"
  typeLabel := "采购"
  title := quoteTitle db q
  status := q.quote.receiptStatus.value ++ ":" ++ q.quote.paymentStatus.value
  statusLabel := statusLabel
  responsible := orUnclear (quoteSubmitter db q)
  currentHandler := currentHandler
  actionLabel := actionLabel
  targetUrl := "/workspace/procurement/?status=accepted"
  updatedAt := q.updatedAt.getD q.quote.createdAt

def receiptMatter (db : WorkDb rt) (q : WorkQuote) : Matter :=
  procurementMatter db q (receiptStatusDisplay q.quote.receiptStatus) "采购验收角色" "验收供给"

def paymentMatter (db : WorkDb rt) (q : WorkQuote) : Matter :=
  procurementMatter db q (paymentStatusDisplay q.quote.paymentStatus) "财务付款角色"
    (if q.quote.offerType = .quote then "处理付款" else "确认完成")

def proposalMatterId (p : ApprovalProposal) : String := "approval-proposal:" ++ p.proposalId

/-- The matter of a proposal. -/
def proposalMatter (db : WorkDb rt) (p : ApprovalProposal) (currentHandler actionLabel : String) :
    Matter where
  id := proposalMatterId p
  type := "approval_proposal"
  typeLabel := "审批提案"
  title := p.title
  status := p.status.value
  statusLabel := proposalStatusDisplay p.status
  responsible := orUnclear (memberNoOf db p.submittedBy)
  currentHandler := currentHandler
  actionLabel := actionLabel
  targetUrl := "/workspace/proposals/"
  updatedAt := (db.proposalUpdatedAt p.proposalId).getD (p.resolvedAt.getD p.submittedAt)
  priority := priorityForProposal p

def actionableMatter (db : WorkDb rt) (p : ApprovalProposal) : Matter :=
  proposalMatter db p "提案审批角色" "处理审批"

def executableMatter (db : WorkDb rt) (p : ApprovalProposal) : Matter :=
  proposalMatter db p "提案执行角色" "执行提案"

/-! ## The lists -/

def activeTaskStatuses : List TaskStatus := [.claimed, .inProgress, .pendingReview, .disputed]

def endedTaskStatuses : List TaskStatus := [.accepted, .rejected, .closed, .reversed]

/-- `active_tasks`. -/
def activeTasks (db : WorkDb rt) (m : Member) : List WorkTask :=
  (newestFirst (fun t => [t.createdAt]) (fun _ => "") (db.tasks.rows.filter fun t =>
    t.assigneeMember = some m.pk && activeTaskStatuses.contains t.status)).take 10

/-- `ended_tasks`. -/
def endedTasks (db : WorkDb rt) (m : Member) : List WorkTask :=
  (newestFirst (fun t => [timeKey t.reviewedAt, t.createdAt]) (fun _ => "")
    (db.tasks.rows.filter fun t =>
      t.assigneeMember = some m.pk && endedTaskStatuses.contains t.status)).take 5

/-- `feedbacks`. -/
def memberFeedbacks (db : WorkDb rt) (m : Member) : List EventFeedback :=
  (newestFirst (fun f => [f.submittedAt]) (fun _ => "") (db.feedbacks.rows.filter fun f =>
    f.submittedBy = m.pk || f.subjectMember = some m.pk || f.assignedHandler = some m.pk)).take 10

def closedDecisionStatuses : List DecisionStatus := [.rejected, .withdrawn, .fulfilled, .cancelled]

/-- `member_quotes`. -/
def memberQuotes (db : WorkDb rt) (m : Member) : List WorkQuote :=
  (newestFirst (fun q => [q.quote.createdAt]) (fun _ => "") (db.quotes.rows.filter fun q =>
    q.quote.submittedBy = some m.pk &&
      !closedDecisionStatuses.contains q.quote.decisionStatus)).take 10

/-- `items.sort(key=sort_key, reverse=True)`. -/
def sortMatters (items : List Matter) : List Matter :=
  items.insertionSort fun a b => b.updatedAt ≤ a.updatedAt

structure MemberMatters where
  actionRequired : List Matter
  waiting : List Matter
  recentlyEnded : List Matter
  totalActive : Nat

/-- The proposals and quotes that a member with governance or finance capability acts on. -/
def governanceMatters (db : WorkDb rt) (w : GovernanceWorksets) : List Matter :=
  (w.actionable.map (actionableMatter db) ++ w.executable.map (executableMatter db)) ++
    (w.receipt.map (receiptMatter db) ++ w.payment.map (paymentMatter db))

/-- `action_required` before it is sorted and cut. -/
def actionMatters (db : WorkDb rt) (now : Nat) (m : Member) : List Matter :=
  let isGov := memberCanAdminister db.state.roles.db now m
  let isFin := isFinanceReviewer db.state.roles.db now m
  ((activeTasks db m).filter needsAssignee).map (taskMatter m) ++
    ((memberFeedbacks db m).filter fun f => !feedbackEnded f && needsMember m f).map
      (feedbackMatter db m) ++
    if isGov || isFin then governanceMatters db (governanceWorksets db now m isGov isFin) else []

/-- `waiting` before it is filtered. -/
def waitingMatters (db : WorkDb rt) (m : Member) : List Matter :=
  ((activeTasks db m).filter fun t => !needsAssignee t).map (taskMatter m) ++
    ((memberFeedbacks db m).filter fun f => !feedbackEnded f && !needsMember m f).map
      (feedbackMatter db m) ++
    (memberQuotes db m).map (memberQuoteMatter db m)

/-- `build_member_matters(member)`. -/
def buildMemberMatters (db : WorkDb rt) (now : Nat) (m : Member) : MemberMatters :=
  let action := actionMatters db now m
  let actionIds := action.map Matter.id
  let waiting := (waitingMatters db m).filter fun item => !actionIds.contains item.id
  let ended := (endedTasks db m).map (endedTaskMatter m) ++
    ((memberFeedbacks db m).filter feedbackEnded).map (feedbackMatter db m)
  { actionRequired := (sortMatters action).take matterDisplayLimit
    waiting := (sortMatters waiting).take matterDisplayLimit
    recentlyEnded := (sortMatters ended).take 10
    totalActive := min action.length matterDisplayLimit + min waiting.length matterDisplayLimit }

end LiveOs.Workspace
