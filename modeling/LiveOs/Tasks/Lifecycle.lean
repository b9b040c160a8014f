import LiveOs.Tasks.Review

/-!
# The life of a task

The services of `core/tasks`: `authoring.py`, `funding.py`, `member_workflow.py` and `review.py`,
each as one call on the rows of tasks, points and credits. A service locks its task first, so what
it saves is the row it has read.
-/

namespace LiveOs.Tasks

open Lib EventLedger Roles Credit
open Procurement (PyDecimal actorMemberFromRef)

/-- What one call takes from its surroundings besides that of a review: the random parts of task
ids, and `actor_type_for_current_world()`. -/
structure TaskEnv extends ReviewEnv where
  taskDraws : List String
  actorType : String

/-- `actor_ref(member)`. -/
def actorRef (rt : Runtime) (env : TaskEnv) (member : Member) : List (String × Json) :=
  [("actor_id", .str member.memberNo), ("actor_type", .str env.actorType),
    ("display_name", .str (member.label rt))]

/-- `Task.TaskType.choices`, in order. -/
def TaskType.all : List TaskType := [.cooking, .dishwashing, .publicCleaning, .waste, .warehouse,
  .repair, .purchase, .farming, .duty, .care, .training, .administration]

def TaskType.ofValue? (s : String) : Option TaskType := all.find? fun t => t.value = s

/-- The values of `Task.FailureConsequence`. -/
def failureConsequences : List String := ["low", "medium", "high", "critical"]

/-- `isinstance(value, int) and not isinstance(value, bool) and value > 0`. -/
def isPositiveInt : PyVal → Bool
  | .scalar (.int n) => 0 < n
  | _ => false

variable {ctx : Context}

/-! ## Saving a task -/

/-- The fields of a task that its services save. -/
def TaskRow.saved (status : TaskStatus) (assigneeMember : Option Nat)
    (metadata : List (String × Json)) (r : TaskRow) : TaskRow :=
  { r with task := { r.task with
      status := status
      assigneeMember := assigneeMember
      metadata := metadata } }

section

variable (status : TaskStatus) (assigneeMember : Option Nat) (metadata : List (String × Json))

theorem TaskRow.saved_taskId (r : TaskRow) :
    (r.saved status assigneeMember metadata).task.taskId = r.task.taskId := rfl

theorem TaskRow.saved_unkeyed (r : TaskRow) :
    (fun _ : TaskRow => (none : Option Unit)) (r.saved status assigneeMember metadata) =
      (fun _ => none) r := rfl

end

/-- The event of a service on a task. -/
structure TaskEvent where
  eventType : String
  actorMember : Option Nat
  args : TaskEventArgs

/-- `append_event(...)` on a task. -/
def appendTaskEvent (env : TaskEnv) (credit : CreditState ctx) (task : Task) (event : TaskEvent) :
    Except Error (CreditState ctx) := do
  let payload ← taskEventPayload ctx.rt env.directory task event.args
  let events ← credit.events.append {
    eventType := event.eventType
    aggregateType := "Task"
    aggregateId := task.taskId
    actorMember := event.actorMember
    payloadJson := payload
    occurredAt := some env.call.now
    now := env.call.now }
  return { credit with events := events }

/-- `task.save(update_fields=[...])` and the event of the service. -/
def saveTask (env : TaskEnv) (s : BudgetState ctx) (row : TaskRow) (status : TaskStatus)
    (assigneeMember : Option Nat) (metadata : List (String × Json)) (event : TaskEvent) :
    Except Error (BudgetState ctx) := do
  let saved := TaskRow.saved status assigneeMember metadata
  let credit ← appendTaskEvent env s.credit (saved row).task event
  return { s with
    tasks := s.tasks.modify row.task.taskId saved
      (TaskRow.saved_taskId status assigneeMember metadata)
      (TaskRow.saved_unkeyed status assigneeMember metadata)
    credit := credit }

/-! ## `core/tasks/authoring.py` -/

/-- The arguments of `create_task_draft` that a service reads. -/
structure DraftArgs where
  title : String
  taskType : String
  standardMinutes : PyVal
  basePoints : Int
  roleCoefficient : PyDecimal
  failureConsequence : String
  ruleVersion : String
  createdBy : List (String × Json)

/-- `generate_task_id()`: the first of five draws that is free. -/
def generateTaskId (env : TaskEnv) (s : BudgetState ctx) : Except Error String :=
  match ((env.taskDraws.take 5).map ("task-" ++ ·)).find? fun id => (s.tasks.get? id).isNone with
  | some id => .ok id
  | none => .error (.domain "无法生成任务 ID，请重试。")

/-- The row that `create_task_draft` creates; the column of the coefficient has three decimals. -/
def draftRow (args : DraftArgs) (taskId title : String) (taskType : TaskType) : TaskRow where
  task := {
    taskId := taskId
    title := title
    taskType := taskType
    status := .draft
    assigneeMember := none
    planNode := none
    metadata := [("source", .str "control_task_authoring"), ("created_by", .obj args.createdBy)] }
  basePoints := args.basePoints
  roleCoefficient := args.roleCoefficient.quantize 3
  ruleVersion := args.ruleVersion

/-- `create_task_draft(...)`, with the id of the task. -/
def createTaskDraft (env : TaskEnv) (s : BudgetState ctx) (args : DraftArgs) :
    Except Error (BudgetState ctx × String) := do
  let cleanedTitle := strip args.title
  rejectIf (cleanedTitle = "") (.domain "任务标题不能为空。")
  match TaskType.ofValue? args.taskType with
  | none => .error (.domain "任务类型无效。")
  | some taskType => do
    rejectIf (isPositiveInt args.standardMinutes = false) (.domain "标准工时必须是正整数分钟。")
    rejectIf (args.basePoints < 0) (.domain "基础积分必须是非负整数。")
    rejectIf (args.roleCoefficient.le .zero = true) (.domain "岗位系数必须大于 0。")
    rejectIf (args.failureConsequence ≠ "" ∧ args.failureConsequence ∉ failureConsequences)
      (.domain "失败后果无效。")
    rejectIf (args.ruleVersion = "") (.domain "缺少规则版本。")
    let taskId ← generateTaskId env s
    let row := draftRow args taskId cleanedTitle taskType
    let tasks ← s.tasks.insert row .integrity
    let credit ← appendTaskEvent env s.credit row.task ⟨"task_created",
      actorMemberFromRef env.directory args.createdBy, "create", args.createdBy, []⟩
    return ({ s with tasks := tasks, credit := credit }, taskId)

/-- `task_expected_reward(task)`. -/
def taskExpectedReward (row : TaskRow) : Int :=
  if row.basePoints ≤ 0 then 0 else rewardAmount row

/-- A task that awards points needs its reward locked before it is published. -/
def requireLockedBudget (s : BudgetState ctx) (row : TaskRow) : Except Error Unit :=
  if row.basePoints > 0 then do
    let reward := taskExpectedReward row
    let locked ← taskLockedCreditBalance s.credit row.task.taskId
    rejectIf (locked < reward) (.domain ("该任务需要积分奖励（" ++ toString reward ++
      " 分），但已锁定预算仅 " ++ toString locked ++
      " 分；请先为任务锁定足够积分预算后再发布。"))
  else .ok ()

/-- The two checks before a draft is published. -/
def requireDraft (row : TaskRow) : Except Error Unit := do
  rejectIf (row.task.status ≠ .draft) (.domain "只有草稿任务可以发布。")
  rejectIf (row.task.assigneeMember ≠ none) (.domain "已分配成员的任务不能发布为开放领取。")

/-- `publish_task(task=..., publisher=...)`. -/
def publishTask (env : TaskEnv) (s : BudgetState ctx) (task : String)
    (publisher : List (String × Json)) : Except Error (BudgetState ctx) := do
  let row ← related s.tasks task "Task"
  requireDraft row
  requireLockedBudget s row
  saveTask env s row .open row.task.assigneeMember
    (Json.upsert (Json.upsert row.task.metadata ("published_by", .obj publisher))
      ("published_at", .str (isoFormat env.call.now)))
    ⟨"task_published", actorMemberFromRef env.directory publisher, "publish", publisher, []⟩

/-- `assign_task(task=..., member=..., operator=...)`, with the member as the caller has read it. -/
def assignTask (env : TaskEnv) (s : BudgetState ctx) (task : String) (member : Member)
    (operator : List (String × Json)) : Except Error (BudgetState ctx) := do
  let row ← related s.tasks task "Task"
  rejectIf (row.task.status ≠ .open) (.domain "只有开放领取任务可以被指派。")
  rejectIf (row.task.assigneeMember ≠ none) (.domain "任务已经有负责人。")
  rejectIf (member.status ≠ .admitted ∧ member.status ≠ .active)
    (.domain "只能指派给已接纳或活跃成员。")
  saveTask env s row .claimed (some member.pk)
    (Json.upsert (Json.upsert row.task.metadata ("assigned_by", .obj operator))
      ("assigned_at", .str (isoFormat env.call.now)))
    ⟨"task_assigned", actorMemberFromRef env.directory operator, "assign", operator,
      [("assigned_member_no", .str member.memberNo),
        ("assigned_member_display_name", .str member.displayName)]⟩

/-- `close_task(task=..., operator=..., reason=...)`. -/
def closeTask (env : TaskEnv) (s : BudgetState ctx) (task : String)
    (operator : List (String × Json)) (reason : String) : Except Error (BudgetState ctx) := do
  let cleanedReason := strip reason
  rejectIf (cleanedReason = "") (.domain "关闭原因不能为空。")
  let row ← related s.tasks task "Task"
  rejectIf (row.task.status ≠ .draft ∧ row.task.status ≠ .open)
    (.domain "只有草稿或开放领取任务可以关闭。")
  rejectIf (row.task.assigneeMember ≠ none) (.domain "已经指派给成员的任务不能在发布管理页关闭。")
  saveTask env s row .closed row.task.assigneeMember
    (Json.upsert (Json.upsert (Json.upsert row.task.metadata ("closed_by", .obj operator))
      ("closed_at", .str (isoFormat env.call.now))) ("close_reason", .str cleanedReason))
    ⟨"task_closed", actorMemberFromRef env.directory operator, "close", operator,
      [("reason", .str cleanedReason)]⟩

/-! ## `core/tasks/funding.py` -/

structure TaskBudgetStatus where
  expectedReward : Int
  lockedBudget : Int
  poolBalance : Int
  shortfall : Int
  poolDeficit : Int

def TaskBudgetStatus.canFund (budget : TaskBudgetStatus) : Bool := budget.poolDeficit = 0

/-- `task_budget_status(task, locked_budget=..., pool_balance=...)`. -/
def taskBudgetStatus (row : TaskRow) (lockedBudget poolBalance : Int) : TaskBudgetStatus :=
  let expectedReward := taskExpectedReward row
  let shortfall := max (expectedReward - lockedBudget) 0
  ⟨expectedReward, lockedBudget, poolBalance, shortfall, max (shortfall - poolBalance) 0⟩

/-- Lock the part of the reward that is not locked yet. -/
def lockShortfall (env : TaskEnv) (s : BudgetState ctx) (task : String)
    (budget : TaskBudgetStatus) (initiatedBy : Nat) (lockReason : String) :
    Except Error (BudgetState ctx) :=
  if budget.shortfall > 0 then do
    let (credit, _) ← lockTaskCreditBudget env.call s.credit task budget.shortfall lockReason
      (some initiatedBy) none
    return { s with credit := credit }
  else .ok s

/-- `fund_and_publish_task(...)`; the result says whether the task was published. -/
def fundAndPublishTask (env : TaskEnv) (s : BudgetState ctx) (task : String)
    (publisher : List (String × Json)) (initiatedBy : Nat) (lockReason : String) :
    Except Error (BudgetState ctx × TaskBudgetStatus × Bool) := do
  let row ← related s.tasks task "Task"
  requireDraft row
  match findPool s.credit .issuancePool with
  | none => .error (.domain "系统账户 issuance_pool 不存在，请先初始化系统账户。")
  | some pool => do
    let lockedBudget ← taskLockedCreditBalance s.credit task
    let budget := taskBudgetStatus row lockedBudget (creditBalance s.credit pool.accountId)
    if budget.canFund = false then return (s, budget, false)
    else do
      let s ← lockShortfall env s task budget initiatedBy lockReason
      let s ← publishTask env s task publisher
      return (s, budget, true)

/-- The default of `lock_reason`. -/
def defaultLockReason : String := "任务发布自动锁定预算"

/-- `create_task_with_funding(...)`. -/
def createTaskWithFunding (env : TaskEnv) (s : BudgetState ctx) (publisher : List (String × Json))
    (initiatedBy : Nat) (args : DraftArgs) :
    Except Error (BudgetState ctx × TaskBudgetStatus × Bool) := do
  let (s, task) ← createTaskDraft env s args
  fundAndPublishTask env s task publisher initiatedBy defaultLockReason

/-! ## `core/tasks/member_workflow.py` -/

/-- `claim_task(task=..., member=...)`. -/
def claimTask (env : TaskEnv) (s : BudgetState ctx) (task : String) (member : Member) :
    Except Error (BudgetState ctx) := do
  let row ← related s.tasks task "Task"
  rejectIf (row.task.status ≠ .open) (.domain "Only open tasks can be claimed.")
  rejectIf (row.task.assigneeMember ≠ none) (.domain "Task already has an assignee.")
  saveTask env s row .claimed (some member.pk) row.task.metadata
    ⟨"task_claimed", some member.pk, "claim", actorRef ctx.rt env member, []⟩

/-- `submit_labor(task=..., member=..., labor_note=..., evidence_refs=...)`. -/
def submitLabor (env : TaskEnv) (s : BudgetState ctx) (task : String) (member : Member)
    (laborNote : String) (evidenceRefs : List String) : Except Error (BudgetState ctx) := do
  let row ← related s.tasks task "Task"
  rejectIf (row.task.assigneeMember ≠ some member.pk)
    (.domain "Only the assigned member can submit this task.")
  rejectIf (row.task.status ≠ .claimed ∧ row.task.status ≠ .inProgress)
    (.domain "Task must be claimed or in progress before submission.")
  let note := [("labor_note", Json.str laborNote), ("evidence_refs", .arr (evidenceRefs.map .str))]
  saveTask env s row .pendingReview row.task.assigneeMember
    (note.foldl Json.upsert row.task.metadata)
    ⟨"task_submitted", some member.pk, "submit_labor", actorRef ctx.rt env member, note⟩

/-! ## `core/tasks/review.py` -/

/-- What an accepting review asks of both ledgers. -/
def requireUnrewarded (s : BudgetState ctx) (task : String) : Except Error Unit := do
  rejectIf (taskEventId task ∈ s.publicEvents.rows) (.domain "Task review event already exists.")
  rejectIf (∃ e ∈ s.entries.rows, e.entry.ledgerEntryId = taskEntryId task)
    (.domain "Task review ledger entry already exists.")
  rejectIf (∃ e ∈ s.entries.rows, e.relatedTask = some task ∧
    e.entry.entryType = .contribution ∧ e.entry.status = .posted)
    (.domain "Task already has a posted contribution ledger entry.")

/-- The entry of the point ledger and the transaction of an accepted task. -/
def settleReward (env : TaskEnv) (s : BudgetState ctx) (row : TaskRow) (assignee : Nat)
    (reviewer : List (String × Json)) (reason : String) (allowUnbudgetedGenesis : Bool) :
    Except Error (BudgetState ctx) := do
  let task := row.task.taskId
  let s ← recordReward env.toReviewEnv s ⟨row, assignee, rewardAmount row, reviewer, reason, none⟩
  let credit ← ensureSystemAccounts s.credit
  let (credit, _) ← getOrCreateMemberCreditAccount credit assignee
  let (credit, _) ← postTaskRewardCreditTransaction env.call credit task assignee
    (rewardAmount row) (reviewEntryRef task) (actorMemberFromRef env.directory reviewer) reason
    allowUnbudgetedGenesis
  return { s with credit := credit }

/-- `review_task(...)`. -/
def reviewTask (env : TaskEnv) (s : BudgetState ctx) (task : String)
    (reviewer : List (String × Json)) (accepted : Bool) (reason : String)
    (allowUnbudgetedGenesis : Bool) : Except Error (BudgetState ctx) := do
  let row ← related s.tasks task "Task"
  rejectIf (row.task.status ≠ .pendingReview)
    (.domain "Only tasks pending review can be reviewed.")
  match row.task.assigneeMember with
  | none => .error (.domain "Cannot review a task without an assignee.")
  | some assignee => do
    if accepted then requireUnrewarded s task else .ok ()
    let s ← saveTask env s row (if accepted then .accepted else .rejected) (some assignee)
      (setText row.task.metadata "review_reason" reason)
      ⟨"task_reviewed", actorMemberFromRef env.directory reviewer, "review", reviewer,
        [("accepted", .scalar (.bool accepted)), ("reason", .str reason)]⟩
    -- a task of no points is accepted without any record of a reward
    if accepted = false ∨ rewardAmount row = 0 then return s
    else settleReward env s row assignee reviewer reason allowUnbudgetedGenesis

/-! ## Calls -/

inductive TaskCall where
  | createTaskDraft (args : DraftArgs)
  | publishTask (task : String) (publisher : List (String × Json))
  | fundAndPublishTask (task : String) (publisher : List (String × Json)) (initiatedBy : Nat)
    (lockReason : String)
  | claimTask (task : String) (member : Member)
  | assignTask (task : String) (member : Member) (operator : List (String × Json))
  | submitLabor (task : String) (member : Member) (laborNote : String)
    (evidenceRefs : List String)
  | reviewTask (task : String) (reviewer : List (String × Json)) (accepted : Bool)
    (reason : String) (allowUnbudgetedGenesis : Bool)
  | closeTask (task : String) (operator : List (String × Json)) (reason : String)

/-- One call in its surroundings, as a step of the rows. -/
def taskStep (s : BudgetState ctx) : TaskEnv × TaskCall → Except Error (BudgetState ctx)
  | (env, .createTaskDraft args) => do
    let (s, _) ← createTaskDraft env s args
    return s
  | (env, .publishTask task publisher) => publishTask env s task publisher
  | (env, .fundAndPublishTask task publisher initiatedBy lockReason) => do
    let (s, _) ← fundAndPublishTask env s task publisher initiatedBy lockReason
    return s
  | (env, .claimTask task member) => claimTask env s task member
  | (env, .assignTask task member operator) => assignTask env s task member operator
  | (env, .submitLabor task member laborNote evidenceRefs) =>
    submitLabor env s task member laborNote evidenceRefs
  | (env, .reviewTask task reviewer accepted reason allowUnbudgetedGenesis) =>
    reviewTask env s task reviewer accepted reason allowUnbudgetedGenesis
  | (env, .closeTask task operator reason) => closeTask env s task operator reason

/-- The rows after a run of calls. -/
def taskRun (s : BudgetState ctx) (calls : List (TaskEnv × TaskCall)) : BudgetState ctx :=
  runCalls taskStep s calls

end LiveOs.Tasks
