import LiveOs.Roles.Credentials

/-!
# Payloads of tasks and of the point ledger

The rows of `core/models/operations.py` on tasks and ledger entries, with their builders in
`core/event_payloads.py`.
-/

namespace LiveOs.Tasks

open Lib EventLedger Roles

/-! ## Ledger entries -/

/-- `LedgerEntry.EntryType`. -/
inductive EntryType where
  | contribution
  | consumption
  | penalty
  | compensation
  | correction
  | reversal
deriving DecidableEq

def EntryType.value : EntryType → String
  | contribution => "contribution"
  | consumption => "consumption"
  | penalty => "penalty"
  | compensation => "compensation"
  | correction => "correction"
  | reversal => "reversal"

/-- `get_entry_type_display()`. -/
def EntryType.label : EntryType → String
  | contribution => "贡献"
  | consumption => "消费"
  | penalty => "扣减"
  | compensation => "补偿"
  | correction => "更正"
  | reversal => "冲正"

/-- `LedgerEntry.Status`. -/
inductive EntryStatus where
  | posted
  | pendingReview
  | reversed
deriving DecidableEq

def EntryStatus.value : EntryStatus → String
  | posted => "posted"
  | pendingReview => "pending_review"
  | reversed => "reversed"

structure LedgerEntry where
  ledgerEntryId : String
  member : Nat
  amount : Int
  entryType : EntryType
  reason : String
  ruleVersion : String
  status : EntryStatus
deriving DecidableEq

/-- `ledger_entry_payload(entry)`. -/
def ledgerEntryPayload (rt : Runtime) (db : Directory) (entry : LedgerEntry) :
    Except Error PyVal := do
  let member ← related db.members entry.member "Member"
  let publicLabel := member.publicProfileLabel rt
  return publicEventPayload "ledger_entry" (publicRef ["ledger-entry", entry.ledgerEntryId])
    "积分流水" entry.entryType.value entry.status.value
    ("成员 " ++ publicLabel ++ " " ++ entry.entryType.label ++ " " ++ toString entry.amount ++
      " 积分。")
    [("member_label", .str publicLabel), ("amount", .scalar (.int entry.amount)),
      ("entry_type", .str entry.entryType.value), ("status", .str entry.status.value),
      ("rule_version", .str entry.ruleVersion)]
    [commitment "member_no" true "成员编号属于隐私",
      commitment "member_id" true "成员内部ID",
      commitment "reason_raw" (entry.reason ≠ "") "账本原因原文不公开",
      commitment "related_event_id" true "关联事件ID属于内部",
      commitment "system_event_id" true "关联系统事件内部ID",
      commitment "created_by" true "创建者标识",
      commitment "reviewer" true "审核者标识"]

/-! ## Tasks -/

/-- `Task.TaskType`. -/
inductive TaskType where
  | cooking
  | dishwashing
  | publicCleaning
  | waste
  | warehouse
  | repair
  | purchase
  | farming
  | duty
  | care
  | training
  | administration
deriving DecidableEq

def TaskType.value : TaskType → String
  | cooking => "cooking"
  | dishwashing => "dishwashing"
  | publicCleaning => "public_cleaning"
  | waste => "waste"
  | warehouse => "warehouse"
  | repair => "repair"
  | purchase => "purchase"
  | farming => "farming"
  | duty => "duty"
  | care => "care"
  | training => "training"
  | administration => "administration"

/-- `Task.Status`. -/
inductive TaskStatus where
  | draft
  | open
  | claimed
  | inProgress
  | pendingReview
  | accepted
  | rejected
  | disputed
  | closed
  | reversed
deriving DecidableEq

def TaskStatus.value : TaskStatus → String
  | .draft => "draft"
  | .open => "open"
  | .claimed => "claimed"
  | .inProgress => "in_progress"
  | .pendingReview => "pending_review"
  | .accepted => "accepted"
  | .rejected => "rejected"
  | .disputed => "disputed"
  | .closed => "closed"
  | .reversed => "reversed"

/-- `get_status_display()`. -/
def TaskStatus.label : TaskStatus → String
  | .draft => "草稿"
  | .open => "待领取"
  | .claimed => "已领取"
  | .inProgress => "进行中"
  | .pendingReview => "待验收"
  | .accepted => "验收通过"
  | .rejected => "验收驳回"
  | .disputed => "有争议"
  | .closed => "已关闭"
  | .reversed => "已冲正"

structure Task where
  taskId : String
  title : String
  taskType : TaskType
  status : TaskStatus
  assigneeMember : Option Nat
  planNode : Option String
  metadata : List (String × Json)

/-- The arguments of `task_event_payload` besides the task; `previous_status` is not used. -/
structure TaskEventArgs where
  action : String
  actor : List (String × Json)
  extra : List (String × Json)

/-- `_TASK_EXTRA_PUBLIC_KEYS`. -/
def taskExtraPublicKeys : List String := ["action_type", "accepted"]

/-- The facts and the commitments once the extra fields are added. -/
def addExtra (extra : List (String × Json)) (facts : List (String × Json))
    (commitments : List Json) : List (String × Json) × List Json :=
  extra.foldl (fun (facts, commitments) (key, value) =>
    if facts.any fun fact => fact.1 = key then (facts, commitments)
    else if taskExtraPublicKeys.contains key then (facts ++ [(key, value)], commitments)
    else (facts, commitments ++ [commitment key true "任务额外字段不公开"])) (facts, commitments)

/-- The label of the assignee of a task, when it has one. -/
def assigneeLabel (rt : Runtime) (db : Directory) (task : Task) : Except Error (Option String) :=
  match task.assigneeMember with
  | none => .ok none
  | some pk => do
    let member ← related db.members pk "Member"
    return some (member.publicProfileLabel rt)

/-- `task_event_payload(task, action=..., actor=..., extra=...)`. -/
def taskEventPayload (rt : Runtime) (db : Directory) (task : Task) (args : TaskEventArgs) :
    Except Error PyVal := do
  let assigneeLabel ← assigneeLabel rt db task
  let facts : List (String × Json) := [("title", .str task.title),
      ("task_type", .str task.taskType.value), ("status", .str task.status.value)] ++
    (assigneeLabel.map fun label => ("assignee_label", Json.str label)).toList ++
    (task.planNode.map fun node => ("plan_node_id", Json.str node)).toList
  let commitments := [
    commitment "assignee_member_no" true "指派人成员编号属于隐私",
    commitment "assignee_member_id" true "指派人内部ID",
    commitment "actor" (!args.actor.isEmpty) "操作人属于隐私",
    commitment "metadata" (!task.metadata.isEmpty) "元数据"]
  let (facts, commitments) := addExtra args.extra facts commitments
  return publicEventPayload "task" (publicRef ["task", task.taskId]) task.title args.action
    task.status.value
    ("任务「" ++ task.title ++ "」" ++ args.action ++ "，当前状态 " ++ task.status.label ++ "。")
    facts commitments

end LiveOs.Tasks
