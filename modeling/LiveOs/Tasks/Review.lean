import LiveOs.Credit.Halves
import LiveOs.Credit.Redemption
import LiveOs.Procurement.Services
import LiveOs.Tasks.Payloads

/-!
# Task reviews and the transactions on budgets

`review_task(accepted=True)` of `core/tasks/review.py` and `create_ledger_entry`, and the three
services that draw on budgets as transactions: what each one locks, what it reads before its first
write, and what it writes. The row of the task is locked by the review, so it is written as it was
read.
-/

namespace LiveOs.Tasks

open Lib EventLedger Roles Credit
open Procurement (PyDecimal actorMemberFromRef)

/-! ## Rows -/

/-- A task with the fields that a review reads. -/
structure TaskRow where
  task : Task
  basePoints : Int
  roleCoefficient : PyDecimal
  ruleVersion : String

/-- A row of the point ledger with its links. -/
structure EntryRow where
  entry : LedgerEntry
  relatedTask : Option String
  relatedEventId : String

/-- The rows that reviews and budget services work on; observer events by their ids. -/
structure BudgetState (ctx : Context) where
  credit : CreditState ctx
  tasks : Table TaskRow String Unit (fun r => r.task.taskId) fun _ => none
  entries : Table EntryRow String Unit (fun r => r.entry.ledgerEntryId) fun _ => none
  publicEvents : Table String String Unit (fun e => e) fun _ => none

/-- What one call takes from its surroundings; `simulationDay` is
`int(metadata.get("simulation_day", 1))`. -/
structure ReviewEnv where
  call : CallEnv
  directory : Directory
  simulationDay : List (String × Json) → Except Error Int

def taskEventId (task : String) : String := "event-task-" ++ task

def taskEntryId (task : String) : String := "ledger-task-" ++ task

/-- `int((Decimal(task.base_points) * task.role_coefficient).to_integral_value())`. -/
def rewardAmount (row : TaskRow) : Int :=
  ((PyDecimal.mul ⟨row.basePoints, 0⟩ row.roleCoefficient).quantize 0).coefficient

variable {ctx : Context}

/-! ## The point ledger -/

/-- `ledger_entry_event_type(entry)` of an entry that reverses no other. -/
def ledgerEntryEventType (entry : LedgerEntry) : String :=
  if entry.entryType = .reversal then "credit_reversed"
  else if entry.entryType = .consumption ∨ entry.entryType = .penalty ∨ entry.amount < 0 then
    "credit_deducted"
  else if entry.entryType = .correction ∨ entry.entryType = .compensation then "credit_adjusted"
  else "credit_earned"

/-- `create_ledger_entry(...)` by a review, whose reviewer is also the creator. -/
def createLedgerEntry (env : ReviewEnv) (s : BudgetState ctx) (row : EntryRow)
    (createdBy : List (String × Json)) : Except Error (BudgetState ctx) := do
  let entries ← s.entries.insert row .integrity
  let payload ← ledgerEntryPayload ctx.rt env.directory row.entry
  let events ← s.credit.events.append {
    eventType := ledgerEntryEventType row.entry
    aggregateType := "LedgerEntry"
    aggregateId := row.entry.ledgerEntryId
    actorMember := actorMemberFromRef env.directory createdBy
    payloadJson := payload
    occurredAt := some env.call.now
    now := env.call.now }
  return { s with entries := entries, credit := { s.credit with events := events } }

/-! ## `review_task` -/

/-- What the reads of a review lead to; nothing is posted for a reward of zero. -/
structure ReviewPlan where
  row : TaskRow
  assignee : Nat
  amount : Int
  reviewer : List (String × Json)
  reason : String
  posting : Option Posting

def reviewEntryRef (task : String) : LedgerEntryRef := ⟨taskEntryId task, taskEventId task⟩

/-- `review_task(accepted=True)`: its reads. The accounts a reward needs are looked up as they will
be once the missing ones are created. -/
def reviewReads (env : ReviewEnv) (s : BudgetState ctx) (task : String)
    (reviewer : List (String × Json)) (reason : String) : Except Error ReviewPlan := do
  let row ← related s.tasks task "Task"
  rejectIf (row.task.status ≠ .pendingReview)
    (.domain "Only tasks pending review can be reviewed.")
  match row.task.assigneeMember with
  | none => .error (.domain "Cannot review a task without an assignee.")
  | some assignee => do
    rejectIf (taskEventId task ∈ s.publicEvents.rows)
      (.domain "Task review event already exists.")
    rejectIf (∃ e ∈ s.entries.rows, e.entry.ledgerEntryId = taskEntryId task)
      (.domain "Task review ledger entry already exists.")
    rejectIf (∃ e ∈ s.entries.rows, e.relatedTask = some task ∧
      e.entry.entryType = .contribution ∧ e.entry.status = .posted)
      (.domain "Task already has a posted contribution ledger entry.")
    if rewardAmount row = 0 then return ⟨row, assignee, 0, reviewer, reason, none⟩
    else do
      let credit ← ensureSystemAccounts s.credit
      let (credit, account) ← getOrCreateMemberCreditAccount credit assignee
      let posting ← rewardReads credit account.accountId task (rewardAmount row)
        (reviewEntryRef task) (actorMemberFromRef env.directory reviewer) reason
      return ⟨row, assignee, rewardAmount row, reviewer, reason, some posting⟩

/-- The fields that an accepting review saves. -/
def acceptFields (reason : String) (r : TaskRow) : TaskRow :=
  { r with task := { r.task with
      status := .accepted
      metadata := setText r.task.metadata "review_reason" reason } }

/-- The saved task and its event. -/
def saveAccepted (env : ReviewEnv) (s : BudgetState ctx) (plan : ReviewPlan) :
    Except Error (BudgetState ctx) := do
  let task := (acceptFields plan.reason plan.row).task
  let payload ← taskEventPayload ctx.rt env.directory task
    ⟨"review", plan.reviewer, [("accepted", .scalar (.bool true)), ("reason", .str plan.reason)]⟩
  let events ← s.credit.events.append {
    eventType := "task_reviewed"
    aggregateType := "Task"
    aggregateId := task.taskId
    actorMember := actorMemberFromRef env.directory plan.reviewer
    payloadJson := payload
    occurredAt := some env.call.now
    now := env.call.now }
  return { s with
    tasks := s.tasks.modify task.taskId (acceptFields plan.reason) (fun _ => rfl) (fun _ => rfl)
    credit := { s.credit with events := events } }

/-- The observer event and the entry of the point ledger. -/
def recordReward (env : ReviewEnv) (s : BudgetState ctx) (plan : ReviewPlan) :
    Except Error (BudgetState ctx) := do
  let task := (acceptFields plan.reason plan.row).task
  let _ ← env.simulationDay task.metadata
  let publicEvents ← s.publicEvents.insert (taskEventId task.taskId) .integrity
  createLedgerEntry env { s with publicEvents := publicEvents }
    { entry := {
        ledgerEntryId := taskEntryId task.taskId
        member := plan.assignee
        amount := plan.amount
        entryType := .contribution
        reason := plan.reason
        ruleVersion := plan.row.ruleVersion
        status := .posted }
      relatedTask := some task.taskId
      relatedEventId := taskEventId task.taskId } plan.reviewer

/-- The accounts of a reward and its transaction. -/
def payReward (env : ReviewEnv) (s : BudgetState ctx) (assignee : Nat) (posting : Posting) :
    Except Error (BudgetState ctx) := do
  let credit ← ensureSystemAccounts s.credit
  let (credit, _) ← getOrCreateMemberCreditAccount credit assignee
  let (credit, _) ← postWrites env.call credit posting
  return { s with credit := credit }

/-- `review_task(accepted=True)`: its writes. -/
def reviewWrites (env : ReviewEnv) (s : BudgetState ctx) (plan : ReviewPlan) :
    Except Error (BudgetState ctx) := do
  let s ← saveAccepted env s plan
  match plan.posting with
  | none => return s
  | some posting => do
    let s ← recordReward env s plan
    payReward env s plan.assignee posting

/-! ## The transactions -/

/-- The calls that move task budgets. -/
inductive BudgetCall where
  | lock (task : String) (amount : Int) (reason : String) (initiatedBy : Option Nat)
    (key : Option String)
  | unlock (task : String) (amount : Int) (reason : String) (initiatedBy : Option Nat)
    (key : Option String)
  | review (task : String) (reviewer : List (String × Json)) (reason : String)

/-- The rows that a call holds, by `select_for_update`, from its reads on. The row of the last event
is not among them: a posting locks it in `append_event`, when the balances have been read. -/
inductive LockedRow where
  | account (accountType : AccountType)
  | task (taskId : String)
deriving DecidableEq

def BudgetCall.locks : BudgetCall → List LockedRow
  | .lock .. => [.account .issuancePool, .account .taskLocked]
  | .unlock .. => []
  | .review task .. => [.task task]

inductive BudgetPlan where
  | post (posting : Posting)
  | review (plan : ReviewPlan)

def budgetReads (s : BudgetState ctx) : ReviewEnv × BudgetCall → Except Error BudgetPlan
  | (_, .lock task amount reason initiatedBy key) => do
    let posting ← lockReads s.credit task amount reason initiatedBy key
    return .post posting
  | (_, .unlock task amount reason initiatedBy key) => do
    let posting ← unlockReads s.credit task amount reason initiatedBy key
    return .post posting
  | (env, .review task reviewer reason) => do
    let plan ← reviewReads env s task reviewer reason
    return .review plan

def budgetWrites (s : BudgetState ctx) (c : ReviewEnv × BudgetCall) :
    BudgetPlan → Except Error (BudgetState ctx)
  | .post posting => do
    let (credit, _) ← postWrites c.1.call s.credit posting
    return { s with credit := credit }
  | .review plan => reviewWrites c.1 s plan

/-- The budget services as transactions. -/
def budgets (ctx : Context) :
    Split Error (BudgetState ctx) (ReviewEnv × BudgetCall) BudgetPlan LockedRow where
  locks c := c.2.locks
  reads := budgetReads
  writes := budgetWrites

/-- The committed rows and the running transactions. -/
abbrev BudgetWorld (ctx : Context) := Shared (BudgetState ctx) (ReviewEnv × BudgetCall) BudgetPlan

/-- The state after a run of moves from a database on which nothing runs. -/
def budgetRun (s : BudgetState ctx) (moves : List (Move (ReviewEnv × BudgetCall))) :
    BudgetWorld ctx :=
  runCalls (budgets ctx).step ⟨s, []⟩ moves

end LiveOs.Tasks
