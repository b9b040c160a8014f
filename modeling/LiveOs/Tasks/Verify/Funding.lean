import LiveOs.Tasks.Verify.Rewards

/-!
# Funded publication is all or nothing

`fund_and_publish_task` locks what is missing of the reward and publishes the task, or it changes
nothing. No assumption is made on the accounts and the rows it starts from: the balance it reads, the
row it locks and the balance it leaves are those of the one account that it finds.
-/

namespace LiveOs.Tasks

open Lib EventLedger Roles Credit

variable {ctx : Context} {s s' : BudgetState ctx} {env : TaskEnv} {row : TaskRow} {task : String}

/-! ## Effects -/

/-- The rows after a call: those before it, when it raises. -/
def rowsAfter {α : Type} (s : BudgetState ctx) : Except Error (BudgetState ctx × α) → BudgetState ctx
  | .ok (s', _) => s'
  | .error _ => s

/-- What a budget says of a task: the part of its reward that is not locked, and what the pool lacks
of it. -/
structure BudgetOf (s : BudgetState ctx) (row : TaskRow) (budget : TaskBudgetStatus) : Prop where
  shortfall : ∃ locked, taskLockedCreditBalance s.credit row.task.taskId = .ok locked ∧
    budget.shortfall = max (taskExpectedReward row - locked) 0
  poolDeficit : ∃ account, findPool s.credit .issuancePool = some account ∧
    budget.poolDeficit = max (budget.shortfall - creditBalance s.credit account.accountId) 0

/-- Nothing is locked, or one row of the amount. -/
inductive LockedBy (c c' : CreditState ctx) (task : String) (amount : Int) : Prop
  | nothing (zero : amount = 0) (same : c'.transactions = c.transactions)
  | row (t : CreditTransaction) (positive : 0 < amount)
    (rows : c'.transactions.rows = c.transactions.rows ++ [t])
    (lock : t.transactionType = .lock) (posted : t.status = .posted) (amount : t.amount = amount)
    (related : t.relatedTask = some task)

/-- The task is open and its reward is locked. -/
structure Published (s s' : BudgetState ctx) (row : TaskRow) (budget : TaskBudgetStatus) : Prop where
  opened : ∃ metadata, Saved s s' row .open row.task.assigneeMember metadata
  locked : LockedBy s.credit s'.credit row.task.taskId budget.shortfall
  covered : ∃ balance, taskLockedCreditBalance s'.credit row.task.taskId = .ok balance ∧
    taskExpectedReward row ≤ balance
  accounts : s'.credit.accounts = s.credit.accounts
  entries : s'.entries = s.entries
  publicEvents : s'.publicEvents = s.publicEvents

inductive FundingResult where
  | published
  | unfunded
  | raised

/-- The three effects of a funded publication. -/
def FundingEffect (s : BudgetState ctx) (row : TaskRow)
    (outcome : Except Error (BudgetState ctx × TaskBudgetStatus × Bool)) : FundingResult → Prop
  | .published => ∃ s' budget, outcome = .ok (s', budget, true) ∧ BudgetOf s row budget ∧
      Published s s' row budget
  | .unfunded => ∃ budget, outcome = .ok (s, budget, false) ∧ BudgetOf s row budget ∧
      0 < budget.poolDeficit
  | .raised => ∃ e, outcome = .error e ∧ rowsAfter s outcome = s

/-- One new draft, with its event. -/
structure Drafted (s s' : BudgetState ctx) (row : TaskRow) : Prop where
  tasks : s'.tasks.rows = s.tasks.rows ++ [row]
  draft : row.task.status = .draft
  event : ∃ req, s'.credit.events.calls = s.credit.events.calls ++ [req] ∧
    req.eventType = "task_created" ∧ req.aggregateId = row.task.taskId
  accounts : s'.credit.accounts = s.credit.accounts
  transactions : s'.credit.transactions = s.credit.transactions
  entries : s'.entries = s.entries
  publicEvents : s'.publicEvents = s.publicEvents

/-- The same for a new task: with the draft, or without any change. -/
def CreationEffect (s : BudgetState ctx)
    (outcome : Except Error (BudgetState ctx × TaskBudgetStatus × Bool)) : FundingResult → Prop
  | .raised => ∃ e, outcome = .error e ∧ rowsAfter s outcome = s
  | result => ∃ drafted row, Drafted s drafted row ∧ FundingEffect drafted row outcome result

/-! ## Locking -/

/-- A posting without a key is a new row. -/
theorem postCreditTransaction_unkeyed {call : CallEnv} {c c' : CreditState ctx} {args : PostArgs}
    {txnType : TxnType} {txn : CreditTransaction} (hkey : args.idempotencyKey = none)
    (hty : TxnType.ofValue? args.transactionType = some txnType)
    (h : postCreditTransaction call c args = .ok (c', txn)) :
    createTransaction c txn = .ok c' ∧ ∃ metadata, txn = newTransaction call args txnType metadata := by
  obtain ⟨-, h⟩ := rejectIf_bind_eq_ok.1 h
  simp only [hty, hkey] at h
  have hnone : findPosted c (normaliseIdemKey none) = none := rfl
  rw [hnone] at h
  simp only at h
  split at h
  · cases h
  · rename_i metadata hmetadata
    split at h
    · rename_i c₁ hcreate
      obtain ⟨rfl, rfl⟩ := Prod.mk.inj (Except.ok.inj h)
      exact ⟨hcreate, metadata, rfl⟩
    · cases h
    · cases h

/-- A lock without a key adds its amount to the budget of the task. -/
theorem lockTaskCreditBudget_unkeyed {call : CallEnv} {c c' : CreditState ctx} {amount : Int}
    {reason : String} {initiatedBy : Option Nat} {txn : CreditTransaction} {locked : Int}
    (hlocked : taskLockedCreditBalance c task = .ok locked) (hpositive : 0 < amount)
    (h : lockTaskCreditBudget call c task amount reason initiatedBy none = .ok (c', txn)) :
    LockedBy c c' task amount ∧ c'.accounts = c.accounts ∧
      taskLockedCreditBalance c' task = .ok (locked + amount) := by
  unfold lockTaskCreditBudget at h
  split at h
  · rename_i poolAccount taskLocked hpool htaskLocked
    have hnone : findPostedOfType c (normaliseIdemKey none) .lock = none := rfl
    simp only [hnone] at h
    obtain ⟨-, h⟩ := rejectIf_bind_eq_ok.1 h
    obtain ⟨hcreate, metadata, rfl⟩ :=
      postCreditTransaction_unkeyed rfl (TxnType.ofValue?_value .lock) h
    obtain ⟨hrows, -, haccounts, -⟩ := createTransaction_ok hcreate
    refine ⟨.row _ hpositive hrows rfl rfl rfl rfl, haccounts, ?_⟩
    have hfound : findPool c' .taskLocked = some taskLocked := by
      rw [findPool, haccounts]
      exact htaskLocked
    rw [taskLockedCreditBalance, pool, htaskLocked] at hlocked
    obtain rfl := pure_eq_ok.1 hlocked
    rw [taskLockedCreditBalance, pool, hfound]
    refine pure_eq_ok.2 ?_
    simp only [taskLockedSum, postedSum_of_rows hrows rfl]
    simp [newTransaction]
    omega
  · cases h

theorem lockShortfall_ok {budget : TaskBudgetStatus} {initiatedBy : Nat} {lockReason : String}
    {locked : Int} (hlocked : taskLockedCreditBalance s.credit task = .ok locked)
    (hshortfall : 0 ≤ budget.shortfall)
    (h : lockShortfall env s task budget initiatedBy lockReason = .ok s') :
    LockedBy s.credit s'.credit task budget.shortfall ∧ s'.credit.accounts = s.credit.accounts ∧
      taskLockedCreditBalance s'.credit task = .ok (locked + budget.shortfall) ∧
      s'.tasks = s.tasks ∧ s'.entries = s.entries ∧ s'.publicEvents = s.publicEvents := by
  unfold lockShortfall at h
  split at h
  · rename_i hpositive
    obtain ⟨⟨credit, txn⟩, hlock, h⟩ := bind_eq_ok.1 h
    obtain rfl := pure_eq_ok.1 h
    obtain ⟨hby, haccounts, hbalance⟩ := lockTaskCreditBudget_unkeyed hlocked hpositive hlock
    exact ⟨hby, haccounts, hbalance, rfl, rfl, rfl⟩
  · obtain rfl := Except.ok.inj h
    have hzero : budget.shortfall = 0 := by omega
    refine ⟨.nothing hzero rfl, rfl, ?_, rfl, rfl, rfl⟩
    rw [hzero, add_zero]
    exact hlocked

/-! ## Publication -/

theorem saveTask_publicEvents {status : TaskStatus} {assigneeMember : Option Nat}
    {metadata : List (String × Json)} {event : TaskEvent}
    (h : saveTask env s row status assigneeMember metadata event = .ok s') :
    s'.publicEvents = s.publicEvents := by
  obtain ⟨credit, -, h⟩ := bind_eq_ok.1 h
  obtain rfl := pure_eq_ok.1 h
  rfl

theorem taskLockedCreditBalance_of_same {c c' : CreditState ctx} (haccounts : c'.accounts = c.accounts)
    (htransactions : c'.transactions = c.transactions) (task : String) :
    taskLockedCreditBalance c' task = taskLockedCreditBalance c task := by
  rw [taskLockedCreditBalance, taskLockedCreditBalance, pool, pool, findPool, findPool, haccounts]
  simp only [taskLockedSum, postedSum_of_transactions htransactions]

theorem LockedBy.of_same {c c' c'' : CreditState ctx} {amount : Int} (h : LockedBy c c' task amount)
    (hsame : c''.transactions = c'.transactions) : LockedBy c c'' task amount := by
  cases h with
  | nothing zero same => exact .nothing zero (hsame.trans same)
  | row t positive rows lock posted amount related =>
    exact .row t positive (by rw [hsame, rows]) lock posted amount related

theorem fundAndPublishTask_effect (hrow : s.tasks.get? task = some row)
    (publisher : List (String × Json)) (initiatedBy : Nat) (lockReason : String) :
    ∃ result, FundingEffect s row
      (fundAndPublishTask env s task publisher initiatedBy lockReason) result := by
  cases h : fundAndPublishTask env s task publisher initiatedBy lockReason with
  | error e => exact ⟨.raised, e, rfl, rfl⟩
  | ok result =>
    obtain ⟨s', budget, published⟩ := result
    obtain ⟨row', hrow', h⟩ := bind_eq_ok.1 h
    obtain rfl := Option.some.inj (hrow.symm.trans (related_eq_ok.1 hrow'))
    obtain ⟨hmem, rfl⟩ := Table.get?_eq_some.1 hrow
    obtain ⟨_, -, h⟩ := bind_eq_ok.1 h
    split at h
    · cases h
    · rename_i account haccount
      obtain ⟨locked, hlocked, h⟩ := bind_eq_ok.1 h
      simp only at h
      have hbudget : BudgetOf s row
          (taskBudgetStatus row locked (creditBalance s.credit account.accountId)) :=
        ⟨⟨locked, hlocked, rfl⟩, account, haccount, rfl⟩
      split at h
      · rename_i hcannot
        obtain ⟨rfl, hresult⟩ := Prod.mk.inj (pure_eq_ok.1 h)
        obtain ⟨rfl, rfl⟩ := Prod.mk.inj hresult
        refine ⟨.unfunded, _, rfl, hbudget, ?_⟩
        have hdeficit : ¬ (taskBudgetStatus row locked
            (creditBalance s.credit account.accountId)).poolDeficit = 0 :=
          of_decide_eq_false hcannot
        have hle : 0 ≤ (taskBudgetStatus row locked
            (creditBalance s.credit account.accountId)).poolDeficit := le_max_right _ _
        omega
      · obtain ⟨s₁, hlock, h⟩ := bind_eq_ok.1 h
        obtain ⟨s₂, hpublish, h⟩ := bind_eq_ok.1 h
        obtain ⟨rfl, hresult⟩ := Prod.mk.inj (pure_eq_ok.1 h)
        obtain ⟨rfl, rfl⟩ := Prod.mk.inj hresult
        obtain ⟨hby, haccounts, hbalance, htasks, hentries, hevents⟩ :=
          lockShortfall_ok hlocked (le_max_right _ _) hlock
        -- the task is read again, after the lock
        obtain ⟨row', hrow', hpublish⟩ := bind_eq_ok.1 hpublish
        rw [htasks] at hrow'
        obtain rfl := Option.some.inj (hrow.symm.trans (related_eq_ok.1 hrow'))
        obtain ⟨_, -, hpublish⟩ := bind_eq_ok.1 hpublish
        obtain ⟨_, -, hsave⟩ := bind_eq_ok.1 hpublish
        obtain ⟨hsaved, hentries₂, haccounts₂, htransactions₂⟩ :=
          saveTask_ok (by rw [htasks]; exact hmem) hsave
        have hopened := hsaved.tasks
        rw [htasks] at hopened
        refine ⟨.published, s₂, _, rfl, hbudget, ⟨_, hmem, hopened⟩, hby.of_same htransactions₂, ?_,
          haccounts₂.trans haccounts, hentries₂.trans hentries,
          (saveTask_publicEvents hsave).trans hevents⟩
        refine ⟨_, (taskLockedCreditBalance_of_same haccounts₂ htransactions₂ _).trans hbalance, ?_⟩
        have hle : taskExpectedReward row - locked ≤
            (taskBudgetStatus row locked (creditBalance s.credit account.accountId)).shortfall :=
          le_max_left _ _
        omega

/-- The result that an outcome shows. -/
def resultOf : Except Error (BudgetState ctx × TaskBudgetStatus × Bool) → FundingResult
  | .ok (_, _, true) => .published
  | .ok (_, _, false) => .unfunded
  | .error _ => .raised

variable {outcome : Except Error (BudgetState ctx × TaskBudgetStatus × Bool)}
  {result : FundingResult}

theorem FundingEffect.resultOf_eq (h : FundingEffect s row outcome result) :
    resultOf outcome = result := by
  cases result with
  | published =>
    obtain ⟨s', budget, rfl, -⟩ := h
    rfl
  | unfunded =>
    obtain ⟨budget, rfl, -⟩ := h
    rfl
  | raised =>
    obtain ⟨e, rfl, -⟩ := h
    rfl

theorem CreationEffect.resultOf_eq (h : CreationEffect s outcome result) :
    resultOf outcome = result := by
  cases result with
  | published =>
    obtain ⟨drafted, row, -, heffect⟩ := h
    exact heffect.resultOf_eq
  | unfunded =>
    obtain ⟨drafted, row, -, heffect⟩ := h
    exact heffect.resultOf_eq
  | raised =>
    obtain ⟨e, rfl, -⟩ := h
    rfl

theorem createTaskDraft_drafted {args : DraftArgs} (h : createTaskDraft env s args = .ok (s', task)) :
    ∃ row, Drafted s s' row ∧ s'.tasks.get? task = some row := by
  obtain ⟨-, h⟩ := rejectIf_bind_eq_ok.1 h
  split at h
  · cases h
  · rename_i taskType htype
    obtain ⟨-, h⟩ := rejectIf_bind_eq_ok.1 h
    obtain ⟨-, h⟩ := rejectIf_bind_eq_ok.1 h
    obtain ⟨-, h⟩ := rejectIf_bind_eq_ok.1 h
    obtain ⟨-, h⟩ := rejectIf_bind_eq_ok.1 h
    obtain ⟨-, h⟩ := rejectIf_bind_eq_ok.1 h
    obtain ⟨taskId, -, h⟩ := bind_eq_ok.1 h
    obtain ⟨tasks, hinsert, h⟩ := bind_eq_ok.1 h
    obtain ⟨credit, happend, h⟩ := bind_eq_ok.1 h
    obtain ⟨rfl, rfl⟩ := Prod.mk.inj (pure_eq_ok.1 h)
    obtain ⟨hrows, -⟩ := Table.insert_ok hinsert
    obtain ⟨haccounts, htransactions⟩ := appendTaskEvent_ok happend
    obtain ⟨payload, -, happend⟩ := bind_eq_ok.1 happend
    obtain ⟨events, hevents, happend⟩ := bind_eq_ok.1 happend
    obtain rfl := pure_eq_ok.1 happend
    refine ⟨_, ⟨hrows, rfl, ⟨_, (Journal.append_eq_ok hevents).2, rfl, rfl⟩, haccounts,
      htransactions, rfl, rfl⟩, Table.get?_eq_some.2 ⟨?_, rfl⟩⟩
    rw [hrows]
    exact List.mem_append_right _ List.mem_cons_self

theorem createTaskWithFunding_effect (publisher : List (String × Json)) (initiatedBy : Nat)
    (args : DraftArgs) : ∃ result, CreationEffect s
      (createTaskWithFunding env s publisher initiatedBy args) result := by
  cases h : createTaskWithFunding env s publisher initiatedBy args with
  | error e => exact ⟨.raised, e, rfl, rfl⟩
  | ok outcome =>
    obtain ⟨⟨drafted, task⟩, hcreate, hfund⟩ := bind_eq_ok.1 h
    simp only at hfund
    obtain ⟨row, hdrafted, hrow⟩ := createTaskDraft_drafted hcreate
    obtain ⟨result, heffect⟩ :=
      @fundAndPublishTask_effect _ _ env _ _ hrow publisher initiatedBy defaultLockReason
    rw [hfund] at heffect
    cases result with
    | published => exact ⟨.published, drafted, row, hdrafted, heffect⟩
    | unfunded => exact ⟨.unfunded, drafted, row, hdrafted, heffect⟩
    | raised =>
      obtain ⟨e, herror, -⟩ := heffect
      cases herror

/-- **Funded publication is all or nothing.** On every state the call publishes a task and locks
exactly what was missing of its reward, or it reports what the pool lacks and changes nothing, or it
raises and changes nothing. The creation of a funded task differs by the draft. -/
theorem fundAndPublishTask_allOrNothing (env : TaskEnv) (s : BudgetState ctx)
    (publisher : List (String × Json)) (initiatedBy : Nat) :
    (∀ task row lockReason, s.tasks.get? task = some row → row.task.status = .draft →
      ∃! result, FundingEffect s row
        (fundAndPublishTask env s task publisher initiatedBy lockReason) result) ∧
    ∀ args, ∃! result, CreationEffect s (createTaskWithFunding env s publisher initiatedBy args)
      result := by
  refine ⟨fun task row lockReason hrow _ => ?_, fun args => ?_⟩
  · obtain ⟨result, heffect⟩ :=
      @fundAndPublishTask_effect _ _ env _ _ hrow publisher initiatedBy lockReason
    exact ⟨result, heffect, fun _ hother => hother.resultOf_eq.symm.trans heffect.resultOf_eq⟩
  · obtain ⟨result, heffect⟩ := @createTaskWithFunding_effect _ s env publisher initiatedBy args
    exact ⟨result, heffect, fun _ hother => hother.resultOf_eq.symm.trans heffect.resultOf_eq⟩

/-- The draft of the paid task is funded and published. -/
theorem fundAndPublishTask_allOrNothing_funded :
    ∃ row, (taskRun fundedStart (paidWork.take 1)).tasks.get? "task-a" = some row ∧
      ∃! result, FundingEffect (taskRun fundedStart (paidWork.take 1)) row
        (fundAndPublishTask (workEnv 3) (taskRun fundedStart (paidWork.take 1)) "task-a" [] 1 "lock")
        result := by
  have hdraft : ((taskRun fundedStart (paidWork.take 1)).tasks.get? "task-a").any
      (fun row => row.task.status = .draft) = true := by
    decide +kernel
  obtain ⟨row, hrow, hstatus⟩ := Option.any_eq_true _ _ |>.1 hdraft
  exact ⟨row, hrow, (fundAndPublishTask_allOrNothing (workEnv 3) _ [] 1).1 "task-a" row "lock" hrow
    (of_decide_eq_true hstatus)⟩

end LiveOs.Tasks
