import LiveOs.Tasks.Lifecycle
import LiveOs.Tasks.Verify.Budgets

/-!
# What the services of a task do

A call of a task service either accepts no task, and then it writes no reward, or it is the review
that accepts one, and then it writes the entry of the point ledger and the transaction together.
-/

namespace LiveOs.Tasks

open Lib EventLedger Roles Credit
open Procurement (PyDecimal)

variable {ctx : Context} {s s' : BudgetState ctx} {env : TaskEnv} {row : TaskRow}

/-! ## The rows of a reward -/

/-- A posted contribution of the task. -/
def IsContribution (task : String) (e : EntryRow) : Prop :=
  e.relatedTask = some task ∧ e.entry.entryType = .contribution ∧ e.entry.status = .posted

/-- A reward of the task. -/
def IsReward (task : String) (t : CreditTransaction) : Prop :=
  t.transactionType = .taskReward ∧ t.relatedTask = some task

instance (task : String) (e : EntryRow) : Decidable (IsContribution task e) :=
  inferInstanceAs (Decidable (_ ∧ _ ∧ _))

instance (task : String) (t : CreditTransaction) : Decidable (IsReward task t) :=
  inferInstanceAs (Decidable (_ ∧ _))

def contributions (s : BudgetState ctx) (task : String) : List EntryRow :=
  s.entries.rows.filter fun e => IsContribution task e

def rewards (s : BudgetState ctx) (task : String) : List CreditTransaction :=
  s.credit.transactions.rows.filter fun t => IsReward task t

/-- The entry of an accepted task. -/
structure EntryFor (row : TaskRow) (e : EntryRow) : Prop where
  id : e.entry.ledgerEntryId = taskEntryId row.task.taskId
  contribution : IsContribution row.task.taskId e
  amount : e.entry.amount = rewardAmount row
  member : row.task.assigneeMember = some e.entry.member

/-- The transaction of an accepted task. -/
structure RewardFor (accounts : AccountTable) (row : TaskRow) (t : CreditTransaction) : Prop where
  reward : IsReward row.task.taskId t
  amount : t.amount = rewardAmount row
  account : ∃ account ∈ accounts.rows, t.targetAccount = some account.accountId ∧
    account.member.isSome ∧ account.member = row.task.assigneeMember

/-- The task was accepted with points. -/
def Earning (row : TaskRow) : Prop := row.task.status = .accepted ∧ rewardAmount row ≠ 0

/-! ## The expected reward -/

theorem divHalfEven_zero (d : Nat) : PyDecimal.divHalfEven 0 d = 0 := by
  simp [PyDecimal.divHalfEven]

theorem rewardAmount_of_zero (h : row.basePoints = 0) : rewardAmount row = 0 := by
  unfold rewardAmount PyDecimal.mul PyDecimal.quantize
  rw [h]
  simp only [zero_mul]
  split
  · rfl
  · exact divHalfEven_zero _

theorem taskExpectedReward_eq (h : 0 ≤ row.basePoints) :
    taskExpectedReward row = rewardAmount row := by
  unfold taskExpectedReward
  split
  · rw [rewardAmount_of_zero (by omega)]
  · rfl

/-! ## What a call does -/

/-- The states that no service saves a task in again. -/
def TaskStatus.isFinal : TaskStatus → Bool
  | .accepted => true
  | .rejected => true
  | .closed => true
  | _ => false

/-- A later row of the same task: its terms stay, and all of it once its state is final. -/
structure Later (r r' : TaskRow) : Prop where
  id : r'.task.taskId = r.task.taskId
  basePoints : r'.basePoints = r.basePoints
  roleCoefficient : r'.roleCoefficient = r.roleCoefficient
  final : r.task.status.isFinal = true → r' = r

theorem Later.refl (r : TaskRow) : Later r r := ⟨rfl, rfl, rfl, fun _ => rfl⟩

theorem Later.trans {a b c : TaskRow} (h : Later a b) (h' : Later b c) : Later a c := by
  refine ⟨h'.id.trans h.id, h'.basePoints.trans h.basePoints,
    h'.roleCoefficient.trans h.roleCoefficient, fun hfinal => ?_⟩
  obtain rfl := h.final hfinal
  exact h'.final hfinal

theorem Later.rewardAmount {r r' : TaskRow} (h : Later r r') :
    rewardAmount r' = Tasks.rewardAmount r := by
  rw [Tasks.rewardAmount, Tasks.rewardAmount, h.basePoints, h.roleCoefficient]

/-- Every task stays. -/
def Kept (s s' : BudgetState ctx) : Prop :=
  ∀ r ∈ s.tasks.rows, ∃ r' ∈ s'.tasks.rows, Later r r'

theorem Kept.refl (s : BudgetState ctx) : Kept s s := fun r hr => ⟨r, hr, .refl r⟩

theorem Kept.trans {a b c : BudgetState ctx} (h : Kept a b) (h' : Kept b c) : Kept a c := by
  intro r hr
  obtain ⟨r', hr', hlater⟩ := h r hr
  obtain ⟨r'', hr'', hlater'⟩ := h' r' hr'
  exact ⟨r'', hr'', hlater.trans hlater'⟩

/-- One row is saved. -/
structure Saved (s s' : BudgetState ctx) (row : TaskRow) (status : TaskStatus)
    (assigneeMember : Option Nat) (metadata : List (String × Json)) : Prop where
  mem : row ∈ s.tasks.rows
  tasks : s'.tasks.rows = s.tasks.rows.map fun r =>
    if r.task.taskId = row.task.taskId then r.saved status assigneeMember metadata else r

section

variable {status : TaskStatus} {assigneeMember : Option Nat} {metadata : List (String × Json)}

theorem Saved.new_mem (h : Saved s s' row status assigneeMember metadata) :
    row.saved status assigneeMember metadata ∈ s'.tasks.rows := by
  rw [h.tasks]
  exact List.mem_map.2 ⟨row, h.mem, if_pos rfl⟩

theorem Saved.origin (h : Saved s s' row status assigneeMember metadata) {r' : TaskRow}
    (hr' : r' ∈ s'.tasks.rows) :
    r' ∈ s.tasks.rows ∨ r' = row.saved status assigneeMember metadata := by
  rw [h.tasks] at hr'
  obtain ⟨r, hr, rfl⟩ := List.mem_map.1 hr'
  split
  · rename_i hid
    rw [s.tasks.eq_of_pk hr h.mem hid]
    exact .inr rfl
  · exact .inl hr

theorem Saved.kept (h : Saved s s' row status assigneeMember metadata)
    (hlive : row.task.status.isFinal = false) : Kept s s' := by
  intro r hr
  by_cases hid : r.task.taskId = row.task.taskId
  · obtain rfl := s.tasks.eq_of_pk hr h.mem hid
    exact ⟨_, h.new_mem, rfl, rfl, rfl, fun hfinal => by rw [hlive] at hfinal; cases hfinal⟩
  · refine ⟨r, ?_, .refl r⟩
    rw [h.tasks]
    exact List.mem_map.2 ⟨r, hr, if_neg hid⟩

end

/-- The credit rows change, but not by a reward. -/
structure Unrewarding (c c' : CreditState ctx) : Prop where
  accounts : Grows ctx c.accounts c'.accounts
  rows : ∃ new, c'.transactions.rows = c.transactions.rows ++ new ∧
    ∀ t ∈ new, t.transactionType ≠ .taskReward

theorem Unrewarding.of_same {c c' : CreditState ctx} (h : AccountsOf ctx c.accounts)
    (haccounts : c'.accounts = c.accounts) (hrows : c'.transactions = c.transactions) :
    Unrewarding c c' := by
  refine ⟨⟨by rw [haccounts]; exact h, fun a ha => by rw [haccounts]; exact ha⟩, [], ?_, ?_⟩
  · rw [hrows, List.append_nil]
  · exact fun t ht => absurd ht List.not_mem_nil

theorem Unrewarding.trans {a b c : CreditState ctx} (h : Unrewarding a b)
    (h' : Unrewarding b c) : Unrewarding a c := by
  obtain ⟨new, hnew, hty⟩ := h.rows
  obtain ⟨new', hnew', hty'⟩ := h'.rows
  refine ⟨⟨h'.accounts.known, fun x hx => h'.accounts.subset x (h.accounts.subset x hx)⟩,
    new ++ new', by rw [hnew', hnew, List.append_assoc], fun t ht => ?_⟩
  exact (List.mem_append.1 ht).elim (hty t) (hty' t)

/-- A call that accepts no task. -/
structure Quiet (s s' : BudgetState ctx) : Prop where
  entries : s'.entries = s.entries
  credit : Unrewarding s.credit s'.credit
  kept : Kept s s'
  accepted : ∀ r ∈ s'.tasks.rows, r.task.status = .accepted → r ∈ s.tasks.rows
  points : (∀ r ∈ s.tasks.rows, 0 ≤ r.basePoints) → ∀ r ∈ s'.tasks.rows, 0 ≤ r.basePoints

/-- The two rows of the reward of the task. -/
structure Settled (s s' : BudgetState ctx) (row : TaskRow) : Prop where
  accounts : Grows ctx s.credit.accounts s'.credit.accounts
  entry : ∃ e, s'.entries.rows = s.entries.rows ++ [e] ∧ EntryFor row e
  reward : ∃ t, s'.credit.transactions.rows = s.credit.transactions.rows ++ [t] ∧
    RewardFor s'.credit.accounts row t

/-- The task that a call accepts. -/
def TaskCall.accepts : TaskCall → Option String
  | .reviewTask task _ true _ _ => some task
  | _ => none

/-- What a successful call does. -/
inductive TaskEffect (s s' : BudgetState ctx) : Option String → Prop
  | quiet (quiet : Quiet s s') : TaskEffect s s' none
  /-- The task is accepted, and both rows are written when it has points. -/
  | accepted (row : TaskRow) (metadata : List (String × Json))
    (pending : row.task.status = .pendingReview)
    (saved : Saved s s' row .accepted row.task.assigneeMember metadata)
    (settled : rewardAmount row = 0 ∧ s'.entries = s.entries ∧ Unrewarding s.credit s'.credit ∨
      rewardAmount row ≠ 0 ∧
        Settled s s' (row.saved .accepted row.task.assigneeMember metadata)) :
    TaskEffect s s' (some row.task.taskId)

/-! ## The services -/

theorem Quiet.trans {a b c : BudgetState ctx} (h : Quiet a b) (h' : Quiet b c) : Quiet a c where
  entries := h'.entries.trans h.entries
  credit := h.credit.trans h'.credit
  kept := h.kept.trans h'.kept
  accepted r hr hstatus := h.accepted r (h'.accepted r hr hstatus) hstatus
  points hpoints := h'.points (h.points hpoints)

/-- Only credit rows change. -/
theorem Quiet.of_credit {credit : CreditState ctx} (h : Unrewarding s.credit credit) :
    Quiet s { s with credit := credit } :=
  ⟨rfl, h, .refl s, fun _ hr _ => hr, fun hpoints => hpoints⟩

theorem appendTaskEvent_ok {credit credit' : CreditState ctx} {task : Task} {event : TaskEvent}
    (h : appendTaskEvent env credit task event = .ok credit') :
    credit'.accounts = credit.accounts ∧ credit'.transactions = credit.transactions := by
  obtain ⟨payload, -, h⟩ := bind_eq_ok.1 h
  obtain ⟨events, -, h⟩ := bind_eq_ok.1 h
  obtain rfl := pure_eq_ok.1 h
  exact ⟨rfl, rfl⟩

section

variable {status : TaskStatus} {assigneeMember : Option Nat} {metadata : List (String × Json)}
  {event : TaskEvent}

theorem saveTask_ok (hrow : row ∈ s.tasks.rows)
    (h : saveTask env s row status assigneeMember metadata event = .ok s') :
    Saved s s' row status assigneeMember metadata ∧ s'.entries = s.entries ∧
      s'.credit.accounts = s.credit.accounts ∧ s'.credit.transactions = s.credit.transactions := by
  obtain ⟨credit, happend, h⟩ := bind_eq_ok.1 h
  obtain rfl := pure_eq_ok.1 h
  obtain ⟨haccounts, htransactions⟩ := appendTaskEvent_ok happend
  exact ⟨⟨hrow, rfl⟩, rfl, haccounts, htransactions⟩

/-- A row is saved in a state that is not the accepted one. -/
theorem Saved.quiet (h : Saved s s' row status assigneeMember metadata)
    (hlive : row.task.status.isFinal = false) (hstatus : status ≠ .accepted)
    (hentries : s'.entries = s.entries) (hcredit : Unrewarding s.credit s'.credit) :
    Quiet s s' where
  entries := hentries
  credit := hcredit
  kept := h.kept hlive
  accepted r hr haccepted := by
    rcases h.origin hr with hold | rfl
    · exact hold
    · exact absurd haccepted hstatus
  points hpoints r hr := by
    rcases h.origin hr with hold | rfl
    · exact hpoints r hold
    · exact hpoints row h.mem

theorem saveTask_quiet (hacc : AccountsOf ctx s.credit.accounts) {task : String}
    (hrow : related s.tasks task "Task" = .ok row) (hlive : row.task.status.isFinal = false)
    (hstatus : status ≠ .accepted)
    (h : saveTask env s row status assigneeMember metadata event = .ok s') : Quiet s s' := by
  have hmem := (Table.get?_eq_some.1 (related_eq_ok.1 hrow)).1
  obtain ⟨hsaved, hentries, haccounts, htransactions⟩ := saveTask_ok hmem h
  exact hsaved.quiet hlive hstatus hentries (.of_same hacc haccounts htransactions)

end

variable {task : String}

theorem createTaskDraft_quiet {args : DraftArgs} (hacc : AccountsOf ctx s.credit.accounts)
    (h : createTaskDraft env s args = .ok (s', task)) : Quiet s s' := by
  obtain ⟨-, h⟩ := rejectIf_bind_eq_ok.1 h
  split at h
  · cases h
  · obtain ⟨-, h⟩ := rejectIf_bind_eq_ok.1 h
    obtain ⟨hpoints, h⟩ := rejectIf_bind_eq_ok.1 h
    obtain ⟨-, h⟩ := rejectIf_bind_eq_ok.1 h
    obtain ⟨-, h⟩ := rejectIf_bind_eq_ok.1 h
    obtain ⟨-, h⟩ := rejectIf_bind_eq_ok.1 h
    obtain ⟨taskId, -, h⟩ := bind_eq_ok.1 h
    obtain ⟨tasks, hinsert, h⟩ := bind_eq_ok.1 h
    obtain ⟨credit, happend, h⟩ := bind_eq_ok.1 h
    obtain ⟨rfl, rfl⟩ := Prod.mk.inj (pure_eq_ok.1 h)
    obtain ⟨hrows, -⟩ := Table.insert_ok hinsert
    obtain ⟨haccounts, htransactions⟩ := appendTaskEvent_ok happend
    refine ⟨rfl, .of_same hacc haccounts htransactions, fun r hr => ⟨r, ?_, .refl r⟩,
      fun r hr hstatus => ?_, fun hall r hr => ?_⟩
    · rw [hrows]
      exact List.mem_append_left _ hr
    · rw [hrows] at hr
      rcases List.mem_append.1 hr with hold | hnew
      · exact hold
      · -- the new task is a draft
        rw [List.mem_singleton.1 hnew] at hstatus
        cases hstatus
    · rw [hrows] at hr
      rcases List.mem_append.1 hr with hold | hnew
      · exact hall r hold
      · rw [List.mem_singleton.1 hnew]
        exact not_lt.1 hpoints

theorem requireDraft_ok {u : Unit} (h : requireDraft row = .ok u) : row.task.status = .draft := by
  obtain ⟨hstatus, -⟩ := rejectIf_bind_eq_ok.1 h
  exact not_not.1 hstatus

theorem publishTask_quiet {publisher : List (String × Json)}
    (hacc : AccountsOf ctx s.credit.accounts) (h : publishTask env s task publisher = .ok s') :
    Quiet s s' := by
  obtain ⟨row, hrow, h⟩ := bind_eq_ok.1 h
  obtain ⟨_, hdraft, h⟩ := bind_eq_ok.1 h
  obtain ⟨_, -, h⟩ := bind_eq_ok.1 h
  exact saveTask_quiet hacc hrow (by rw [requireDraft_ok hdraft]; rfl) (by decide) h

theorem assignTask_quiet {member : Member} {operator : List (String × Json)}
    (hacc : AccountsOf ctx s.credit.accounts)
    (h : assignTask env s task member operator = .ok s') : Quiet s s' := by
  obtain ⟨row, hrow, h⟩ := bind_eq_ok.1 h
  obtain ⟨hstatus, h⟩ := rejectIf_bind_eq_ok.1 h
  obtain ⟨-, h⟩ := rejectIf_bind_eq_ok.1 h
  obtain ⟨-, h⟩ := rejectIf_bind_eq_ok.1 h
  exact saveTask_quiet hacc hrow (by rw [not_not.1 hstatus]; rfl) (by decide) h

theorem claimTask_quiet {member : Member} (hacc : AccountsOf ctx s.credit.accounts)
    (h : claimTask env s task member = .ok s') : Quiet s s' := by
  obtain ⟨row, hrow, h⟩ := bind_eq_ok.1 h
  obtain ⟨hstatus, h⟩ := rejectIf_bind_eq_ok.1 h
  obtain ⟨-, h⟩ := rejectIf_bind_eq_ok.1 h
  exact saveTask_quiet hacc hrow (by rw [not_not.1 hstatus]; rfl) (by decide) h

theorem submitLabor_quiet {member : Member} {laborNote : String} {evidenceRefs : List String}
    (hacc : AccountsOf ctx s.credit.accounts)
    (h : submitLabor env s task member laborNote evidenceRefs = .ok s') : Quiet s s' := by
  obtain ⟨row, hrow, h⟩ := bind_eq_ok.1 h
  obtain ⟨-, h⟩ := rejectIf_bind_eq_ok.1 h
  obtain ⟨hstatus, h⟩ := rejectIf_bind_eq_ok.1 h
  have hlive : row.task.status.isFinal = false := by
    cases hrowStatus : row.task.status <;> simp_all [TaskStatus.isFinal]
  exact saveTask_quiet hacc hrow hlive (by decide) h

theorem closeTask_quiet {operator : List (String × Json)} {reason : String}
    (hacc : AccountsOf ctx s.credit.accounts)
    (h : closeTask env s task operator reason = .ok s') : Quiet s s' := by
  obtain ⟨-, h⟩ := rejectIf_bind_eq_ok.1 h
  obtain ⟨row, hrow, h⟩ := bind_eq_ok.1 h
  obtain ⟨hstatus, h⟩ := rejectIf_bind_eq_ok.1 h
  obtain ⟨-, h⟩ := rejectIf_bind_eq_ok.1 h
  have hlive : row.task.status.isFinal = false := by
    cases hrowStatus : row.task.status <;> simp_all [TaskStatus.isFinal]
  exact saveTask_quiet hacc hrow hlive (by decide) h

/-- A posting of another type rewards no task. -/
theorem Unrewarding.of_posts {call : CallEnv} {c c' : CreditState ctx} {args : PostArgs}
    {txnType : TxnType} {txn : CreditTransaction} (h : Posts call c c' args txnType txn)
    (hty : txnType ≠ .taskReward) : Unrewarding c c' := by
  rcases h.write with hreused | ⟨hcreated, -⟩
  · refine ⟨hreused.grown.accounts, [], ?_, fun t ht => absurd ht List.not_mem_nil⟩
    rw [hreused.grown.transactions, List.append_nil]
  · refine ⟨hcreated.accounts, [txn], hcreated.rows, fun t ht => ?_⟩
    rw [List.mem_singleton.1 ht, h.row.transactionType]
    exact hty

theorem lockTaskCreditBudget_unrewarding {call : CallEnv} {c c' : CreditState ctx} {amount : Int}
    {reason : String} {initiatedBy : Option Nat} {key : Option String} {txn : CreditTransaction}
    (hacc : AccountsOf ctx c.accounts)
    (h : lockTaskCreditBudget call c task amount reason initiatedBy key = .ok (c', txn)) :
    Unrewarding c c' := by
  unfold lockTaskCreditBudget at h
  split at h
  · simp only at h
    split at h
    · obtain ⟨_, -, h⟩ := bind_eq_ok.1 h
      obtain ⟨rfl, rfl⟩ := Prod.mk.inj (pure_eq_ok.1 h)
      exact .of_same hacc rfl rfl
    · obtain ⟨-, h⟩ := rejectIf_bind_eq_ok.1 h
      exact .of_posts (postCreditTransaction_ok hacc (TxnType.ofValue?_value .lock) h) (by decide)
  · cases h

theorem lockShortfall_quiet {budget : TaskBudgetStatus} {initiatedBy : Nat} {lockReason : String}
    (hacc : AccountsOf ctx s.credit.accounts)
    (h : lockShortfall env s task budget initiatedBy lockReason = .ok s') : Quiet s s' := by
  unfold lockShortfall at h
  split at h
  · obtain ⟨⟨credit, txn⟩, hlock, h⟩ := bind_eq_ok.1 h
    obtain rfl := pure_eq_ok.1 h
    exact .of_credit (lockTaskCreditBudget_unrewarding hacc hlock)
  · obtain rfl := Except.ok.inj h
    exact .of_credit (.of_same hacc rfl rfl)

theorem fundAndPublishTask_quiet {publisher : List (String × Json)} {initiatedBy : Nat}
    {lockReason : String} {result : TaskBudgetStatus × Bool}
    (hacc : AccountsOf ctx s.credit.accounts)
    (h : fundAndPublishTask env s task publisher initiatedBy lockReason = .ok (s', result)) :
    Quiet s s' := by
  obtain ⟨row, -, h⟩ := bind_eq_ok.1 h
  obtain ⟨_, -, h⟩ := bind_eq_ok.1 h
  split at h
  · cases h
  · obtain ⟨lockedBudget, -, h⟩ := bind_eq_ok.1 h
    simp only at h
    split at h
    · obtain ⟨rfl, -⟩ := Prod.mk.inj (pure_eq_ok.1 h)
      exact .of_credit (.of_same hacc rfl rfl)
    · obtain ⟨s₁, hlock, h⟩ := bind_eq_ok.1 h
      obtain ⟨s₂, hpublish, h⟩ := bind_eq_ok.1 h
      obtain ⟨rfl, -⟩ := Prod.mk.inj (pure_eq_ok.1 h)
      have hquiet := lockShortfall_quiet hacc hlock
      exact hquiet.trans (publishTask_quiet hquiet.credit.accounts.known hpublish)

/-! ## Reviews -/

theorem recordReward_ok {call : ReviewEnv} {plan : ReviewPlan}
    (h : recordReward call s plan = .ok s') :
    s'.tasks = s.tasks ∧ s'.entries.rows = s.entries.rows ++ [{
      entry := {
        ledgerEntryId := taskEntryId plan.row.task.taskId
        member := plan.assignee
        amount := plan.amount
        entryType := .contribution
        reason := plan.reason
        ruleVersion := plan.row.ruleVersion
        status := .posted }
      relatedTask := some plan.row.task.taskId
      relatedEventId := taskEventId plan.row.task.taskId }] := by
  obtain ⟨_, -, h⟩ := bind_eq_ok.1 h
  obtain ⟨publicEvents, -, h⟩ := bind_eq_ok.1 h
  obtain ⟨entries, hinsert, h⟩ := bind_eq_ok.1 h
  obtain ⟨payload, -, h⟩ := bind_eq_ok.1 h
  obtain ⟨events, -, h⟩ := bind_eq_ok.1 h
  obtain rfl := pure_eq_ok.1 h
  exact ⟨rfl, (Table.insert_ok hinsert).1⟩

/-- The reward of a task that has none yet. -/
theorem settleReward_ok {assignee : Nat} {reviewer : List (String × Json)} {reason : String}
    {genesis : Bool} {metadata : List (String × Json)} (hacc : AccountsOf ctx s.credit.accounts)
    (hassignee : row.task.assigneeMember = some assignee)
    (hnone : ∀ t ∈ s.credit.transactions.rows, ¬ IsReward row.task.taskId t)
    (h : settleReward env s row assignee reviewer reason genesis = .ok s') :
    s'.tasks = s.tasks ∧ Settled s s' (row.saved .accepted row.task.assigneeMember metadata) := by
  obtain ⟨s₁, hrecord, h⟩ := bind_eq_ok.1 h
  obtain ⟨credit₂, hensure, h⟩ := bind_eq_ok.1 h
  obtain ⟨⟨credit₃, account⟩, hmember, h⟩ := bind_eq_ok.1 h
  obtain ⟨⟨credit₄, txn⟩, hreward, h⟩ := bind_eq_ok.1 h
  obtain rfl := pure_eq_ok.1 h
  obtain ⟨htasks, hentries⟩ := recordReward_ok hrecord
  obtain ⟨haccounts₁, htransactions₁⟩ := recordReward_credit hrecord
  have hacc₁ : AccountsOf ctx s₁.credit.accounts := by
    rw [haccounts₁]
    exact hacc
  obtain ⟨accounts₂, hensure', hok₂, hgrows₂⟩ := ensureSystemAccounts_ok hacc₁
  obtain rfl := Except.ok.inj (hensure'.symm.trans hensure)
  obtain ⟨-, hgrown₃, -⟩ := getOrCreateMember_inv hok₂.known hmember
  have htransactions₃ : credit₃.transactions = s.credit.transactions :=
    hgrown₃.transactions.trans htransactions₁
  obtain ⟨hrow, htask, hwrite, hmem⟩ :=
    postTaskRewardCreditTransaction_ok (hok₂.grow hgrown₃.accounts) hreward
  have hisReward : IsReward row.task.taskId txn := ⟨hrow.transactionType, htask⟩
  rcases hwrite with ⟨key, hreused⟩ | ⟨hcreated, -⟩
  · -- a row found under the key would be a reward of the task
    have hold := hreused.mem
    rw [htransactions₃] at hold
    exact absurd hisReward (hnone txn hold)
  · refine ⟨htasks, ⟨hcreated.accounts.known, fun a ha => ?_⟩, ⟨_, hentries, ?_⟩,
      ⟨txn, by rw [hcreated.rows, htransactions₃], hisReward, hrow.amount, ?_⟩⟩
    · refine hcreated.accounts.subset a (hgrown₃.accounts.subset a (hgrows₂.subset a ?_))
      rw [haccounts₁]
      exact ha
    · exact ⟨rfl, ⟨rfl, rfl, rfl⟩, rfl, hassignee⟩
    · exact ⟨_, hmem, hrow.target, rfl, hassignee.symm⟩

theorem reviewTask_effect {reviewer : List (String × Json)} {accepted : Bool} {reason : String}
    {genesis : Bool} (hacc : AccountsOf ctx s.credit.accounts)
    (hnone : ∀ r ∈ s.tasks.rows, r.task.status = .pendingReview →
      ∀ t ∈ s.credit.transactions.rows, ¬ IsReward r.task.taskId t)
    (h : reviewTask env s task reviewer accepted reason genesis = .ok s') :
    TaskEffect s s' (TaskCall.reviewTask task reviewer accepted reason genesis).accepts := by
  obtain ⟨row, hrow, h⟩ := bind_eq_ok.1 h
  obtain ⟨hstatus, h⟩ := rejectIf_bind_eq_ok.1 h
  have hpending := not_not.1 hstatus
  split at h
  · cases h
  · rename_i assignee hassignee
    cases accepted with
    | false =>
      simp only [Bool.false_eq_true, if_false, ok_bind, true_or, if_true] at h
      obtain ⟨s₁, hsave, h⟩ := bind_eq_ok.1 h
      obtain rfl := pure_eq_ok.1 h
      exact .quiet (saveTask_quiet hacc hrow (by rw [hpending]; rfl) (by decide) hsave)
    | true =>
      simp only [if_true] at h
      obtain ⟨_, -, hreviewed⟩ := bind_eq_ok.1 h
      obtain ⟨s₁, hsave, hreward⟩ := bind_eq_ok.1 hreviewed
      obtain ⟨hmem, rfl⟩ := Table.get?_eq_some.1 (related_eq_ok.1 hrow)
      rw [← hassignee] at hsave
      obtain ⟨hsaved, hentries, haccounts, htransactions⟩ := saveTask_ok hmem hsave
      have hacc₁ : AccountsOf ctx s₁.credit.accounts := by
        rw [haccounts]
        exact hacc
      by_cases hzero : rewardAmount row = 0
      · rw [if_pos (.inr hzero)] at hreward
        obtain rfl := pure_eq_ok.1 hreward
        refine .accepted row _ hpending hsaved (.inl ⟨hzero, hentries, ?_⟩)
        exact .of_same hacc haccounts htransactions
      · rw [if_neg (by simp [hzero])] at hreward
        have hnone₁ : ∀ t ∈ s₁.credit.transactions.rows, ¬ IsReward row.task.taskId t := by
          rw [htransactions]
          exact hnone row hmem hpending
        obtain ⟨htasks, hsettled⟩ := settleReward_ok hacc₁ hassignee hnone₁ hreward
        refine .accepted row _ hpending ⟨hmem, by rw [htasks, hsaved.tasks]⟩
          (.inr ⟨hzero, ?_, ?_, ?_⟩)
        · exact ⟨hsettled.accounts.known,
            fun a ha => hsettled.accounts.subset a (by rw [haccounts]; exact ha)⟩
        · rw [← hentries]
          exact hsettled.entry
        · rw [← htransactions]
          exact hsettled.reward

theorem taskStep_effect {call : TaskEnv × TaskCall} (hacc : AccountsOf ctx s.credit.accounts)
    (hnone : ∀ r ∈ s.tasks.rows, r.task.status = .pendingReview →
      ∀ t ∈ s.credit.transactions.rows, ¬ IsReward r.task.taskId t)
    (h : taskStep s call = .ok s') : TaskEffect s s' call.2.accepts := by
  obtain ⟨env, call⟩ := call
  cases call with
  | createTaskDraft args =>
    obtain ⟨⟨s₁, task⟩, hcreate, h⟩ := bind_eq_ok.1 h
    obtain rfl := pure_eq_ok.1 h
    exact .quiet (createTaskDraft_quiet hacc hcreate)
  | publishTask task publisher => exact .quiet (publishTask_quiet hacc h)
  | fundAndPublishTask task publisher initiatedBy lockReason =>
    obtain ⟨⟨s₁, result⟩, hfund, h⟩ := bind_eq_ok.1 h
    obtain rfl := pure_eq_ok.1 h
    exact .quiet (fundAndPublishTask_quiet hacc hfund)
  | claimTask task member => exact .quiet (claimTask_quiet hacc h)
  | assignTask task member operator => exact .quiet (assignTask_quiet hacc h)
  | submitLabor task member laborNote evidenceRefs => exact .quiet (submitLabor_quiet hacc h)
  | reviewTask task reviewer accepted reason genesis => exact reviewTask_effect hacc hnone h
  | closeTask task operator reason => exact .quiet (closeTask_quiet hacc h)

end LiveOs.Tasks
