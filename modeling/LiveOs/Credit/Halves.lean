import LiveOs.Credit.Services
import LiveOs.Lib.Transactions

/-!
# The budget services, reads first

`post_credit_transaction` and the services that draw on budgets, each split at its first write. The
row to post is planned by the reads; writing it can still meet a row with its id or key that was
committed in between.
-/

namespace LiveOs.Credit

open Lib EventLedger

variable {ctx : Context}

/-- What the reads of a posting lead to. -/
inductive Posting where
  | existing (txn : CreditTransaction)
  | create (args : PostArgs) (txnType : TxnType) (metadata : Json)

/-- `post_credit_transaction` up to its savepoint. -/
def postReads (s : CreditState ctx) (args : PostArgs) : Except Error Posting := do
  rejectIf (args.amount ≤ 0) (.domain "积分数量必须为正数。")
  match TxnType.ofValue? args.transactionType with
  | none => .error (.domain ("无效的交易类型: " ++ args.transactionType ++ "。"))
  | some txnType =>
    match findPosted s (normaliseIdemKey args.idempotencyKey) with
    | some existing => do
      assertIdempotentMatch (matchFields existing txnType args)
      return .existing existing
    | none =>
      match jsonStore (orEmptyDict args.metadata) with
      | none => .error .type
      | some metadata => return .create args txnType metadata

/-- `post_credit_transaction` from its savepoint on. -/
def postWrites (env : CallEnv) (s : CreditState ctx) :
    Posting → Except Error (CreditState ctx × CreditTransaction)
  | .existing txn => .ok (s, txn)
  | .create args txnType metadata =>
    let txn := newTransaction env args txnType metadata
    match createTransaction s txn with
    | .ok s' => .ok (s', txn)
    | .error .integrity =>
      match findPosted s (normaliseIdemKey args.idempotencyKey) with
      | some existing => do
        assertIdempotentMatch (matchFields existing txnType args)
        return (s, existing)
      | none => .error (.domain "积分交易并发冲突，请重试。")
    | .error e => .error e

theorem postCreditTransaction_eq (env : CallEnv) (s : CreditState ctx) (args : PostArgs) :
    postCreditTransaction env s args = (postReads s args >>= postWrites env s) := by
  unfold postCreditTransaction postReads
  cases hamount : rejectIf (args.amount ≤ 0) (Error.domain "积分数量必须为正数。") with
  | error e => rfl
  | ok u =>
    simp only [ok_bind]
    cases TxnType.ofValue? args.transactionType with
    | none => rfl
    | some txnType =>
      cases hfind : findPosted s (normaliseIdemKey args.idempotencyKey) with
      | some existing =>
        simp only
        cases assertIdempotentMatch (matchFields existing txnType args) with
        | error e => rfl
        | ok u => rfl
      | none =>
        simp only
        cases jsonStore (orEmptyDict args.metadata) with
        | none => rfl
        | some metadata =>
          cases hcreate : createTransaction s (newTransaction env args txnType metadata) with
          | ok s' => simp [pure, Except.pure, postWrites, hcreate]
          | error e => cases e <;> simp [pure, Except.pure, postWrites, hfind, hcreate]

/-! ## The services -/

/-- What `lock_task_credit_budget` asks `post_credit_transaction` for. -/
def lockArgs (poolAccount taskLocked task : String) (amount : Int) (reason : String)
    (initiatedBy : Option Nat) (dedupeKey : Option String) : PostArgs where
  transactionType := TxnType.lock.value
  amount := amount
  sourceAccount := some poolAccount
  targetAccount := some taskLocked
  relatedTask := some task
  reason := reason
  initiatedBy := initiatedBy
  idempotencyKey := dedupeKey

/-- `lock_task_credit_budget(...)` up to its first write. -/
def lockReads (s : CreditState ctx) (task : String) (amount : Int) (reason : String)
    (initiatedBy : Option Nat) (idempotencyKey : Option String) : Except Error Posting := do
  let dedupeKey := normaliseIdemKey idempotencyKey
  match findPool s .issuancePool, findPool s .taskLocked with
  | some poolAccount, some taskLocked =>
    match findPostedOfType s dedupeKey .lock with
    | some existing => do
      assertIdempotentMatch [
        ("transaction_type", existing.transactionType = .lock),
        ("amount", existing.amount = amount),
        ("source_account_id", existing.sourceAccount = some poolAccount.accountId),
        ("target_account_id", existing.targetAccount = some taskLocked.accountId),
        ("related_task_id", existing.relatedTask = some task)]
      return .existing existing
    | none => do
      let balance := creditBalance s poolAccount.accountId
      rejectIf (balance < amount) (.domain ("发行池余额不足（当前 " ++ toString balance ++
        "，需要锁定 " ++ toString amount ++ "）。"))
      postReads s (lockArgs poolAccount.accountId taskLocked.accountId task amount reason
        initiatedBy dedupeKey)
  | _, _ => .error (.domain "任务预算系统账户不存在，请先调用 ensure_system_accounts()。")

/-- What `unlock_unused_task_credit_budget` asks `post_credit_transaction` for. -/
def unlockArgs (taskLocked poolAccount task : String) (amount : Int) (reason : String)
    (initiatedBy : Option Nat) (dedupeKey : Option String) : PostArgs where
  transactionType := TxnType.unlock.value
  amount := amount
  sourceAccount := some taskLocked
  targetAccount := some poolAccount
  relatedTask := some task
  reason := reason
  initiatedBy := initiatedBy
  idempotencyKey := dedupeKey

/-- `unlock_unused_task_credit_budget(...)` up to its first write. -/
def unlockReads (s : CreditState ctx) (task : String) (amount : Int) (reason : String)
    (initiatedBy : Option Nat) (idempotencyKey : Option String) : Except Error Posting := do
  let dedupeKey := normaliseIdemKey idempotencyKey
  let taskLocked ← pool s .taskLocked
  let poolAccount ← pool s .issuancePool
  match findPostedOfType s dedupeKey .unlock with
  | some existing => do
    assertIdempotentMatch [
      ("transaction_type", existing.transactionType = .unlock),
      ("amount", existing.amount = amount),
      ("source_account_id", existing.sourceAccount = some taskLocked.accountId),
      ("target_account_id", existing.targetAccount = some poolAccount.accountId),
      ("related_task_id", existing.relatedTask = some task)]
    return .existing existing
  | none => do
    let remaining ← taskLockedCreditBalance s task
    rejectIf (amount ≤ 0 ∨ amount > remaining) (.domain ("退回金额 " ++ toString amount ++
      " 超过该任务剩余锁定预算 " ++ toString remaining ++ "。"))
    postReads s (unlockArgs taskLocked.accountId poolAccount.accountId task amount reason
      initiatedBy dedupeKey)

/-- What the default path of `post_task_reward_credit_transaction` asks `post_credit_transaction`
for. -/
def rewardArgs (taskLocked memberAccount task : String) (amount : Int) (ledgerEntry : LedgerEntryRef)
    (reviewedBy : Option Nat) (reason : String) : PostArgs where
  transactionType := TxnType.taskReward.value
  sourceAccount := some taskLocked
  targetAccount := some memberAccount
  amount := amount
  relatedTask := some task
  relatedLedgerEntry := some ledgerEntry.ledgerEntryId
  relatedEventId := ledgerEntry.relatedEventId
  reason := orDefault reason "任务验收奖励"
  reviewedBy := reviewedBy
  initiatedBy := reviewedBy
  idempotencyKey := some (taskRewardKey ledgerEntry)
  metadata := .dict []

/-- The default path of `post_task_reward_credit_transaction(...)` between the member's account and
its first further write. -/
def rewardReads (s : CreditState ctx) (memberAccount : String) (task : String) (amount : Int)
    (ledgerEntry : LedgerEntryRef) (reviewedBy : Option Nat) (reason : String) :
    Except Error Posting := do
  let taskLocked ← pool s .taskLocked
  let _ ← pool s .issuancePool
  match findPostedOfType s (some (taskRewardKey ledgerEntry)) .taskReward with
  | some existing => do
    assertIdempotentMatch [
      ("transaction_type", existing.transactionType = .taskReward),
      ("amount", existing.amount = amount),
      ("source_account_id", existing.sourceAccount = some taskLocked.accountId),
      ("target_account_id", existing.targetAccount = some memberAccount),
      ("related_task_id", existing.relatedTask = some task),
      ("related_ledger_entry_id", existing.relatedLedgerEntry = some ledgerEntry.ledgerEntryId)]
    return .existing existing
  | none => do
    let locked ← taskLockedCreditBalance s task
    rejectIf (locked < amount) (.domain ("任务锁定预算不足（当前剩余 " ++ toString locked ++
      "，需要 " ++ toString amount ++ "）；请先从发行池锁定预算。"))
    postReads s (rewardArgs taskLocked.accountId memberAccount task amount ledgerEntry reviewedBy
      reason)

/-! ## The two halves are the service -/

variable {env : CallEnv} {s : CreditState ctx}

theorem lockTaskCreditBudget_eq (task : String) (amount : Int) (reason : String)
    (initiatedBy : Option Nat) (key : Option String) :
    lockTaskCreditBudget env s task amount reason initiatedBy key =
      (lockReads s task amount reason initiatedBy key >>= postWrites env s) := by
  unfold lockTaskCreditBudget lockReads
  cases findPool s .issuancePool with
  | none => rfl
  | some poolAccount =>
    cases findPool s .taskLocked with
    | none => rfl
    | some taskLocked =>
      simp only
      cases findPostedOfType s (normaliseIdemKey key) .lock with
      | some existing =>
        simp only [bind_assoc]
        rfl
      | none =>
        simp only [bind_assoc, postCreditTransaction_eq]
        rfl

theorem unlockUnusedTaskCreditBudget_eq (task : String) (amount : Int) (reason : String)
    (initiatedBy : Option Nat) (key : Option String) :
    unlockUnusedTaskCreditBudget env s task amount reason initiatedBy key =
      (unlockReads s task amount reason initiatedBy key >>= postWrites env s) := by
  unfold unlockUnusedTaskCreditBudget unlockReads
  simp only [bind_assoc]
  refine bind_congr fun taskLocked => bind_congr fun poolAccount => ?_
  cases findPostedOfType s (normaliseIdemKey key) .unlock with
  | some existing =>
    simp only [bind_assoc]
    rfl
  | none =>
    simp only [bind_assoc, postCreditTransaction_eq]
    rfl

theorem postTaskRewardCreditTransaction_eq (task : String) (member : Nat) (amount : Int)
    (entry : LedgerEntryRef) (reviewedBy : Option Nat) (reason : String) :
    postTaskRewardCreditTransaction env s task member amount entry reviewedBy reason false = (do
      let (s, memberAccount) ← getOrCreateMemberCreditAccount s member
      let posting ← rewardReads s memberAccount.accountId task amount entry reviewedBy reason
      postWrites env s posting) := by
  unfold postTaskRewardCreditTransaction rewardReads
  refine bind_congr fun ⟨s, memberAccount⟩ => ?_
  simp only [bind_assoc, Bool.false_eq_true, if_false]
  refine bind_congr fun taskLocked => bind_congr fun _ => ?_
  cases findPostedOfType s (some (taskRewardKey entry)) .taskReward with
  | some existing =>
    simp only [bind_assoc]
    rfl
  | none =>
    simp only [bind_assoc, postCreditTransaction_eq]
    rfl

end LiveOs.Credit
