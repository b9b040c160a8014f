import LiveOs.Credit.Posting

/-!
# Issuance, budgets, transfers, deductions, reversals and rewards

The wrappers of `core/credit_services.py` around `post_credit_transaction`, each with its own
order of lookups and checks.
-/

namespace LiveOs.Credit

open Lib EventLedger

variable {ctx : Context}

/-- The posted row with the given key and type, when there is a key. -/
def findPostedOfType (s : CreditState ctx) (key : Option String) (txnType : TxnType) :
    Option CreditTransaction :=
  match key with
  | none => none
  | some k => s.transactions.first? fun t =>
      t.idempotencyKey = some k && t.transactionType = txnType && t.status = .posted

/-- `issue_credits_to_pool(...)`. -/
def issueCreditsToPool (env : CallEnv) (s : CreditState ctx) (amount : Int) (reason : String)
    (initiatedBy reviewedBy : Nat) (idempotencyKey : Option String) :
    Except Error (CreditState ctx × CreditTransaction) := do
  let poolAccount ← pool s .issuancePool
  postCreditTransaction env s {
    transactionType := TxnType.issuance.value
    amount := amount
    targetAccount := some poolAccount.accountId
    reason := reason
    initiatedBy := some initiatedBy
    reviewedBy := some reviewedBy
    idempotencyKey := idempotencyKey }

/-- `lock_task_credit_budget(...)`. -/
def lockTaskCreditBudget (env : CallEnv) (s : CreditState ctx) (task : String) (amount : Int)
    (reason : String) (initiatedBy : Option Nat) (idempotencyKey : Option String) :
    Except Error (CreditState ctx × CreditTransaction) := do
  let dedupeKey := normaliseIdemKey idempotencyKey
  match findPool s .issuancePool, findPool s .taskLocked with
  | some poolAccount, some taskLocked =>
    match findPostedOfType s dedupeKey .lock with
    | some existing => do
      assertIdempotentMatch [
        ("transaction_type", existing.transactionType = .lock),
        ("amount", existing.amount = amount),
        ("source_account_id", existing.sourceAccount = some poolAccount.accountId),
        ("target_account_id", existing.targetAccount = some taskLocked.accountId),
        ("related_task_id", existing.relatedTask = some task)]
      return (s, existing)
    | none => do
      let balance := creditBalance s poolAccount.accountId
      rejectIf (balance < amount) (.domain ("发行池余额不足（当前 " ++ toString balance ++
        "，需要锁定 " ++ toString amount ++ "）。"))
      postCreditTransaction env s {
        transactionType := TxnType.lock.value
        amount := amount
        sourceAccount := some poolAccount.accountId
        targetAccount := some taskLocked.accountId
        relatedTask := some task
        reason := reason
        initiatedBy := initiatedBy
        idempotencyKey := dedupeKey }
  | _, _ => .error (.domain "任务预算系统账户不存在，请先调用 ensure_system_accounts()。")

/-- `unlock_unused_task_credit_budget(...)`. -/
def unlockUnusedTaskCreditBudget (env : CallEnv) (s : CreditState ctx) (task : String)
    (amount : Int) (reason : String) (initiatedBy : Option Nat) (idempotencyKey : Option String) :
    Except Error (CreditState ctx × CreditTransaction) := do
  let dedupeKey := normaliseIdemKey idempotencyKey
  let taskLocked ← pool s .taskLocked
  let poolAccount ← pool s .issuancePool
  match findPostedOfType s dedupeKey .unlock with
  | some existing => do
    assertIdempotentMatch [
      ("transaction_type", existing.transactionType = .unlock),
      ("amount", existing.amount = amount),
      ("source_account_id", existing.sourceAccount = some taskLocked.accountId),
      ("target_account_id", existing.targetAccount = some poolAccount.accountId),
      ("related_task_id", existing.relatedTask = some task)]
    return (s, existing)
  | none => do
    let remaining ← taskLockedCreditBalance s task
    rejectIf (amount ≤ 0 ∨ amount > remaining) (.domain ("退回金额 " ++ toString amount ++
      " 超过该任务剩余锁定预算 " ++ toString remaining ++ "。"))
    postCreditTransaction env s {
      transactionType := TxnType.unlock.value
      amount := amount
      sourceAccount := some taskLocked.accountId
      targetAccount := some poolAccount.accountId
      relatedTask := some task
      reason := reason
      initiatedBy := initiatedBy
      idempotencyKey := dedupeKey }

/-- `text or default`. -/
def orDefault (text default : String) : String := if text = "" then default else text

/-- `transfer_member_credits(...)`. -/
def transferMemberCredits (env : CallEnv) (s : CreditState ctx) (fromMember toMember : Nat)
    (amount : Int) (reason : String) (initiatedBy : Option Nat) (idempotencyKey : Option String) :
    Except Error (CreditState ctx × CreditTransaction) := do
  rejectIf (amount ≤ 0) (.domain "转账积分数量必须为正数。")
  rejectIf (fromMember = toMember) (.domain "不能向自己转账。")
  let (s, fromAccount) ← getOrCreateMemberCreditAccount s fromMember
  let (s, toAccount) ← getOrCreateMemberCreditAccount s toMember
  match findPostedOfType s (normaliseIdemKey idempotencyKey) .transfer with
  | some existing => do
    assertIdempotentMatch [
      ("transaction_type", existing.transactionType = .transfer),
      ("amount", existing.amount = amount),
      ("source_account_id", existing.sourceAccount = some fromAccount.accountId),
      ("target_account_id", existing.targetAccount = some toAccount.accountId)]
    return (s, existing)
  | none => do
    let current := creditBalance s fromAccount.accountId
    rejectIf (current ≤ 0) (.domain "当前余额小于等于 0，不能主动转出积分。")
    rejectIf (current - amount < 0) (.domain "余额不足以完成该主动转账。")
    postCreditTransaction env s {
      transactionType := TxnType.transfer.value
      sourceAccount := some fromAccount.accountId
      targetAccount := some toAccount.accountId
      amount := amount
      reason := orDefault reason "自由转账"
      initiatedBy := some (initiatedBy.getD fromMember)
      idempotencyKey := idempotencyKey }

/-- `passive_deduct_member_credits(...)`. -/
def passiveDeductMemberCredits (env : CallEnv) (s : CreditState ctx) (member : Nat) (amount : Int)
    (reason : String) (initiatedBy : Option Nat) (idempotencyKey : Option String) :
    Except Error (CreditState ctx × CreditTransaction) := do
  rejectIf (amount ≤ 0) (.domain "扣减积分数量必须为正数。")
  let (s, memberAccount) ← getOrCreateMemberCreditAccount s member
  let burnAccount ← pool s .burn
  postCreditTransaction env s {
    transactionType := TxnType.correction.value
    sourceAccount := some memberAccount.accountId
    targetAccount := some burnAccount.accountId
    amount := amount
    reason := reason
    initiatedBy := initiatedBy
    idempotencyKey := idempotencyKey }

/-- The update of the `reverses_transaction` link of one row. -/
def linkReversal (s : CreditState ctx) (reversal original : String) : CreditState ctx :=
  let transactions := s.transactions.modify reversal
    (fun t => { t with reversesTransaction := some original }) (fun _ => rfl) (fun _ => rfl)
  { s with transactions := transactions }

/-- `reverse_credit_transaction(...)`; the original by its id. -/
def reverseCreditTransaction (env : CallEnv) (s : CreditState ctx) (originalId : String)
    (reason : String) (initiatedBy : Option Nat) (idempotencyKey : Option String) :
    Except Error (CreditState ctx × CreditTransaction) := do
  match s.transactions.get? originalId with
  | none => .error (.doesNotExist "CreditTransaction matching query does not exist.")
  | some original => do
    rejectIf (∃ t ∈ s.transactions.rows, t.reversesTransaction = some original.transactionId ∧
      t.status = .posted) (.domain "该交易已被冲正。")
    let (s, reversal) ← postCreditTransaction env s {
      transactionType := TxnType.reversal.value
      sourceAccount := original.targetAccount
      targetAccount := original.sourceAccount
      amount := original.amount
      reason := reason
      initiatedBy := initiatedBy
      idempotencyKey := idempotencyKey }
    return (linkReversal s reversal.transactionId original.transactionId,
      { reversal with reversesTransaction := some original.transactionId })

/-- The ledger entry a reward refers to. -/
structure LedgerEntryRef where
  ledgerEntryId : String
  relatedEventId : String

def taskRewardKey (entry : LedgerEntryRef) : String := "task-reward:" ++ entry.ledgerEntryId

/-- `(existing.metadata or {}).get(key) is True`. -/
def metadataIsTrue (metadata : Json) (key : String) : Except Error Bool := do
  let v ← dictGet (orEmptyDict metadata.toPy) key (.scalar .none)
  return match v with
    | .scalar (.bool b) => b
    | _ => false

/-- The metadata of a reward drawn from the issuance pool. -/
def genesisMetadata (reviewedBy : Option Nat) (member : Nat) (reason : String)
    (poolBalance : Int) : PyVal :=
  .dict [(.str "genesis_unbudgeted", .scalar (.bool true)),
    (.str "genesis_governance", .scalar (.bool true)),
    (.str "self_review", match reviewedBy with
      | some reviewer => .scalar (.bool (reviewer = member))
      | none => .scalar .none),
    (.str "public_audit_required", .scalar (.bool true)),
    (.str "genesis_reason", .str (orDefault reason "创世期无预算发放")),
    (.str "pool_balance_at_reward", .scalar (.int poolBalance))]

/-- `post_task_reward_credit_transaction(...)`. -/
def postTaskRewardCreditTransaction (env : CallEnv) (s : CreditState ctx) (task : String)
    (member : Nat) (amount : Int) (ledgerEntry : LedgerEntryRef) (reviewedBy : Option Nat)
    (reason : String) (allowUnbudgetedGenesis : Bool) :
    Except Error (CreditState ctx × CreditTransaction) := do
  let (s, memberAccount) ← getOrCreateMemberCreditAccount s member
  let idemKey := taskRewardKey ledgerEntry
  -- the account the reward is drawn from; the pool has to exist on both paths
  let source ← (if allowUnbudgetedGenesis then pool s .issuancePool else pool s .taskLocked)
  let issuancePool ← pool s .issuancePool
  match findPostedOfType s (some idemKey) .taskReward with
  | some existing => do
    assertIdempotentMatch [
      ("transaction_type", existing.transactionType = .taskReward),
      ("amount", existing.amount = amount),
      ("source_account_id", existing.sourceAccount = some source.accountId),
      ("target_account_id", existing.targetAccount = some memberAccount.accountId),
      ("related_task_id", existing.relatedTask = some task),
      ("related_ledger_entry_id", existing.relatedLedgerEntry = some ledgerEntry.ledgerEntryId)]
    let genesis ← (if allowUnbudgetedGenesis then
      metadataIsTrue existing.metadata "genesis_unbudgeted" else .ok true)
    rejectIf (genesis = false)
      (.domain "幂等键已被不同积分交易使用: genesis_unbudgeted metadata mismatch。")
    return (s, existing)
  | none => do
    let metadata ← (if allowUnbudgetedGenesis then
        .ok (genesisMetadata reviewedBy member reason (creditBalance s issuancePool.accountId))
      else do
        let locked ← taskLockedCreditBalance s task
        rejectIf (locked < amount) (.domain ("任务锁定预算不足（当前剩余 " ++ toString locked ++
          "，需要 " ++ toString amount ++ "）；请先从发行池锁定预算。"))
        return .dict [])
    postCreditTransaction env s {
      transactionType := TxnType.taskReward.value
      sourceAccount := some source.accountId
      targetAccount := some memberAccount.accountId
      amount := amount
      relatedTask := some task
      relatedLedgerEntry := some ledgerEntry.ledgerEntryId
      relatedEventId := ledgerEntry.relatedEventId
      reason := orDefault reason "任务验收奖励"
      reviewedBy := reviewedBy
      initiatedBy := reviewedBy
      idempotencyKey := some idemKey
      metadata := metadata }

end LiveOs.Credit
