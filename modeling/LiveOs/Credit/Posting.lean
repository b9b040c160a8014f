import LiveOs.Credit.Model

/-!
# Accounts, balances and the posting core

`core/credit_services.py` up to `post_credit_transaction`, the only function that creates a
transaction row.
-/

namespace LiveOs.Credit

open Lib EventLedger

/-- `_normalise_idem_key(raw)`. -/
def normaliseIdemKey : Option String → Option String
  | none => none
  | some raw => if strip raw = "" then none else some (strip raw)

/-- `_assert_idempotent_match(existing, **expected)`: the compared fields, each with whether the
row has the expected value. -/
def assertIdempotentMatch (fields : List (String × Bool)) : Except Error Unit :=
  let mismatches := (fields.filter fun f => !f.2).map fun f => f.1 ++ " mismatch"
  rejectIf (mismatches ≠ []) (.domain ("幂等键已被不同积分交易使用: " ++ join "; " mismatches ++ "。"))

/-! ## Accounts -/

def systemAccountId (accountType : AccountType) : String := "acct-sys-" ++ accountType.value

def memberAccountId (ctx : Context) (member : Nat) : String :=
  "acct-member-" ++ ctx.memberNo member

variable {ctx : Context}

/-- One round of the loop of `ensure_system_accounts`. -/
def ensureSystemAccount (s : CreditState ctx) (accountType : AccountType) :
    Except Error (CreditState ctx) := do
  let (accounts, _) ← s.accounts.getOrCreate
    (fun a => decide (a.accountType = accountType ∧ a.member = none))
    ⟨systemAccountId accountType, accountType, none⟩ .multipleObjects .integrity
  return { s with accounts := accounts }

/-- `ensure_system_accounts()`: every account type but `MEMBER`, in the order of the choices. -/
def ensureSystemAccounts (s : CreditState ctx) : Except Error (CreditState ctx) := do
  let s ← ensureSystemAccount s .issuancePool
  let s ← ensureSystemAccount s .taskLocked
  let s ← ensureSystemAccount s .frozen
  ensureSystemAccount s .burn

/-- `get_or_create_member_credit_account(member)`. -/
def getOrCreateMemberCreditAccount (s : CreditState ctx) (member : Nat) :
    Except Error (CreditState ctx × CreditAccount) := do
  let (accounts, account, _) ← s.accounts.getOrCreate
    (fun a => decide (a.accountType = .member ∧ a.member = some member))
    ⟨memberAccountId ctx member, .member, some member⟩ .multipleObjects .integrity
  return ({ s with accounts := accounts }, account)

/-- `CreditAccount.objects.filter(account_type=name).first()`. -/
def findPool (s : CreditState ctx) (name : AccountType) : Option CreditAccount :=
  s.accounts.first? fun a => a.accountType = name

/-- `_pool(name)`. -/
def pool (s : CreditState ctx) (name : AccountType) : Except Error CreditAccount :=
  match findPool s name with
  | some account => .ok account
  | none => .error (.domain ("系统账户 " ++ name.value ++
      " 不存在，请先调用 ensure_system_accounts()。"))

/-! ## Balances -/

/-- `_credit_balance_for_qs`: the sum over the posted rows that meet the test. -/
def postedSum (s : CreditState ctx) (p : CreditTransaction → Bool) : Int :=
  sumWhere CreditTransaction.amount (fun t => p t && t.status = .posted) s.transactions.rows

/-- `credit_balance(account)`. -/
def creditBalance (s : CreditState ctx) (accountId : String) : Int :=
  postedSum s (fun t => t.targetAccount = some accountId) -
    postedSum s (fun t => t.sourceAccount = some accountId)

/-- `task_locked_credit_balance(task)` on the `TASK_LOCKED` account. -/
def taskLockedSum (s : CreditState ctx) (taskLocked task : String) : Int :=
  let lockedIn := postedSum s fun t => t.transactionType = .lock &&
    t.targetAccount = some taskLocked && t.relatedTask = some task
  let rewardsOut := postedSum s fun t => t.transactionType = .taskReward &&
    t.sourceAccount = some taskLocked && t.relatedTask = some task
  let unlocksOut := postedSum s fun t => t.transactionType = .unlock &&
    t.sourceAccount = some taskLocked && t.relatedTask = some task
  lockedIn - rewardsOut - unlocksOut

/-- `task_locked_credit_balance(task)`. -/
def taskLockedCreditBalance (s : CreditState ctx) (task : String) : Except Error Int := do
  let taskLocked ← pool s .taskLocked
  return taskLockedSum s taskLocked.accountId task

/-! ## `post_credit_transaction` -/

/-- The arguments of `post_credit_transaction`; accounts by their ids. -/
structure PostArgs where
  transactionType : String
  amount : Int
  sourceAccount : Option String := none
  targetAccount : Option String := none
  idempotencyKey : Option String := none
  relatedTask : Option String := none
  relatedLedgerEntry : Option String := none
  relatedEventId : String := ""
  initiatedBy : Option Nat := none
  reviewedBy : Option Nat := none
  reason : String := ""
  metadata : PyVal := .scalar .none
  prevHash : String := ""
  transactionHash : String := ""
  createdAt : Option Nat := none

/-- `_emit_credit_event(txn)`. -/
def creditEventRequest (txn : CreditTransaction) : AppendRequest where
  eventType := "credit_adjusted"
  aggregateType := "CreditTransaction"
  aggregateId := txn.transactionId
  payloadJson := publicEventPayload "credit_transaction" "credit-ledger:posted" "积分账本记录"
    txn.transactionType.value "posted" txn.transactionType.label
    [("txn_type", .str txn.transactionType.value)]
    [commitment "amount" true "单笔积分金额不在公开摘要中展示",
      commitment "reason" (txn.reason != "") "交易原因",
      commitment "metadata" txn.metadata.toPy.truthy "元数据",
      commitment "idempotency_key" ((txn.idempotencyKey.getD "") != "") "幂等键"]
  occurredAt := some txn.createdAt
  now := txn.createdAt

/-- The posted row with the given key, when there is a key. -/
def findPosted (s : CreditState ctx) (key : Option String) : Option CreditTransaction :=
  match key with
  | none => none
  | some k => s.transactions.first? fun t => t.idempotencyKey = some k && t.status = .posted

/-- The fields compared when a key is used again. -/
def matchFields (existing : CreditTransaction) (txnType : TxnType) (args : PostArgs) :
    List (String × Bool) := [
  ("transaction_type", existing.transactionType = txnType),
  ("amount", existing.amount = args.amount),
  ("source_account_id", existing.sourceAccount = args.sourceAccount),
  ("target_account_id", existing.targetAccount = args.targetAccount),
  ("related_task_id", existing.relatedTask = args.relatedTask),
  ("related_ledger_entry_id", existing.relatedLedgerEntry = args.relatedLedgerEntry)]

/-- The row `post_credit_transaction` creates. -/
def newTransaction (env : CallEnv) (args : PostArgs) (txnType : TxnType) (metadata : Json) :
    CreditTransaction where
  transactionId := newId "ct" env.txnUuid
  transactionType := txnType
  sourceAccount := args.sourceAccount
  targetAccount := args.targetAccount
  amount := args.amount
  relatedTask := args.relatedTask
  relatedLedgerEntry := args.relatedLedgerEntry
  relatedEventId := args.relatedEventId
  initiatedBy := args.initiatedBy
  reviewedBy := args.reviewedBy
  reason := args.reason
  metadata := metadata
  idempotencyKey := normaliseIdemKey args.idempotencyKey
  reversesTransaction := none
  status := .posted
  prevHash := args.prevHash
  transactionHash := args.transactionHash
  createdAt := args.createdAt.getD env.now

/-- The row and its event inside the savepoint. -/
def createTransaction (s : CreditState ctx) (txn : CreditTransaction) :
    Except Error (CreditState ctx) := do
  let transactions ← s.transactions.insert txn .integrity
  let events ← s.events.append (creditEventRequest txn)
  return { s with transactions := transactions, events := events }

/-- `post_credit_transaction(...)`. -/
def postCreditTransaction (env : CallEnv) (s : CreditState ctx) (args : PostArgs) :
    Except Error (CreditState ctx × CreditTransaction) := do
  rejectIf (args.amount ≤ 0) (.domain "积分数量必须为正数。")
  match TxnType.ofValue? args.transactionType with
  | none => .error (.domain ("无效的交易类型: " ++ args.transactionType ++ "。"))
  | some txnType =>
    let dedupeKey := normaliseIdemKey args.idempotencyKey
    match findPosted s dedupeKey with
    | some existing => do
      assertIdempotentMatch (matchFields existing txnType args)
      return (s, existing)
    | none =>
      match jsonStore (orEmptyDict args.metadata) with
      | none => .error .type
      | some metadata =>
        let txn := newTransaction env args txnType metadata
        match createTransaction s txn with
        | .ok s' => .ok (s', txn)
        | .error .integrity =>
          match findPosted s dedupeKey with
          | some existing => do
            assertIdempotentMatch (matchFields existing txnType args)
            return (s, existing)
          | none => .error (.domain "积分交易并发冲突，请重试。")
        | .error e => .error e

end LiveOs.Credit
