import LiveOs.Credit.Services

/-!
# Redemption orders

`create_redemption_order`, `cancel_redemption_order`, `fulfill_redemption_order` and
`report_redemption_order_issue` of `core/credit_services.py`.
-/

namespace LiveOs.Credit

open Lib EventLedger

variable {ctx : Context}

/-- The arguments of `create_redemption_order`. -/
structure CreateOrderArgs where
  member : Nat
  creditAmount : Int
  itemType : String := "other"
  title : String := ""
  reason : String := ""
  relatedTask : Option String := none
  resourceId : String := ""
  itemSnapshot : PyVal := .scalar .none
  financeTreatmentRef : String := ""
  merchant : Option MerchantProfile := none
  idempotencyKey : Option String := none
  createdBy : Option Nat := none

/-- The checks on the merchant before anything is read. -/
def checkMerchant : Option MerchantProfile → Except Error Unit
  | none => .ok ()
  | some merchant => do
    rejectIf (merchant.merchantType = .memberMicro) (.domain
      "成员微创业商户收款应使用自由转账 (POST /members/.../credit-transfers)，不走兑换订单。")
    rejectIf (merchant.status ≠ .active) (.domain "指定商户当前非营业中状态，无法创建兑换订单。")
    rejectIf (merchant.merchantType ≠ .cashSettlement) (.domain "仅现金结算商户支持兑换订单。")

/-- The settlement rate a cash merchant has to have. -/
def checkSettlementRate : Option MerchantProfile → Except Error Unit
  | none => .ok ()
  | some merchant =>
    rejectIf (merchant.merchantType = .cashSettlement ∧ merchant.settlementRate = none)
      (.domain "现金结算商户未设置 settlement_rate，无法创建兑换订单。")

/-- `raise DomainError(f"幂等键已被不同兑换订单使用: {field} mismatch。")` unless the field agrees. -/
def requireSameOrderField (field : String) (same : Bool) : Except Error Unit :=
  rejectIf (same = false) (.domain ("幂等键已被不同兑换订单使用: " ++ field ++ " mismatch。"))

/-- `(existing_txn.metadata or {}).get("order_id", "")` where it is set, as a key. -/
def metadataOrderId (rt : Runtime) (metadata : Json) : Except Error (Option String) := do
  let v ← dictGet (orEmptyDict metadata.toPy) "order_id" (.str "")
  return if v.truthy then some (rt.str v) else none

/-- The comparison of a retried call with the order it created. -/
def assertSameOrder (s : CreditState ctx) (args : CreateOrderArgs) (itemType : ItemType)
    (order : RedemptionOrder) (existing : CreditTransaction) :
    Except Error (CreditState ctx) := do
  let (s, memberAccount) ← getOrCreateMemberCreditAccount s args.member
  let frozen ← pool s .frozen
  assertIdempotentMatch [
    ("transaction_type", existing.transactionType = .consume),
    ("amount", existing.amount = args.creditAmount),
    ("source_account_id", existing.sourceAccount = some memberAccount.accountId),
    ("target_account_id", existing.targetAccount = some frozen.accountId)]
  requireSameOrderField "member" (order.member = args.member)
  requireSameOrderField "credit_amount" (order.creditAmount = args.creditAmount)
  requireSameOrderField "item_type" (order.itemType = itemType)
  requireSameOrderField "related_task" (order.relatedTask = args.relatedTask)
  requireSameOrderField "resource_id" (order.resourceId = args.resourceId)
  requireSameOrderField "item_snapshot" (order.itemSnapshot.toPy.pyEq (orEmptyDict args.itemSnapshot))
  requireSameOrderField "finance_treatment_ref" (order.financeTreatmentRef = args.financeTreatmentRef)
  requireSameOrderField "merchant" (args.merchant.map MerchantProfile.merchantId = order.merchant)
  return s

/-- The id of a new order: derived from the key, or random. -/
def newOrderId (rt : Runtime) (env : CallEnv) : Option String → String
  | some key => "ro-" ++ String.ofList ((rt.sha256 key).toList.take 32)
  | none => newId "ro" env.orderUuid

/-- The row `create_redemption_order` creates. -/
def newOrder (env : CallEnv) (args : CreateOrderArgs) (itemType : ItemType) (orderId : String)
    (itemSnapshot : Json) : RedemptionOrder where
  orderId := orderId
  member := args.member
  status := .pending
  itemType := itemType
  title := orDefault args.title ("兑换 " ++ toString args.creditAmount ++ " 积分")
  creditAmount := args.creditAmount
  merchant := args.merchant.map MerchantProfile.merchantId
  relatedTask := args.relatedTask
  reason := args.reason
  metadata := []
  resourceId := args.resourceId
  itemSnapshot := itemSnapshot
  financeTreatmentRef := args.financeTreatmentRef
  createdBy := args.createdBy.getD args.member
  reviewedBy := none
  createdAt := env.now
  updatedAt := env.now
  fulfilledAt := none
  cancelledAt := none

/-- `RedemptionOrder.objects.get_or_create(order_id=..., defaults=...)` and the check of the
member of an order that was there. -/
def getOrCreateOrder (env : CallEnv) (s : CreditState ctx) (args : CreateOrderArgs)
    (itemType : ItemType) (orderId : String) :
    Except Error (CreditState ctx × RedemptionOrder) :=
  match s.orders.get? orderId with
  | some order => do
    rejectIf (order.member ≠ args.member) (.domain "幂等键已被不同成员的订单使用。")
    return (s, order)
  | none =>
    match jsonStore (orEmptyDict args.itemSnapshot) with
    | none => .error .type
    | some itemSnapshot => do
      let order := newOrder env args itemType orderId itemSnapshot
      let orders ← s.orders.insert order .integrity
      return ({ s with orders := orders }, order)

/-- The order and the row a used key leads to. -/
def findCreatedOrder (s : CreditState ctx) (dedupeKey : Option String) :
    Except Error (Option (RedemptionOrder × CreditTransaction)) :=
  match findPostedOfType s dedupeKey .consume with
  | none => .ok none
  | some existing => do
    let orderId ← metadataOrderId ctx.rt existing.metadata
    return (orderId.bind s.orders.get?).map fun order => (order, existing)

/-- The part of `create_redemption_order` after the retry check. -/
def freezeForNewOrder (env : CallEnv) (s : CreditState ctx) (args : CreateOrderArgs)
    (itemType : ItemType) : Except Error (CreditState ctx × RedemptionOrder × CreditTransaction) := do
  checkSettlementRate args.merchant
  let (s, memberAccount) ← getOrCreateMemberCreditAccount s args.member
  let current := creditBalance s memberAccount.accountId
  rejectIf (current ≤ 0) (.domain "当前余额小于等于 0，不能发起兑换。")
  rejectIf (current < args.creditAmount) (.domain ("余额不足（当前 " ++ toString current ++
    "，需要 " ++ toString args.creditAmount ++ "）。"))
  let dedupeKey := normaliseIdemKey args.idempotencyKey
  let orderId := newOrderId ctx.rt env dedupeKey
  let frozen ← pool s .frozen
  let (s, order) ← getOrCreateOrder env s args itemType orderId
  let (s, txn) ← postCreditTransaction env s {
    transactionType := TxnType.consume.value
    amount := args.creditAmount
    sourceAccount := some memberAccount.accountId
    targetAccount := some frozen.accountId
    reason := orDefault args.reason ("兑换订单 " ++ orderId)
    initiatedBy := some (args.createdBy.getD args.member)
    idempotencyKey := some (dedupeKey.getD ("redemption-freeze:" ++ orderId))
    metadata := .dict [(.str "order_id", .str orderId), (.str "item_type", .str itemType.value)] }
  return (s, order, txn)

/-- `create_redemption_order(...)`. -/
def createRedemptionOrder (env : CallEnv) (s : CreditState ctx) (args : CreateOrderArgs) :
    Except Error (CreditState ctx × RedemptionOrder × CreditTransaction) := do
  rejectIf (args.creditAmount ≤ 0) (.domain "兑换积分数量必须为正数。")
  match ItemType.ofValue? args.itemType with
  | none => .error (.domain ("无效的兑换项目类型: " ++ args.itemType ++ "。"))
  | some itemType => do
    checkMerchant args.merchant
    match ← findCreatedOrder s (normaliseIdemKey args.idempotencyKey) with
    | some (order, existing) => do
      let s ← assertSameOrder s args itemType order existing
      return (s, order, existing)
    | none => freezeForNewOrder env s args itemType

/-! ## Cancelling and fulfilling -/

/-- `RedemptionOrder.objects.select_for_update().get(pk=order.pk)`. -/
def getOrder (s : CreditState ctx) (orderId : String) : Except Error RedemptionOrder :=
  match s.orders.get? orderId with
  | some order => .ok order
  | none => .error (.doesNotExist "RedemptionOrder matching query does not exist.")

/-- `order.save(update_fields=[...])`. -/
def updateOrder (s : CreditState ctx) (orderId : String) (f : RedemptionOrder → RedemptionOrder)
    (hf : ∀ o, (f o).orderId = o.orderId) : CreditState ctx :=
  { s with orders := s.orders.modify orderId f hf (fun _ => rfl) }

/-- `{**metadata, key: text}`. -/
def setText (metadata : List (String × Json)) (key text : String) : List (String × Json) :=
  Json.upsert metadata (key, .str text)

def cancelFields (env : CallEnv) (reason : String) (o : RedemptionOrder) : RedemptionOrder :=
  { o with status := .cancelled, cancelledAt := some env.now, updatedAt := env.now,
           metadata := setText o.metadata "cancel_reason" reason }

/-- The key of the transaction that closes an order. -/
def closingKey (kind orderId : String) (idempotencyKey : Option String) : String :=
  (normaliseIdemKey idempotencyKey).getD (kind ++ orderId)

/-- `cancel_redemption_order(...)`. -/
def cancelRedemptionOrder (env : CallEnv) (s : CreditState ctx) (orderId : String)
    (reason : String) (cancelledBy : Option Nat) (idempotencyKey : Option String) :
    Except Error (CreditState ctx × RedemptionOrder) := do
  let order ← getOrder s orderId
  match order.status with
  | .cancelled => return (s, order)
  | .fulfilled => .error (.domain "已履约订单不能取消。")
  | .reversed => .error (.domain "已冲正订单不能取消。")
  | .pending | .disputed => do
    let (s, memberAccount) ← getOrCreateMemberCreditAccount s order.member
    let frozen ← pool s .frozen
    let (s, _) ← postCreditTransaction env s {
      transactionType := TxnType.unfreeze.value
      amount := order.creditAmount
      sourceAccount := some frozen.accountId
      targetAccount := some memberAccount.accountId
      reason := orDefault reason ("取消订单 " ++ order.orderId)
      initiatedBy := some (cancelledBy.getD order.member)
      idempotencyKey := some (closingKey "redemption-unfreeze:" order.orderId idempotencyKey)
      metadata := .dict [(.str "order_id", .str order.orderId), (.str "action", .str "cancel")] }
    return (updateOrder s order.orderId (cancelFields env reason) (fun _ => rfl),
      cancelFields env reason order)

def fulfillFields (env : CallEnv) (reviewedBy : Option Nat) (o : RedemptionOrder) :
    RedemptionOrder :=
  { o with status := .fulfilled, fulfilledAt := some env.now, reviewedBy := reviewedBy,
           updatedAt := env.now }

/-- `Decimal.quantize(Decimal("0.01"), rounding=ROUND_HALF_UP)`. -/
def quantizeCents (q : Rat) : Rat :=
  let cents : Int := ((if q < 0 then -q else q) * 100 + 1 / 2).floor
  if q < 0 then -(cents / 100 : Rat) else (cents / 100 : Rat)

/-- `_generate_settlement_record(order)`. -/
def generateSettlementRecord (env : CallEnv) (s : CreditState ctx) (order : RedemptionOrder) :
    Except Error (CreditState ctx) :=
  match order.merchant with
  | none => .ok s
  | some merchantId =>
    let merchant := env.merchants merchantId
    if merchant.merchantType ≠ .cashSettlement then .ok s
    else match merchant.settlementRate with
      | none => .error (.domain "现金结算商户未设置 settlement_rate，履约失败。")
      | some rate => do
        let (settlements, _) ← s.settlements.getOrCreate
          (fun r => decide (r.redemptionOrder = order.orderId))
          { settlementId := "ms-" ++ order.orderId
            merchant := merchantId
            redemptionOrder := order.orderId
            coveredCreditAmount := order.creditAmount
            settlementRate := rate
            payableRmb := quantizeCents (order.creditAmount * rate)
            reason := "兑换履约：" ++ order.orderId
            createdAt := env.now } .multipleObjects .integrity
        return { s with settlements := settlements }

/-- `fulfill_redemption_order(...)`. -/
def fulfillRedemptionOrder (env : CallEnv) (s : CreditState ctx) (orderId : String)
    (reason : String) (reviewedBy : Option Nat) (idempotencyKey : Option String) :
    Except Error (CreditState ctx × RedemptionOrder) := do
  let order ← getOrder s orderId
  match order.status with
  | .fulfilled => return (s, order)
  | .cancelled => .error (.domain "已取消订单不能履约。")
  | .reversed => .error (.domain "已冲正订单不能履约。")
  | .pending | .disputed => do
    let frozen ← pool s .frozen
    let burnAccount ← pool s .burn
    let (s, _) ← postCreditTransaction env s {
      transactionType := TxnType.burn.value
      amount := order.creditAmount
      sourceAccount := some frozen.accountId
      targetAccount := some burnAccount.accountId
      reason := orDefault reason ("履约销毁订单 " ++ order.orderId)
      initiatedBy := some (reviewedBy.getD order.member)
      idempotencyKey := some (closingKey "redemption-burn:" order.orderId idempotencyKey)
      metadata := .dict [(.str "order_id", .str order.orderId), (.str "action", .str "fulfill")] }
    let order' := fulfillFields env reviewedBy order
    let s ← generateSettlementRecord env
      (updateOrder s order.orderId (fulfillFields env reviewedBy) (fun _ => rfl)) order'
    return (s, order')

def issueFields (env : CallEnv) (reason : String) (o : RedemptionOrder) : RedemptionOrder :=
  { o with status := .disputed, updatedAt := env.now,
           metadata := setText o.metadata "issue_reason" reason }

/-- `report_redemption_order_issue(...)`. -/
def reportRedemptionOrderIssue (env : CallEnv) (s : CreditState ctx) (orderId : String)
    (reason : String) : Except Error (CreditState ctx × RedemptionOrder) := do
  let order ← getOrder s orderId
  match order.status with
  | .fulfilled => .error (.domain "已履约订单不能争议。")
  | .cancelled => .error (.domain "已取消订单不能争议。")
  | .reversed => .error (.domain "已冲正订单不能争议。")
  | .disputed => return (s, order)
  | .pending =>
    return (updateOrder s order.orderId (issueFields env reason) (fun _ => rfl),
      issueFields env reason order)

/-! ## Calls and runs of the credit services

One call of any of the services, as a step on the credit state. -/

/-- A call of a credit service with its arguments. -/
inductive CreditCall where
  | issue (amount : Int) (reason : String) (initiatedBy reviewedBy : Nat) (key : Option String)
  | lock (task : String) (amount : Int) (reason : String) (initiatedBy : Option Nat)
    (key : Option String)
  | unlock (task : String) (amount : Int) (reason : String) (initiatedBy : Option Nat)
    (key : Option String)
  | transfer (fromMember toMember : Nat) (amount : Int) (reason : String)
    (initiatedBy : Option Nat) (key : Option String)
  | deduct (member : Nat) (amount : Int) (reason : String) (initiatedBy : Option Nat)
    (key : Option String)
  | reverse (original : String) (reason : String) (initiatedBy : Option Nat)
    (key : Option String)
  | reward (task : String) (member : Nat) (amount : Int) (ledgerEntry : LedgerEntryRef)
    (reviewedBy : Option Nat) (reason : String) (allowUnbudgetedGenesis : Bool)
  | createOrder (args : CreateOrderArgs)
  | cancelOrder (order : String) (reason : String) (cancelledBy : Option Nat)
    (key : Option String)
  | fulfillOrder (order : String) (reason : String) (reviewedBy : Option Nat)
    (key : Option String)
  | reportIssue (order : String) (reason : String)
  | post (args : PostArgs)

/-- What a service returns: a transaction, an order, or both. -/
structure CallResult where
  transaction : Option CreditTransaction
  order : Option RedemptionOrder


/-- The service of a call. -/
def runCall (env : CallEnv) (s : CreditState ctx) : CreditCall →
    Except Error (CreditState ctx × CallResult)
  | .issue amount reason initiatedBy reviewedBy key => do
    let (s, txn) ← issueCreditsToPool env s amount reason initiatedBy reviewedBy key
    return (s, ⟨some txn, none⟩)
  | .lock task amount reason initiatedBy key => do
    let (s, txn) ← lockTaskCreditBudget env s task amount reason initiatedBy key
    return (s, ⟨some txn, none⟩)
  | .unlock task amount reason initiatedBy key => do
    let (s, txn) ← unlockUnusedTaskCreditBudget env s task amount reason initiatedBy key
    return (s, ⟨some txn, none⟩)
  | .transfer fromMember toMember amount reason initiatedBy key => do
    let (s, txn) ← transferMemberCredits env s fromMember toMember amount reason initiatedBy key
    return (s, ⟨some txn, none⟩)
  | .deduct member amount reason initiatedBy key => do
    let (s, txn) ← passiveDeductMemberCredits env s member amount reason initiatedBy key
    return (s, ⟨some txn, none⟩)
  | .reverse original reason initiatedBy key => do
    let (s, txn) ← reverseCreditTransaction env s original reason initiatedBy key
    return (s, ⟨some txn, none⟩)
  | .reward task member amount ledgerEntry reviewedBy reason allowUnbudgetedGenesis => do
    let (s, txn) ← postTaskRewardCreditTransaction env s task member amount ledgerEntry reviewedBy
      reason allowUnbudgetedGenesis
    return (s, ⟨some txn, none⟩)
  | .createOrder args => do
    let (s, order, txn) ← createRedemptionOrder env s args
    return (s, ⟨some txn, some order⟩)
  | .cancelOrder order reason cancelledBy key => do
    let (s, order) ← cancelRedemptionOrder env s order reason cancelledBy key
    return (s, ⟨none, some order⟩)
  | .fulfillOrder order reason reviewedBy key => do
    let (s, order) ← fulfillRedemptionOrder env s order reason reviewedBy key
    return (s, ⟨none, some order⟩)
  | .reportIssue order reason => do
    let (s, order) ← reportRedemptionOrderIssue env s order reason
    return (s, ⟨none, some order⟩)
  | .post args => do
    let (s, txn) ← postCreditTransaction env s args
    return (s, ⟨some txn, none⟩)

/-- A call in its surroundings, as a step of the credit state. -/
def creditStep (s : CreditState ctx) (c : CallEnv × CreditCall) : Except Error (CreditState ctx) := do
  let (s, _) ← runCall c.1 s c.2
  return s

/-- The state after `ensure_system_accounts()` on a fresh database. -/
def initialState (ctx : Context) : CreditState ctx :=
  match ensureSystemAccounts (CreditState.fresh ctx) with
  | .ok s => s
  | .error _ => CreditState.fresh ctx

/-- The state after a list of calls. -/
def creditRun (ctx : Context) (cs : List (CallEnv × CreditCall)) : CreditState ctx :=
  runCalls creditStep (initialState ctx) cs

/-- A number written with strokes. -/
def strokes (n : Nat) : String := String.ofList (List.replicate n '|')

/-- A context to evaluate runs in. -/
def strokeContext : Context where
  rt := textRuntime
  memberNo := strokes
  memberNo_injective := by
    intro m n h
    simpa using congrArg List.length (String.ofList_inj.1 h)

/-- The surroundings of the `n`-th call of a run to evaluate. -/
def strokeEnv (n : Nat) : CallEnv where
  now := n
  txnUuid := strokes n
  orderUuid := strokes n
  merchants := fun merchantId => ⟨merchantId, .cashSettlement, .active, none⟩

end LiveOs.Credit
