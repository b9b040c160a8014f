import LiveOs.Procurement.Model
import LiveOs.Proposals.Slots

/-!
# Offers, their acceptance and their delivery

The services of `core/procurement_services.py`, the rejection and the execution of proposals in
`core/proposal_services.py` that call them, and the stock adjustment of `core/resource_services.py`.
A call is one transaction. The objects that a call is handed are rows of the database, so they are
given by their keys.
-/

namespace LiveOs.Procurement

open Lib EventLedger Roles Proposals

variable {rt : Runtime}

/-! ## Shared steps -/

/-- The members and what is known of them. -/
def ProcurementState.directory (s : ProcurementState rt) : Directory := s.proposals.roles.db

/-- `append_event(...)` on the ledger of the state. -/
def appendTo (s : ProcurementState rt) (req : AppendRequest) : Except Error (ProcurementState rt) := do
  let events ← s.proposals.roles.events.append req
  return { s with proposals := { s.proposals with roles := { s.proposals.roles with
    events := events } } }

/-- `append_event(...)` for an offer. -/
def appendOfferEvent (s : ProcurementState rt) (now : Nat) (quote : SupplierQuote)
    (eventType action : String) (actor : Member) (occurredAt : Option Nat) :
    Except Error (ProcurementState rt) := do
  let payload ← supplierOfferPayload s.directory s.resources quote action (some actor.pk)
  appendTo s {
    eventType := eventType
    aggregateType := "SupplierQuote"
    aggregateId := quote.quoteId
    actorMember := some actor.pk
    payloadJson := payload
    occurredAt := occurredAt
    now := now }

/-- `SupplierQuote.objects.select_for_update().get(pk=quote.pk)`. -/
def lockQuote (s : ProcurementState rt) (quoteId : String) : Except Error SupplierQuote :=
  match s.quotes.get? quoteId with
  | none => .error (.doesNotExist "SupplierQuote")
  | some quote => .ok quote

/-- `quote.save(update_fields=[...])`: the row becomes what the object says in the fields that a
service may change. -/
def saveQuote (s : ProcurementState rt) (quote : SupplierQuote) : ProcurementState rt :=
  { s with quotes := s.quotes.modify quote.quoteId (fun q => { q with
      decisionStatus := quote.decisionStatus
      acceptedBy := quote.acceptedBy
      acceptedAt := quote.acceptedAt
      rejectedBy := quote.rejectedBy
      rejectedAt := quote.rejectedAt
      decisionReason := quote.decisionReason
      deliveredAt := quote.deliveredAt
      receivedBy := quote.receivedBy
      receiptStatus := quote.receiptStatus
      receiptNotes := quote.receiptNotes
      paidAt := quote.paidAt
      paymentStatus := quote.paymentStatus
      performanceCredential := quote.performanceCredential }) (fun _ => rfl) fun _ => rfl }

/-! ## Tiers -/

/-- `SMALL_PURCHASE_LIMIT`. -/
def smallPurchaseLimit : PyDecimal := ⟨500, 0⟩

/-- `STANDARD_PURCHASE_LIMIT`. -/
def standardPurchaseLimit : PyDecimal := ⟨5000, 0⟩

/-- `compute_procurement_approval_tier(offer_type, estimated_total_amount)`. -/
def computeProcurementApprovalTier (offerType : OfferType) (estimatedTotalAmount : PyDecimal) :
    QuoteTier :=
  if offerType = .donation ∨ estimatedTotalAmount.coefficient = 0 then .small
  else if estimatedTotalAmount.le smallPurchaseLimit then .small
  else if estimatedTotalAmount.le standardPurchaseLimit then .standard
  else .major

/-- `supplier_quote_tier_to_proposal_tier(quote_tier)`. -/
def supplierQuoteTierToProposalTier : QuoteTier → Tier
  | .small => .single
  | .standard => .standard
  | .major => .major

/-! ## Submission -/

/-- `DAILY_OFFER_LIMIT_PER_RESOURCE`. -/
def dailyOfferLimitPerResource : Nat := 5

/-- The arguments of `submit_resource_offer` that are read again. -/
structure SubmitOfferArgs where
  resource : String
  submittedBy : Member
  offerType : String
  availableQuantity : PyDecimal
  unitPrice : PyDecimal
  currency : String
  qualitySummary : String
  notes : String
  publicVisibility : String

/-- The offers of the member for the resource on the day of the call. -/
def offersToday (env : ProcurementEnv) (s : ProcurementState rt) (resource : String)
    (member : Nat) : Nat :=
  (s.quotes.rows.filter fun q => q.submittedBy = some member && q.resource = resource &&
    env.localDay q.createdAt = env.localDay env.now).length

/-- The checks of `submit_resource_offer`, with the offer type they let through. -/
def submitChecks (env : ProcurementEnv) (s : ProcurementState rt) (resource : Resource)
    (args : SubmitOfferArgs) : Except Error OfferType := do
  rejectIf (!resource.acceptsOffers) (.domain "该资源当前不接受公开报价。")
  rejectIf (dailyOfferLimitPerResource ≤
      offersToday env s resource.resourceId args.submittedBy.pk)
    (.domain "同一资源每天最多提交 5 条报价。")
  rejectIf (args.availableQuantity.coefficient ≤ 0) (.domain "可供数量必须大于 0。")
  match OfferType.ofValue args.offerType with
  | none => .error (.domain "供给类型无效。")
  | some offerType => do
    rejectIf (args.unitPrice.coefficient < 0) (.domain "单价不能为负数。")
    rejectIf (offerType = .donation ∧ args.unitPrice.coefficient ≠ 0)
      (.domain "捐赠单价必须为 0。")
    rejectIf (offerType = .quote ∧ args.publicVisibility ≠ "public")
      (.domain "采购报价必须公开，不支持匿名。")
    return offerType

/-- The object that `submit_resource_offer` creates. -/
def newQuote (env : ProcurementEnv) (args : SubmitOfferArgs) (offerType : OfferType) :
    SupplierQuote where
  quoteId := "quote-" ++ env.quoteUuid
  resource := args.resource
  submittedBy := some args.submittedBy.pk
  offerType := offerType
  unitPrice := args.unitPrice
  currency := args.currency
  availableQuantity := args.availableQuantity
  estimatedTotalAmount := args.availableQuantity.mul args.unitPrice
  approvalTier := computeProcurementApprovalTier offerType
    (args.availableQuantity.mul args.unitPrice)
  paymentStatus := if offerType = .donation then .notRequired else .pending
  notes := args.notes
  createdAt := env.now

/-- The row of an object: its decimals have the scale of their columns. -/
def SupplierQuote.stored (quote : SupplierQuote) : SupplierQuote :=
  { quote with
    unitPrice := quote.unitPrice.quantize 2
    availableQuantity := quote.availableQuantity.quantize 3
    estimatedTotalAmount := quote.estimatedTotalAmount.quantize 2 }

/-- The deduplication key of the acceptance of an offer. -/
def acceptanceKey (quoteId : String) : String := "supplier_quote:" ++ quoteId ++ ":acceptance"

/-- The acceptance proposal of a new offer. -/
def acceptanceArgs (resource : Resource) (args : SubmitOfferArgs) (quote : SupplierQuote) :
    CreateApprovalArgs where
  proposalType := .procurementAcceptance
  title := "采纳" ++ (if quote.offerType = .donation then "捐赠" else "报价") ++ "：" ++
    resource.label
  submittedBy := args.submittedBy
  dedupeKey := acceptanceKey quote.quoteId
  targetType := "supplier_quote"
  targetId := quote.quoteId
  summary := "数量 " ++ args.availableQuantity.text ++ " " ++ resource.unit ++ "，金额 " ++
    quote.estimatedTotalAmount.text ++ " " ++ args.currency
  publicReason := args.qualitySummary
  approvalTier := supplierQuoteTierToProposalTier quote.approvalTier
  metadata := []

/-- `submit_resource_offer(...)`. -/
def submitResourceOffer (env : ProcurementEnv) (s : ProcurementState rt) (args : SubmitOfferArgs) :
    Except Error (ProcurementState rt) := do
  let resource ← related s.resources args.resource "Resource"
  let offerType ← submitChecks env s resource args
  let quote := newQuote env args offerType
  let quotes ← s.quotes.insert quote.stored Error.integrity
  let s ← appendOfferEvent { s with quotes := quotes } env.now quote "supplier_offer_submitted"
    "submitted" args.submittedBy (some quote.createdAt)
  let (proposals, _) ← createApprovalProposal env.proposal s.proposals
    (acceptanceArgs resource args quote)
  return { s with proposals := proposals }

/-! ## The decision on an offer -/

/-- `accept_resource_offer(...)`. -/
def acceptResourceOffer (env : ProcurementEnv) (s : ProcurementState rt) (quoteId : String)
    (acceptedBy : Member) (decisionReason : String) : Except Error (ProcurementState rt) := do
  let quote ← lockQuote s quoteId
  rejectIf (quote.decisionStatus ≠ .submitted) (.domain "只能采纳状态为'已提交'的报价。")
  let quote := { quote with
    decisionStatus := .accepted
    acceptedBy := some acceptedBy.pk
    acceptedAt := some env.now
    decisionReason := decisionReason }
  appendOfferEvent (saveQuote s quote) env.now quote "supplier_offer_accepted" "accepted"
    acceptedBy quote.acceptedAt

/-- `reject_resource_offer(...)`. -/
def rejectResourceOffer (env : ProcurementEnv) (s : ProcurementState rt) (quoteId : String)
    (rejectedBy : Member) (decisionReason : String) : Except Error (ProcurementState rt) := do
  let quote ← lockQuote s quoteId
  rejectIf (quote.decisionStatus ≠ .submitted) (.domain "只能拒绝状态为'已提交'的报价。")
  let quote := { quote with
    decisionStatus := .rejected
    rejectedBy := some rejectedBy.pk
    rejectedAt := some env.now
    decisionReason := decisionReason }
  appendOfferEvent (saveQuote s quote) env.now quote "supplier_offer_rejected" "rejected"
    rejectedBy quote.rejectedAt

/-- `_execute_procurement_acceptance(proposal=..., actor=...)`. -/
def executeProcurementAcceptance (env : ProcurementEnv) (s : ProcurementState rt)
    (p : ApprovalProposal) (actor : Member) : Except Error (ProcurementState rt) := do
  let quote ← lockQuote s p.targetId
  if quote.decisionStatus = .accepted then return s
  else acceptResourceOffer env s quote.quoteId actor p.publicReason

/-! ## Decisions on proposals -/

/-- `append_event(...)` for a proposal, on the whole state. -/
def appendDecisionEvent (s : ProcurementState rt) (now : Nat) (p : ApprovalProposal)
    (eventType action : String) (actor : Member) : Except Error (ProcurementState rt) := do
  let proposals ← appendProposalEvent s.proposals now p eventType action actor
  return { s with proposals := proposals }

/-- The rejection of the offer that a rejected proposal is about, when it exists. -/
def syncRejection (env : ProcurementEnv) (s : ProcurementState rt) (p : ApprovalProposal)
    (rejectedBy : Member) (reason : String) : Except Error (ProcurementState rt) :=
  if p.proposalType = .procurementAcceptance ∧ p.targetType = "supplier_quote" then
    if (s.quotes.get? p.targetId).isNone then .ok s
    else rejectResourceOffer env s p.targetId rejectedBy reason
  else .ok s

/-- `reject_proposal(...)`. -/
def rejectProposal (env : ProcurementEnv) (s : ProcurementState rt) (proposalId : String)
    (rejectedBy : Member) (role reason : String) : Except Error (ProcurementState rt) := do
  let locked ← lockProposal s.proposals proposalId
  slotChecks env.proposal s.proposals locked rejectedBy role "只能拒绝状态为'已提交'的提案。"
    ("该提案不支持 " ++ role ++ " 拒绝。")
  let decisions ← s.proposals.decisions.insert
    (newDecision env.proposal locked.proposalId rejectedBy.pk role .rejected reason) Error.integrity
  let locked := { locked with status := .rejected, resolvedAt := some env.now }
  let proposals := saveProposal { s.proposals with decisions := decisions } locked
  let s ← syncRejection env { s with proposals := proposals } locked rejectedBy reason
  appendDecisionEvent s env.now locked "approval_proposal_rejected" "rejected" rejectedBy

/-- `member_can_administer(actor) or is_finance_reviewer(actor)`. -/
def mayExecute (s : ProcurementState rt) (now : Nat) (actor : Member) : Bool :=
  memberCanAdminister s.directory now actor || isFinanceReviewer s.directory now actor

/-- `execute_proposal(...)`. -/
def executeProposal (env : ProcurementEnv) (s : ProcurementState rt) (proposalId : String)
    (actor : Member) : Except Error (ProcurementState rt) := do
  let locked ← lockProposal s.proposals proposalId
  rejectIf (locked.proposalType = .memberApplication) (.domain proposalFlowUnavailableMessage)
  if locked.status = .executed then do
    rejectIf (!mayExecute s env.now actor) (.domain "你无权执行该提案。")
    return s
  else do
    rejectIf (locked.status ≠ .approved) (.domain "只能执行已通过的提案。")
    rejectIf (!mayExecute s env.now actor) (.domain "你无权执行该提案。")
    let s ← if locked.proposalType = .procurementAcceptance
      then executeProcurementAcceptance env s locked actor else .ok s
    let locked := { locked with status := .executed, executedAt := some env.now }
    let s := { s with proposals := saveProposal s.proposals locked }
    appendDecisionEvent s env.now locked "approval_proposal_executed" "executed" actor

/-! ## Stock -/

/-- `_transaction_type_for_delta(delta)`. -/
def transactionTypeForDelta (delta : PyDecimal) : StockMovement :=
  if 0 < delta.coefficient then .inbound
  else if delta.coefficient < 0 then .outbound
  else .manualAdjustment

/-- `actor_member_from_ref(operator)`. -/
def actorMemberFromRef (db : Directory) (operator : List (String × Json)) : Option Nat :=
  match Json.get? operator "actor_id" with
  | some (.str actorId) =>
    if actorId = "" then none
    else (db.members.rows.find? fun m => m.memberNo = actorId).map Member.pk
  | _ => none

/-- `Resource.ReplenishmentMethod.choices`. -/
def replenishmentMethods : List String :=
  ["purchase", "donation", "production", "reuse", "manual_adjustment"]

/-- `Resource.ResourceType.choices`, with the labels. -/
def resourceTypeLabels : List (String × String) := [
  ("facility", "设施"), ("room", "房间"), ("system", "系统"), ("material", "材料"),
  ("equipment", "设备"), ("grain", "粮食"), ("vegetables", "蔬菜"), ("water", "水"),
  ("electricity", "电"), ("cash", "现金"), ("medicine", "药品"), ("tools", "工具"),
  ("cleaning_supplies", "清洁用品"), ("beds", "床位"), ("warehouse_capacity", "仓库容量")]

/-- `Resource.Unit.choices`, with the labels. -/
def unitLabels : List (String × String) := [
  ("kg", "千克"), ("bag", "袋"), ("liter", "升"), ("kwh", "千瓦时"), ("yuan", "元"),
  ("count", "个"), ("slot", "位"), ("cubic_meter", "立方米")]

/-- `get_FIELD_display()`: the label of a value, or the value itself. -/
def displayOf (labels : List (String × String)) (value : String) : String :=
  ((labels.find? fun e => e.1 = value).map Prod.snd).getD value

/-- The first of five draws whose id is free. -/
def firstFree (head : String) (draws : List String) (taken : String → Bool) (message : String) :
    Except Error String :=
  match ((draws.take 5).map (head ++ ·)).find? fun id => !taken id with
  | some id => .ok id
  | none => .error (.domain message)

/-- `generate_resource_transaction_id()`. -/
def generateResourceTransactionId (env : ProcurementEnv) (s : ProcurementState rt) :
    Except Error String :=
  firstFree "res-tx-" env.transactionDraws (fun id => (s.stock.get? id).isSome)
    "无法生成库存流水 ID，请重试。"

/-- `generate_resource_event_id()`. -/
def generateResourceEventId (env : ProcurementEnv) (s : ProcurementState rt) : Except Error String :=
  firstFree "event-resource-" env.eventDraws (fun id => (s.resourceEvents.get? id).isSome)
    "无法生成资源事件 ID，请重试。"

/-- The arguments of `record_resource_adjustment` besides the resource. -/
structure AdjustArgs where
  delta : PyDecimal
  operator : List (String × Json)
  reason : String
  replenishmentMethod : String
  simulationDay : Int

/-- The resource object after the adjustment. -/
def adjustedResource (env : ProcurementEnv) (args : AdjustArgs) (cleanedReason : String)
    (resource : Resource) : Resource :=
  let newStock := resource.currentStock.add args.delta
  let adjustment : Json := .obj [("source", .str "control_resource_adjustment"),
    ("operator", .obj args.operator), ("reason", .str cleanedReason),
    ("delta", .str args.delta.text), ("old_stock", .str resource.currentStock.text),
    ("new_stock", .str newStock.text), ("recorded_at", .str (isoFormat env.now))]
  { resource with
    currentStock := newStock
    replenishmentMethod := args.replenishmentMethod
    metadata := setEntry resource.metadata "last_adjustment" adjustment }

/-- `resource.save(update_fields=[...])`; the column of the stock has three decimals. -/
def saveResource (resources : ResourceTable) (resource : Resource) : ResourceTable :=
  resources.modify resource.resourceId (fun r => { r with
    currentStock := resource.currentStock.quantize 3
    replenishmentMethod := resource.replenishmentMethod
    metadata := resource.metadata }) (fun _ => rfl) fun _ => rfl

/-- The transaction object of an adjustment. -/
def adjustmentTransaction (env : ProcurementEnv) (args : AdjustArgs) (cleanedReason : String)
    (resource : Resource) (transactionId : String) : ResourceTransaction where
  transactionId := transactionId
  resource := resource.resourceId
  transactionType := transactionTypeForDelta args.delta
  quantityDelta := args.delta
  stockBefore := resource.currentStock
  stockAfter := resource.currentStock.add args.delta
  reason := cleanedReason
  operator := args.operator
  occurredAt := env.now

/-- The row of a transaction object: its decimals have the scale of their columns. -/
def ResourceTransaction.stored (t : ResourceTransaction) : ResourceTransaction :=
  { t with
    quantityDelta := t.quantityDelta.quantize 3
    stockBefore := t.stockBefore.quantize 3
    stockAfter := t.stockAfter.quantize 3 }

/-- `new_stock <= resource.warning_threshold`. -/
def adjustmentWarning (args : AdjustArgs) (resource : Resource) : Bool :=
  (resource.currentStock.add args.delta).le resource.warningThreshold

/-- The event of an adjustment. -/
def adjustmentEvent (env : ProcurementEnv) (args : AdjustArgs) (cleanedReason : String)
    (resource : Resource) (eventId : String) : ResourceEvent :=
  let oldStock := resource.currentStock
  let newStock := oldStock.add args.delta
  let resourceLabel := displayOf resourceTypeLabels resource.resourceType
  let unitLabel := displayOf unitLabels resource.unit
  { eventId := eventId
    simulationDay := args.simulationDay
    severity := if adjustmentWarning args resource then "warning" else "info"
    title := resourceLabel ++ "库存调整"
    summary := resourceLabel ++ "库存从 " ++ oldStock.text ++ " " ++ unitLabel ++ " 调整为 " ++
      newStock.text ++ " " ++ unitLabel ++ "。" ++ cleanedReason
    involvedMemberIds := ((Json.get? args.operator "actor_id").filter fun v => v.toPy.truthy).toList
    occurredAt := env.now
    payload := [("resource_id", .str resource.resourceId),
      ("resource_type", .str resource.resourceType), ("unit", .str resource.unit),
      ("old_stock", .str oldStock.text), ("delta", .str args.delta.text),
      ("new_stock", .str newStock.text), ("warning_threshold", .str resource.warningThreshold.text),
      ("is_warning", .scalar (.bool (adjustmentWarning args resource))),
      ("replenishment_method", .str args.replenishmentMethod), ("reason", .str cleanedReason),
      ("operator", .obj args.operator)] }

/-- `record_resource_adjustment(...)`, with the transaction it creates. -/
def recordResourceAdjustment (env : ProcurementEnv) (s : ProcurementState rt) (resourceId : String)
    (args : AdjustArgs) : Except Error (ProcurementState rt × ResourceTransaction) := do
  let cleanedReason := strip args.reason
  rejectIf (cleanedReason = "") (.domain "资源调整原因不能为空。")
  rejectIf (!replenishmentMethods.contains args.replenishmentMethod)
    (.domain "资源补充方式无效。")
  let resource ← related s.resources resourceId "Resource"
  rejectIf ((resource.currentStock.add args.delta).coefficient < 0)
    (.domain "资源库存不能调整为负数。")
  let adjusted := adjustedResource env args cleanedReason resource
  let s := { s with resources := saveResource s.resources adjusted }
  let transactionId ← generateResourceTransactionId env s
  let txn := adjustmentTransaction env args cleanedReason resource transactionId
  let stock ← s.stock.insert txn.stored Error.integrity
  let eventId ← generateResourceEventId env s
  let event := adjustmentEvent env args cleanedReason resource eventId
  let resourceEvents ← s.resourceEvents.insert event Error.integrity
  let s ← appendTo { s with stock := stock, resourceEvents := resourceEvents } {
    eventType := "resource_adjusted"
    aggregateType := "Resource"
    aggregateId := resource.resourceId
    actorMember := actorMemberFromRef s.directory args.operator
    payloadJson := resourceAdjustmentPayload adjusted {
      operator := args.operator
      delta := args.delta
      reason := cleanedReason
      warning := adjustmentWarning args resource
      transactionId := txn.transactionId }
    occurredAt := some env.now
    now := env.now }
  return (s, txn)

/-! ## Delivery -/

/-- `order_by("-submitted_at").first()`. -/
def latestSubmitted (proposals : List ApprovalProposal) : Option ApprovalProposal :=
  (proposals.insertionSort fun a b => b.submittedAt ≤ a.submittedAt).head?

/-- `quote_is_ready_for_receipt(quote)`. -/
def quoteIsReadyForReceipt (s : ProcurementState rt) (quote : SupplierQuote) : Bool :=
  if quote.decisionStatus ≠ .accepted then false
  else
    match latestSubmitted (s.proposals.proposals.rows.filter fun p =>
      p.targetType = "supplier_quote" && p.targetId = quote.quoteId &&
        p.proposalType = .procurementAcceptance) with
    | none => true
    | some p => p.status = .executed

/-- The checks of `record_offer_receipt`, with the result they let through. -/
def receiptChecks (s : ProcurementState rt) (quote : SupplierQuote) (receiptStatus : String) :
    Except Error ReceiptStatus := do
  rejectIf (quote.decisionStatus ≠ .accepted) (.domain "只能对已采纳的报价进行验收。")
  rejectIf (!quoteIsReadyForReceipt s quote)
    (.domain "审批未完成，请确认提案已全部通过并执行。")
  rejectIf (quote.receiptStatus ≠ .pending) (.domain "该报价已验收过，不能重复验收。")
  rejectIf quote.deliveredAt.isSome (.domain "该报价已交付过，不能重复验收。")
  match ReceiptStatus.ofValue receiptStatus with
  | none => .error (.domain "验收状态无效。")
  | some status => do
    rejectIf (status = .pending) (.domain "待验收不能作为验收结果提交。")
    rejectIf (status = .partly) (.domain "暂不支持部分验收。")
    return status

/-- The operator that a receipt names. -/
def receiptOperator (receivedBy : Member) : List (String × Json) :=
  [("actor_id", .str receivedBy.memberNo),
    ("display_name", .str (orText receivedBy.displayName receivedBy.memberNo)),
    ("role", .str "governance_principal")]

/-- The stock movement of an accepted receipt. -/
def receiveStock (env : ProcurementEnv) (s : ProcurementState rt) (quote : SupplierQuote)
    (receivedBy : Member) (receiptNotes : String) (simulationDay : Int) :
    Except Error (ProcurementState rt) := do
  let reason := "报价 " ++ quote.quoteId ++ " 验收" ++
    (if receiptNotes = "" then "" else "：" ++ receiptNotes)
  let (s, txn) ← recordResourceAdjustment env s quote.resource {
    delta := quote.availableQuantity
    operator := receiptOperator receivedBy
    reason := reason
    replenishmentMethod := "purchase"
    simulationDay := simulationDay }
  let stock := s.stock.modify txn.transactionId
    (fun t => { t with relatedSupplierQuote := some quote.quoteId }) (fun _ => rfl) fun _ => rfl
  return { s with stock := stock }

/-- `record_offer_receipt(...)`. -/
def recordOfferReceipt (env : ProcurementEnv) (s : ProcurementState rt) (quoteId : String)
    (receivedBy : Member) (receiptStatus receiptNotes : String) (simulationDay : Int) :
    Except Error (ProcurementState rt) := do
  let quote ← lockQuote s quoteId
  let status ← receiptChecks s quote receiptStatus
  let s ← if status = .accepted
    then receiveStock env s quote receivedBy receiptNotes simulationDay else .ok s
  let quote := { quote with
    receiptStatus := status
    receivedBy := some receivedBy.pk
    deliveredAt := some env.now
    receiptNotes := receiptNotes }
  appendOfferEvent (saveQuote s quote) env.now quote
    (if status = .accepted then "supplier_offer_receipt_accepted"
      else "supplier_offer_receipt_rejected") status.value receivedBy quote.deliveredAt

/-- The code of the template of delivery credentials. -/
def deliveryTemplate : String := "provider_delivery_completed"

/-- The deduplication key of the delivery credential of an offer. -/
def deliveryKey (quoteId : String) : String := "supplier_quote:" ++ quoteId

/-- The delivery credential of an offer without one. -/
def issueDeliveryCredential (env : ProcurementEnv) (s : ProcurementState rt) (quote : SupplierQuote)
    (actor : Member) : Except Error (ProcurementState rt × CredentialGrant) :=
  match quote.submittedBy with
  | none => .error (.domain "无法向缺失提交人的报价发放履约凭证。")
  | some pk => do
    let templates ← ensureBuiltinCredentialTemplates s.proposals.roles.templates
    let roles := { s.proposals.roles with templates := templates }
    let template ← related templates deliveryTemplate "CredentialTemplate"
    let submitter ← related s.directory.members pk "Member"
    let (roles, grant) ← issueCredentialUnlocked env.role roles template submitter
      (deliveryKey quote.quoteId) .earned (some actor.pk) none ""
    return ({ s with proposals := { s.proposals with roles := roles } }, grant)

/-- The id of the delivery credential of an offer, issued if there is none. -/
def performanceCredentialOf (env : ProcurementEnv) (s : ProcurementState rt) (quote : SupplierQuote)
    (actor : Member) : Except Error (ProcurementState rt × String) :=
  match quote.performanceCredential with
  | some credential => .ok (s, credential)
  | none => do
    let (s, grant) ← issueDeliveryCredential env s quote actor
    return (s, grant.grantId)

/-- `mark_offer_paid_or_donated(...)`. -/
def markOfferPaidOrDonated (env : ProcurementEnv) (s : ProcurementState rt) (quoteId : String)
    (actor : Member) : Except Error (ProcurementState rt) := do
  let quote ← lockQuote s quoteId
  rejectIf (quote.decisionStatus ≠ .accepted) (.domain "只能对已采纳的报价标记付款/捐赠完成。")
  rejectIf (quote.decisionStatus = .fulfilled) (.domain "该报价已完成履约。")
  rejectIf (quote.receiptStatus ≠ .accepted) (.domain "未验收通过前不能标记付款/捐赠完成。")
  rejectIf (quote.offerType = .quote ∧ quote.paymentStatus = .paid)
    (.domain "该报价已标记为已付款。")
  let quote := { quote with
    paymentStatus := if quote.offerType = OfferType.quote then .paid else .notRequired
    paidAt := some env.now }
  let (s, credential) ← performanceCredentialOf env s quote actor
  let quote := { quote with
    performanceCredential := some credential
    decisionStatus := .fulfilled }
  appendOfferEvent (saveQuote s quote) env.now quote "supplier_offer_completed" "completed" actor
    quote.paidAt

/-! ## Runs -/

/-- A call of a service. -/
inductive ProcurementCall where
  | submit (args : SubmitOfferArgs)
  | approve (proposalId : String) (approvedBy : Member) (role reason : String)
  | reject (proposalId : String) (rejectedBy : Member) (role reason : String)
  | execute (proposalId : String) (actor : Member)
  | receive (quoteId : String) (receivedBy : Member) (receiptStatus receiptNotes : String)
    (simulationDay : Int)
  | markPaid (quoteId : String) (actor : Member)

/-- The state after a call that succeeds. -/
def procurementStep (s : ProcurementState rt) (call : ProcurementEnv × ProcurementCall) :
    Except Error (ProcurementState rt) :=
  match call with
  | (env, .submit args) => submitResourceOffer env s args
  | (env, .approve proposalId approvedBy role reason) => do
    let (proposals, _) ← approveProposal env.proposal s.proposals proposalId approvedBy role reason
    return { s with proposals := proposals }
  | (env, .reject proposalId rejectedBy role reason) =>
    rejectProposal env s proposalId rejectedBy role reason
  | (env, .execute proposalId actor) => executeProposal env s proposalId actor
  | (env, .receive quoteId receivedBy receiptStatus receiptNotes simulationDay) =>
    recordOfferReceipt env s quoteId receivedBy receiptStatus receiptNotes simulationDay
  | (env, .markPaid quoteId actor) => markOfferPaidOrDonated env s quoteId actor

end LiveOs.Procurement
