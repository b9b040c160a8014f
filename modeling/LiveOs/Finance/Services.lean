import LiveOs.Finance.Model
import LiveOs.Lib.Runs

/-!
# Reviewing, paying and withdrawing expense claims

The services of `core/finance_services.py` on a claim that is already submitted. Each of them works
on the `ExpenseClaim` object it is handed. A raised exception rolls the database back; it undoes
neither what was written to the object nor what the payment backend has executed.
-/

namespace LiveOs.Finance

open Lib EventLedger Roles

variable {rt : Runtime}

def financeReviewPermission : String := "finance.review"

def financePayPermission : String := "finance.pay"

/-! ## The payment boundary -/

structure PaymentRequest where
  claimId : String
  amount : String
  currency : String
  paymentDate : Nat
  paymentMethod : String
deriving DecidableEq

structure PaymentResult where
  succeeded : Bool
  externalSystem : String := ""
  externalObjectId : String := ""
  snapshot : List (String × Json) := []

structure FinancePaymentBackend where
  backendType : String
  execute : PaymentRequest → Except Error PaymentResult

/-- `LiveOSManualPaymentBackend`. -/
def liveOSManualPaymentBackend : FinancePaymentBackend where
  backendType := "liveos_manual"
  execute request := do
    rejectIf (strip request.paymentMethod = "") (.domain "付款方式不能为空。")
    return { succeeded := true, snapshot := [("mode", .str "manual_confirmation")] }

def paymentBackends : List FinancePaymentBackend := [liveOSManualPaymentBackend]

/-- `get_payment_backend()`, for the value of `settings.FINANCE_PAYMENT_BACKEND`. -/
def getPaymentBackend (setting : String) : Except Error FinancePaymentBackend :=
  let backendType := String.ofList ((strip setting).toList.map Char.toLower)
  match paymentBackends.find? fun b => b.backendType = backendType with
  | none => .error (.domain "付款执行后端未实现或配置无效。")
  | some backend => .ok backend

/-! ## One call -/

/-- What a call takes from outside the finance tables. -/
structure FinanceEnv where
  /-- `AuthorizationService().member_has_permission(member, code)` -/
  permits : Nat → String → Bool
  /-- `timezone.localdate()` -/
  localDate : Nat
  /-- `django.utils.dateparse.parse_date` -/
  parseDate : String → Except Error (Option Nat)
  /-- `settings.FINANCE_PAYMENT_BACKEND` -/
  paymentBackend : String
  /-- `uuid4().hex[:12]`, for the row the call creates first -/
  hex : String
  /-- `uuid4().hex[:12]`, for the second row of a payment -/
  executionHex : String
  now : Nat

/-- The database, the claim object the call is handed and the requests the payment backend has
executed successfully. -/
structure Session (rt : Runtime) where
  db : FinanceDb rt
  claim : ExpenseClaim
  payments : List PaymentRequest

/-- `value.rsplit("-", 1)[-1]`. -/
def eventSuffix (value : String) : String :=
  String.ofList ((value.toList.reverse.takeWhile (· ≠ '-')).reverse)

/-- `_write_public_event(...)`. -/
def writePublicEvent (db : FinanceDb rt) (eventId title summary : String)
    (payload : List (String × Json)) : Except Error (FinanceDb rt) := do
  let publicEvents ← db.publicEvents.insert ⟨eventId, title, summary, payload⟩ .integrity
  return { db with publicEvents := publicEvents }

/-- `claim.save(update_fields=["status", "updated_at"])`. -/
def saveStatus (db : FinanceDb rt) (claim : ExpenseClaim) : Except Error (FinanceDb rt) := do
  rejectIf (db.claims.get? claim.pk).isNone
    (.runtime "Save with update_fields did not affect any rows.")
  return { db with
    claims := db.claims.modify claim.pk (fun c => { c with status := claim.status })
      (fun _ => rfl) (fun _ => rfl) }

/-- `claim.status in {SUBMITTED, UNDER_REVIEW}`. -/
def ClaimStatus.isOpen (s : ClaimStatus) : Bool := s = .submitted || s = .underReview

/-- The checks of `review_expense_claim`, with the decision they let through. -/
def reviewChecks (env : FinanceEnv) (claim : ExpenseClaim) (reviewer : Member)
    (decision reason : String) : Except Error Decision := do
  rejectIf (!env.permits reviewer.pk financeReviewPermission)
    (.domain "只有财务审核成员才能审核报销。")
  rejectIf (reviewer.pk = claim.claimantMember) (.domain "申请人不能审核自己的报销。")
  rejectIf (!claim.status.isOpen) (.domain "只有已提交或审核中的报销可以审核。")
  match Decision.ofValue decision with
  | none => .error (.domain "审核决定无效。")
  | some d => do
    rejectIf (d = .rejected ∧ strip reason = "") (.domain "拒绝报销必须填写理由。")
    return d

/-- The status a decision gives a claim. -/
def Decision.claimStatus : Decision → ClaimStatus
  | approved => .approved
  | rejected => .rejected

/-- What `review_expense_claim` writes once the object has its new status. -/
def recordReview (env : FinanceEnv) (db : FinanceDb rt) (claim : ExpenseClaim) (reviewer : Member)
    (decision : Decision) (reason : String) : Except Error (FinanceDb rt × FinanceReview) := do
  let db ← saveStatus db claim
  let review : FinanceReview := {
    reviewId := "finance-review-" ++ env.hex
    claim := claim.pk
    reviewerMember := reviewer.pk
    decision := decision
    reason := reason }
  let reviews ← db.reviews.insert review .integrity
  let db ← writePublicEvent { db with reviews := reviews }
    ("expense-claim-reviewed-" ++ claim.claimId ++ "-" ++ eventSuffix review.reviewId)
    "报销已审核"
    (publicName reviewer ++ " " ++ decision.label ++ "了《" ++ claim.title ++ "》。")
    (financeReviewFacts review claim reviewer)
  let events ← db.events.append {
    eventType := "expense_claim_reviewed"
    aggregateType := "FinanceReview"
    aggregateId := review.reviewId
    actorMember := some reviewer.pk
    payloadJson := financeReviewPayload review claim reviewer
    now := env.now }
  return ({ db with events := events }, review)

/-- `review_expense_claim(...)`. -/
def reviewExpenseClaim (env : FinanceEnv) (w : Session rt) (reviewer : Member)
    (decision reason : String) : Session rt × Except Error FinanceReview :=
  match reviewChecks env w.claim reviewer decision reason with
  | .error e => (w, .error e)
  | .ok d =>
    let claim := { w.claim with status := d.claimStatus }
    match recordReview env w.db claim reviewer d reason with
    | .error e => ({ w with claim := claim }, .error e)
    | .ok (db, review) => ({ w with db := db, claim := claim }, .ok review)

/-- A payment date as the caller gives it. -/
inductive DateArg where
  | absent
  | date (day : Nat)
  | text (value : String)
deriving DecidableEq

/-- `_normalise_expense_date(payment_date or timezone.localdate())`. -/
def normaliseExpenseDate (env : FinanceEnv) : DateArg → Except Error Nat
  | .absent => .ok env.localDate
  | .date day => .ok day
  | .text value =>
    if value = "" then .ok env.localDate
    else do
      match ← env.parseDate value with
      | none => .error (.domain "支出日期格式无效。")
      | some day => .ok day

/-- What the payment backend did for a payment. -/
structure Execution where
  backend : FinancePaymentBackend
  request : PaymentRequest
  result : PaymentResult

/-- The steps of `_mark_expense_claim_paid` up to a successful `backend.execute`. -/
def executePayment (env : FinanceEnv) (claim : ExpenseClaim) (payer : Member)
    (paymentDate : DateArg) (paymentMethod : String) : Except Error Execution := do
  rejectIf (!env.permits payer.pk financePayPermission)
    (.domain "只有财务付款成员才能标记付款。")
  rejectIf (payer.pk = claim.claimantMember) (.domain "申请人不能给自己的报销标记付款。")
  rejectIf (claim.status ≠ .approved) (.domain "只有已批准的报销才能标记付款。")
  let paymentDateValue ← normaliseExpenseDate env paymentDate
  let backend ← getPaymentBackend env.paymentBackend
  let request : PaymentRequest := {
    claimId := claim.claimId
    amount := amountText claim.amount
    currency := claim.currency
    paymentDate := paymentDateValue
    paymentMethod := paymentMethod }
  let result ← backend.execute request
  rejectIf (!result.succeeded) (.domain "付款执行未成功。")
  return ⟨backend, request, result⟩

/-- The rows a payment creates and its evidence; `evidence` is the outcome of
`create_expense_attachments`, where evidence is required or handed in. -/
def recordPayment (env : FinanceEnv) (db : FinanceDb rt) (claim : ExpenseClaim) (payer : Member)
    (execution : Execution) (note : String) (evidence : Option (Except Error Unit)) :
    Except Error (FinanceDb rt × FinanceTransaction) := do
  let txn : FinanceTransaction := {
    transactionId := "finance-tx-" ++ env.hex
    claim := some claim.pk
    transactionType := .reimbursement
    amount := claim.amount
    currency := claim.currency
    direction := .out
    summary := "报销：" ++ claim.title
    recordedBy := some payer.pk }
  let transactions ← db.transactions.insert txn .integrity
  let result := execution.result
  let executions ← db.executions.insert {
    executionId := "payment-execution-" ++ env.executionHex
    claim := claim.pk
    backendType := execution.backend.backendType
    paymentDate := execution.request.paymentDate
    paymentMethod := execution.request.paymentMethod
    payerMember := payer.pk
    note := note
    externalSystem := result.externalSystem
    externalObjectId := result.externalObjectId
    syncStatus := if result.externalSystem ≠ "" then .synced else .localOnly
    resultSnapshot := result.snapshot.filter fun e => e.1 = "mode" || e.1 = "reference"
    financeTransaction := some txn.transactionId } .integrity
  evidence.getD (.ok ())
  return ({ db with transactions := transactions, executions := executions }, txn)

/-- What `_mark_expense_claim_paid` writes once the object is paid. -/
def closePayment (env : FinanceEnv) (db : FinanceDb rt) (claim : ExpenseClaim) (payer : Member)
    (txn : FinanceTransaction) : Except Error (FinanceDb rt) := do
  let db ← saveStatus db claim
  let db ← writePublicEvent db
    ("expense-claim-paid-" ++ claim.claimId ++ "-" ++ eventSuffix txn.transactionId) "报销已付款"
    ("《" ++ claim.title ++ "》" ++ amountText claim.amount ++ " " ++ claim.currency ++ " 已支付。")
    (financeTransactionFacts txn (some claim) (some payer))
  let events ← db.events.append {
    eventType := "expense_claim_paid"
    aggregateType := "FinanceTransaction"
    aggregateId := txn.transactionId
    actorMember := some payer.pk
    payloadJson := financeTransactionPayload txn (some claim) (some payer)
    now := env.now }
  return { db with events := events }

/-- `mark_expense_claim_paid(...)`. -/
def markExpenseClaimPaid (env : FinanceEnv) (w : Session rt) (payer : Member)
    (paymentDate : DateArg) (paymentMethod note : String)
    (evidence : Option (Except Error Unit)) : Session rt × Except Error FinanceTransaction :=
  match executePayment env w.claim payer paymentDate paymentMethod with
  | .error e => (w, .error e)
  | .ok execution =>
    let payments := w.payments ++ [execution.request]
    match recordPayment env w.db w.claim payer execution note evidence with
    | .error e => ({ w with payments := payments }, .error e)
    | .ok (db, txn) =>
      let claim := { w.claim with status := .paid }
      match closePayment env db claim payer txn with
      | .error e => ({ w with claim := claim, payments := payments }, .error e)
      | .ok db => ({ db := db, claim := claim, payments := payments }, .ok txn)

/-- The checks of `withdraw_expense_claim`. -/
def withdrawChecks (claim : ExpenseClaim) (member : Member) : Except Error Unit := do
  rejectIf (member.pk ≠ claim.claimantMember) (.domain "只能撤回自己的报销申请。")
  rejectIf (!claim.status.isOpen) (.domain "只有已提交或审核中的报销可以撤回。")

/-- What `withdraw_expense_claim` writes once the object is withdrawn. -/
def recordWithdrawal (db : FinanceDb rt) (claim : ExpenseClaim) (member : Member) :
    Except Error (FinanceDb rt) := do
  let db ← saveStatus db claim
  writePublicEvent db ("expense-claim-withdrawn-" ++ claim.claimId) "报销已撤回"
    (publicName member ++ " 撤回了《" ++ claim.title ++ "》。") [
      ("source", .str "finance"),
      ("claim_id", .str claim.claimId),
      ("title", .str claim.title),
      ("amount", .str (amountText claim.amount)),
      ("currency", .str claim.currency),
      ("status", .str claim.status.value),
      ("status_label", .str claim.status.label),
      ("claimant_public_name", .str (publicName member)),
      ("action_type", .str "withdrawn")]

/-- `withdraw_expense_claim(...)`. -/
def withdrawExpenseClaim (w : Session rt) (member : Member) :
    Session rt × Except Error ExpenseClaim :=
  match withdrawChecks w.claim member with
  | .error e => (w, .error e)
  | .ok () =>
    let claim := { w.claim with status := .withdrawn }
    match recordWithdrawal w.db claim member with
    | .error e => ({ w with claim := claim }, .error e)
    | .ok db => ({ w with db := db, claim := claim }, .ok claim)

/-! ## Clients -/

/-- The database, the successful executions of the payment backend and the claim object that each
client holds. -/
structure FinanceWorld (rt : Runtime) where
  db : FinanceDb rt
  payments : List PaymentRequest
  objects : Nat → Option ExpenseClaim

/-- What a client does with the object it holds. -/
inductive ClaimCall where
  | review (reviewer : Member) (decision reason : String)
  | withdraw (member : Member)
  | markPaid (payer : Member) (paymentDate : DateArg) (paymentMethod note : String)
    (evidence : Option (Except Error Unit))

/-- A step of a client. -/
inductive ClientStep where
  | load (claim : Nat)
  | call (env : FinanceEnv) (c : ClaimCall)

/-- The session a service leaves behind, whatever it raises. -/
def sessionAfter (env : FinanceEnv) (w : Session rt) : ClaimCall → Session rt
  | .review reviewer decision reason => (reviewExpenseClaim env w reviewer decision reason).1
  | .withdraw member => (withdrawExpenseClaim w member).1
  | .markPaid payer paymentDate paymentMethod note evidence =>
    (markExpenseClaimPaid env w payer paymentDate paymentMethod note evidence).1

/-- One step of the client with the given number. -/
def clientStep (w : FinanceWorld rt) : Nat × ClientStep → Except Error (FinanceWorld rt)
  | (client, .load pk) =>
    match w.db.claims.get? pk with
    | none => .error (.doesNotExist "ExpenseClaim")
    | some claim => .ok { w with objects := Function.update w.objects client (some claim) }
  | (client, .call env c) =>
    match w.objects client with
    | none => .error .attribute
    | some claim =>
      let s := sessionAfter env ⟨w.db, claim, w.payments⟩ c
      .ok ⟨s.db, s.payments, Function.update w.objects client (some s.claim)⟩

end LiveOs.Finance
