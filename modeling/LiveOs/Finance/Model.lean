import LiveOs.EventLedger.Journal
import LiveOs.Roles.Credentials
import LiveOs.Roles.Model

/-!
# Expense claims and their records

The rows of `core/models/finance.py` and the public events of `core/models/events.py` that the
services of `core/finance_services.py` write. Amounts are in hundredths of the currency unit.
-/

namespace LiveOs.Finance

open Lib EventLedger Roles

/-- `ExpenseClaim.Category`. -/
inductive ExpenseCategory where
  | server
  | aiUsage
  | software
  | operations
  | other
deriving DecidableEq

def ExpenseCategory.value : ExpenseCategory → String
  | server => "server"
  | aiUsage => "ai_usage"
  | software => "software"
  | operations => "operations"
  | other => "other"

def ExpenseCategory.label : ExpenseCategory → String
  | server => "服务器"
  | aiUsage => "AI 使用费"
  | software => "软件"
  | operations => "运营支出"
  | other => "其他"

/-- `ExpenseClaim.Status`. -/
inductive ClaimStatus where
  | submitted
  | underReview
  | approved
  | rejected
  | paid
  | withdrawn
deriving DecidableEq

def ClaimStatus.value : ClaimStatus → String
  | submitted => "submitted"
  | underReview => "under_review"
  | approved => "approved"
  | rejected => "rejected"
  | paid => "paid"
  | withdrawn => "withdrawn"

def ClaimStatus.label : ClaimStatus → String
  | submitted => "已提交"
  | underReview => "审核中"
  | approved => "已批准"
  | rejected => "已拒绝"
  | paid => "已付款"
  | withdrawn => "已撤回"

structure ExpenseClaim where
  pk : Nat
  claimId : String
  claimantMember : Nat
  title : String
  amount : Int
  currency : String
  category : ExpenseCategory
  status : ClaimStatus
deriving DecidableEq

/-- `FinanceReview.Decision`. -/
inductive Decision where
  | approved
  | rejected
deriving DecidableEq

def Decision.value : Decision → String
  | approved => "approved"
  | rejected => "rejected"

def Decision.label : Decision → String
  | approved => "已批准"
  | rejected => "已拒绝"

/-- The decision with the given value. -/
def Decision.ofValue (value : String) : Option Decision :=
  if value = "approved" then some .approved
  else if value = "rejected" then some .rejected
  else none

structure FinanceReview where
  reviewId : String
  claim : Nat
  reviewerMember : Nat
  decision : Decision
  reason : String
deriving DecidableEq

/-- `FinanceTransaction.TransactionType`. -/
inductive TransactionType where
  | reimbursement
  | income
  | expense
  | correction
deriving DecidableEq

def TransactionType.value : TransactionType → String
  | reimbursement => "reimbursement"
  | income => "income"
  | expense => "expense"
  | correction => "correction"

def TransactionType.label : TransactionType → String
  | reimbursement => "报销支出"
  | income => "收入"
  | expense => "支出"
  | correction => "冲正"

/-- `FinanceTransaction.Direction`. -/
inductive Direction where
  | into
  | out
deriving DecidableEq

def Direction.value : Direction → String
  | into => "in"
  | out => "out"

structure FinanceTransaction where
  transactionId : String
  claim : Option Nat
  transactionType : TransactionType
  amount : Int
  currency : String
  direction : Direction
  summary : String
  recordedBy : Option Nat
deriving DecidableEq

/-- `PaymentExecution.SyncStatus`. -/
inductive SyncStatus where
  | localOnly
  | synced
  | failed
deriving DecidableEq

/-- A row of `PaymentExecution`; only successful executions are stored. -/
structure PaymentExecution where
  executionId : String
  claim : Nat
  backendType : String
  paymentDate : Nat
  paymentMethod : String
  payerMember : Nat
  note : String
  externalSystem : String
  externalObjectId : String
  syncStatus : SyncStatus
  resultSnapshot : List (String × Json)
  financeTransaction : Option String

/-- A public row of `Event`. -/
structure PublicEvent where
  eventId : String
  title : String
  summary : String
  payload : List (String × Json)

abbrev ClaimTable := Table ExpenseClaim Nat String ExpenseClaim.pk fun c => some c.claimId

abbrev ReviewTable := Table FinanceReview String Unit FinanceReview.reviewId fun _ => none

abbrev TransactionTable :=
  Table FinanceTransaction String Unit FinanceTransaction.transactionId fun _ => none

/-- A claim has at most one execution. -/
abbrev ExecutionTable :=
  Table PaymentExecution String Nat PaymentExecution.executionId fun e => some e.claim

abbrev PublicEventTable := Table PublicEvent String Unit PublicEvent.eventId fun _ => none

/-- What the finance services read and write in the database. -/
structure FinanceDb (rt : Runtime) where
  claims : ClaimTable
  reviews : ReviewTable
  transactions : TransactionTable
  executions : ExecutionTable
  publicEvents : PublicEventTable
  events : Journal rt

/-- `str(amount)` of an amount with two decimal places. -/
def amountText (amount : Int) : String :=
  let cents := amount.natAbs % 100
  (if amount < 0 then "-" else "") ++ toString (amount.natAbs / 100) ++ "." ++
    (if cents < 10 then "0" else "") ++ toString cents

/-! ## Payloads of the finance events

The finance builders of `core/event_payloads.py`, each with the related rows it reads. -/

/-- `str(member.display_name or member.member_no)`. -/
def publicName (m : Member) : String := orText m.displayName m.memberNo

def expenseClaimFacts (claim : ExpenseClaim) (claimant : Member) : List (String × Json) := [
  ("source", .str "finance"),
  ("claim_id", .str claim.claimId),
  ("title", .str claim.title),
  ("amount", .str (amountText claim.amount)),
  ("currency", .str claim.currency),
  ("category", .str claim.category.value),
  ("category_label", .str claim.category.label),
  ("status", .str claim.status.value),
  ("status_label", .str claim.status.label),
  ("claimant_public_name", .str (publicName claimant))]

/-- `expense_claim_payload(claim)`. -/
def expenseClaimPayload (claim : ExpenseClaim) (claimant : Member) : PyVal :=
  publicEventPayload "expense_claim" (publicRef ["expense-claim", claim.claimId]) claim.title
    "submitted" claim.status.value
    ("报销申请《" ++ claim.title ++ "》" ++ amountText claim.amount ++ " " ++ claim.currency)
    (expenseClaimFacts claim claimant) [commitment "member_id" true "申请人内部ID"]

def financeReviewFacts (review : FinanceReview) (claim : ExpenseClaim) (reviewer : Member) :
    List (String × Json) := [
  ("source", .str "finance"),
  ("claim_id", .str claim.claimId),
  ("title", .str claim.title),
  ("amount", .str (amountText claim.amount)),
  ("currency", .str claim.currency),
  ("decision", .str review.decision.value),
  ("decision_label", .str review.decision.label),
  ("reason", .str (String.ofList (review.reason.toList.take 200))),
  ("reviewer_public_name", .str (publicName reviewer))]

/-- `finance_review_payload(review)`. -/
def financeReviewPayload (review : FinanceReview) (claim : ExpenseClaim) (reviewer : Member) :
    PyVal :=
  publicEventPayload "finance_review" (publicRef ["finance-review", review.reviewId])
    ("审核-" ++ claim.claimId) review.decision.value review.decision.value
    ("报销审核：" ++ review.decision.label) (financeReviewFacts review claim reviewer)
    [commitment "member_id" true "审核人内部ID"]

def financeTransactionFacts (txn : FinanceTransaction) (claim : Option ExpenseClaim)
    (recordedBy : Option Member) : List (String × Json) := [
  ("source", .str "finance"),
  ("transaction_id", .str txn.transactionId),
  ("claim_id", .str ((claim.map ExpenseClaim.claimId).getD "")),
  ("transaction_type", .str txn.transactionType.value),
  ("transaction_type_label", .str txn.transactionType.label),
  ("amount", .str (amountText txn.amount)),
  ("currency", .str txn.currency),
  ("direction", .str txn.direction.value),
  ("summary", .str txn.summary),
  ("payer_public_name", .str ((recordedBy.map publicName).getD ""))]

/-- `finance_transaction_payload(txn)`. -/
def financeTransactionPayload (txn : FinanceTransaction) (claim : Option ExpenseClaim)
    (recordedBy : Option Member) : PyVal :=
  publicEventPayload "finance_transaction" (publicRef ["finance-transaction", txn.transactionId])
    txn.summary "recorded" "recorded"
    (txn.transactionType.label ++ " " ++ amountText txn.amount ++ " " ++ txn.currency)
    (financeTransactionFacts txn claim recordedBy) []

end LiveOs.Finance
