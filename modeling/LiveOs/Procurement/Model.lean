import Mathlib.Algebra.Order.Ring.Int
import LiveOs.Proposals.Model
import LiveOs.Roles.Credentials

/-!
# Offers, resources and stock movements

The rows of `core/models/operations.py` that the procurement services read and write. Quantities
and prices are Python decimals; a stored one has the scale of its column.
-/

namespace LiveOs.Procurement

open Lib EventLedger Roles Proposals

/-! ## Decimals -/

/-- A finite `Decimal`: `coefficient * 10 ** exponent`. -/
structure PyDecimal where
  coefficient : Int
  exponent : Int
deriving DecidableEq

namespace PyDecimal

def zero : PyDecimal := ⟨0, 0⟩

/-- The two coefficients at the smaller of the two exponents. -/
def aligned (a b : PyDecimal) : Int × Int :=
  let e := min a.exponent b.exponent
  (a.coefficient * 10 ^ (a.exponent - e).toNat, b.coefficient * 10 ^ (b.exponent - e).toNat)

def lt (a b : PyDecimal) : Bool := (aligned a b).1 < (aligned a b).2

def le (a b : PyDecimal) : Bool := (aligned a b).1 ≤ (aligned a b).2

def add (a b : PyDecimal) : PyDecimal :=
  ⟨(aligned a b).1 + (aligned a b).2, min a.exponent b.exponent⟩

def mul (a b : PyDecimal) : PyDecimal := ⟨a.coefficient * b.coefficient, a.exponent + b.exponent⟩

/-- The integer closest to `n / d`, halves to even. -/
def divHalfEven (n : Int) (d : Nat) : Int :=
  let q := n / d
  let twice := 2 * (n % d)
  if twice < d then q
  else if (d : Int) < twice then q + 1
  else if q % 2 = 0 then q else q + 1

/-- `value.quantize(Decimal(1).scaleb(-places))`, by which a column of that scale stores a value. -/
def quantize (a : PyDecimal) (places : Nat) : PyDecimal :=
  let shift := a.exponent + places
  if 0 ≤ shift then ⟨a.coefficient * 10 ^ shift.toNat, -places⟩
  else ⟨divHalfEven a.coefficient (10 ^ (-shift).toNat), -places⟩

/-- `str(value)`. -/
def text (a : PyDecimal) : String :=
  let digits := (toString a.coefficient.natAbs).toList
  let leftDigits := a.exponent + digits.length
  let dotPlace := if a.exponent ≤ 0 ∧ -6 < leftDigits then leftDigits else 1
  let body :=
    if dotPlace ≤ 0 then '0' :: '.' :: (List.replicate (-dotPlace).toNat '0' ++ digits)
    else if digits.length ≤ dotPlace then
      digits ++ List.replicate (dotPlace - digits.length).toNat '0'
    else digits.take dotPlace.toNat ++ '.' :: digits.drop dotPlace.toNat
  let power := leftDigits - dotPlace
  (if a.coefficient < 0 then "-" else "") ++ String.ofList body ++
    (if power = 0 then ""
      else if power < 0 then "E-" ++ toString power.natAbs else "E+" ++ toString power.natAbs)

example : (⟨-1250, -3⟩ : PyDecimal).text = "-1.250" ∧ (⟨12, 3⟩ : PyDecimal).text = "1.2E+4" ∧
    ((⟨12345, -4⟩ : PyDecimal).quantize 3).text = "1.234" := by
  decide

end PyDecimal

/-! ## Rows -/

/-- The fields of `Resource` that the services read. -/
structure Resource where
  resourceId : String
  name : String
  resourceType : String
  unit : String
  currentStock : PyDecimal
  warningThreshold : PyDecimal
  replenishmentMethod : String
  acceptsOffers : Bool
  metadata : List (String × Json)

/-- `SupplierQuote.OfferType`. -/
inductive OfferType where
  | quote
  | donation
deriving DecidableEq

def OfferType.value : OfferType → String
  | quote => "quote"
  | donation => "donation"

/-- The offer type with the given value. -/
def OfferType.ofValue (value : String) : Option OfferType :=
  if value = "quote" then some .quote
  else if value = "donation" then some .donation
  else none

/-- `SupplierQuote.DecisionStatus`. -/
inductive DecisionStatus where
  | submitted
  | underReview
  | accepted
  | rejected
  | withdrawn
  | fulfilled
  | cancelled
deriving DecidableEq

def DecisionStatus.value : DecisionStatus → String
  | submitted => "submitted"
  | underReview => "under_review"
  | accepted => "accepted"
  | rejected => "rejected"
  | withdrawn => "withdrawn"
  | fulfilled => "fulfilled"
  | cancelled => "cancelled"

/-- `SupplierQuote.ReceiptStatus`. -/
inductive ReceiptStatus where
  | pending
  | accepted
  | rejected
  | partly
deriving DecidableEq

def ReceiptStatus.value : ReceiptStatus → String
  | pending => "pending"
  | accepted => "accepted"
  | rejected => "rejected"
  | partly => "partial"

/-- The receipt status with the given value. -/
def ReceiptStatus.ofValue (value : String) : Option ReceiptStatus :=
  if value = "pending" then some .pending
  else if value = "accepted" then some .accepted
  else if value = "rejected" then some .rejected
  else if value = "partial" then some .partly
  else none

/-- `SupplierQuote.PaymentStatus`. -/
inductive PaymentStatus where
  | notRequired
  | pending
  | paid
  | disputed
deriving DecidableEq

def PaymentStatus.value : PaymentStatus → String
  | notRequired => "not_required"
  | pending => "pending"
  | paid => "paid"
  | disputed => "disputed"

/-- `SupplierQuote.ApprovalTier`. -/
inductive QuoteTier where
  | small
  | standard
  | major
deriving DecidableEq

def QuoteTier.value : QuoteTier → String
  | small => "small"
  | standard => "standard"
  | major => "major"

structure SupplierQuote where
  quoteId : String
  resource : String
  submittedBy : Option Nat
  offerType : OfferType
  unitPrice : PyDecimal
  currency : String
  availableQuantity : PyDecimal
  estimatedTotalAmount : PyDecimal
  approvalTier : QuoteTier
  decisionStatus : DecisionStatus := .submitted
  acceptedBy : Option Nat := none
  acceptedAt : Option Nat := none
  rejectedBy : Option Nat := none
  rejectedAt : Option Nat := none
  decisionReason : String := ""
  deliveredAt : Option Nat := none
  receivedBy : Option Nat := none
  receiptStatus : ReceiptStatus := .pending
  receiptNotes : String := ""
  paidAt : Option Nat := none
  paymentStatus : PaymentStatus := .pending
  performanceCredential : Option String := none
  notes : String := ""
  metadata : List (String × Json) := []
  createdAt : Nat

/-- `ResourceTransaction.TransactionType`, as far as an adjustment uses it. -/
inductive StockMovement where
  | inbound
  | outbound
  | manualAdjustment
deriving DecidableEq

structure ResourceTransaction where
  transactionId : String
  resource : String
  transactionType : StockMovement
  quantityDelta : PyDecimal
  stockBefore : PyDecimal
  stockAfter : PyDecimal
  reason : String
  operator : List (String × Json)
  relatedSupplierQuote : Option String := none
  occurredAt : Nat

/-- An `Event` row of a stock adjustment; its other fields are constants. -/
structure ResourceEvent where
  eventId : String
  simulationDay : Int
  severity : String
  title : String
  summary : String
  involvedMemberIds : List Json
  occurredAt : Nat
  payload : List (String × Json)

abbrev ResourceTable := Table Resource String Unit Resource.resourceId fun _ => none

abbrev QuoteTable := Table SupplierQuote String Unit SupplierQuote.quoteId fun _ => none

abbrev StockTable := Table ResourceTransaction String Unit ResourceTransaction.transactionId
  fun _ => none

abbrev ResourceEventTable := Table ResourceEvent String Unit ResourceEvent.eventId fun _ => none

/-- The tables of the procurement services; the ledger is that of the proposals. -/
structure ProcurementState (rt : Runtime) where
  proposals : ProposalState rt
  resources : ResourceTable
  quotes : QuoteTable
  stock : StockTable
  resourceEvents : ResourceEventTable

/-- What one call takes from its surroundings: the clock, the calendar day of an instant and the
random parts of the ids it creates; those of stock rows are drawn until one is free. -/
structure ProcurementEnv where
  now : Nat
  localDay : Nat → Nat
  quoteUuid : String
  uuid : String
  grantUuid : String
  transactionDraws : List String
  eventDraws : List String

def ProcurementEnv.proposal (env : ProcurementEnv) : ProposalEnv := ⟨env.now, env.uuid, env.grantUuid⟩

def ProcurementEnv.role (env : ProcurementEnv) : RoleEnv := ⟨env.now, env.grantUuid⟩

/-! ## Payloads of offers and of stock adjustments

`supplier_offer_payload` and `resource_adjustment_payload` of `core/event_payloads.py`. -/

/-- `resource.name or resource.resource_id`. -/
def Resource.label (r : Resource) : String := orText r.name r.resourceId

/-- The public label of a member that a row may refer to. -/
def optionalLabel (db : Directory) (pk : Option Nat) : Except Error String :=
  match pk with
  | none => .ok ""
  | some pk => do
    let member ← related db.members pk "Member"
    return member.publicLabel

def supplierOfferFacts (quote : SupplierQuote) (resource : Resource)
    (submittedByLabel actorLabel : String) : List (String × Json) := [
  ("quote_id", .str quote.quoteId),
  ("resource_id", .str resource.resourceId),
  ("resource_name", .str resource.label),
  ("submitted_by_display", .str submittedByLabel),
  ("actor_display", .str actorLabel),
  ("offer_type", .str quote.offerType.value),
  ("available_quantity", .str quote.availableQuantity.text),
  ("unit_price", .str quote.unitPrice.text),
  ("currency", .str quote.currency),
  ("decision_status", .str quote.decisionStatus.value),
  ("receipt_status", .str quote.receiptStatus.value),
  ("payment_status", .str quote.paymentStatus.value),
  ("approval_tier", .str quote.approvalTier.value),
  ("estimated_total_amount", .str quote.estimatedTotalAmount.text),
  ("credential_id", .str (quote.performanceCredential.getD ""))]

/-- `supplier_offer_payload(quote, action=..., actor=...)`. -/
def supplierOfferPayload (db : Directory) (resources : ResourceTable) (quote : SupplierQuote)
    (action : String) (actor : Option Nat) : Except Error PyVal := do
  let resource ← related resources quote.resource "Resource"
  let submittedByLabel ← optionalLabel db quote.submittedBy
  let actorLabel ← optionalLabel db actor
  return publicEventPayload "supplier_quote" (publicRef ["supplier-quote", quote.quoteId])
    ("报价 " ++ quote.quoteId) action quote.decisionStatus.value
    ("报价 " ++ quote.quoteId ++ "（" ++ resource.label ++ "）" ++ action ++ "。")
    (supplierOfferFacts quote resource submittedByLabel actorLabel)
    [commitment "metadata" (!quote.metadata.isEmpty) "元数据",
      commitment "notes" (quote.notes ≠ "") "内部备注",
      commitment "decision_reason" (quote.decisionReason ≠ "") "决策理由",
      commitment "receipt_notes" (quote.receiptNotes ≠ "") "验收备注"]

/-- The arguments of `resource_adjustment_payload` besides the resource that it reads. -/
structure AdjustmentArgs where
  operator : List (String × Json)
  delta : PyDecimal
  reason : String
  warning : Bool
  transactionId : String

/-- `resource_adjustment_payload(resource, ...)`. -/
def resourceAdjustmentPayload (resource : Resource) (args : AdjustmentArgs) : PyVal :=
  publicEventPayload "resource" (publicRef ["resource", resource.resourceId]) resource.label
    "adjusted" "adjusted"
    ("资源「" ++ resource.label ++ "」调整 " ++ args.delta.text ++ " " ++ resource.unit ++ "。")
    [("name", .str resource.label), ("resource_type", .str resource.resourceType),
      ("unit", .str resource.unit), ("delta", .str args.delta.text),
      ("is_warning", .scalar (.bool args.warning)),
      ("transaction_id", .str args.transactionId)]
    [commitment "old_stock" true "库存精确值", commitment "new_stock" true "库存精确值",
      commitment "warning_threshold" true "预警阈值",
      commitment "reason_raw" (args.reason ≠ "") "调整原因不公开",
      commitment "actor" (!args.operator.isEmpty) "操作人属于隐私"]

end LiveOs.Procurement
