import LiveOs.Files.Avatars

/-!
# Claims and payments with evidence

`submit_expense_claim` and `mark_expense_claim_paid` of `core/finance_services.py` with the evidence
they store, and the calls on both stores. The objects of a call are deleted again when its
transaction fails.
-/

namespace LiveOs.Finance

open Lib EventLedger Roles Files

variable {rt : Runtime}

/-- The category with the given value. -/
def ExpenseCategory.ofValue (value : String) : Option ExpenseCategory :=
  [.server, .aiUsage, .software, .operations, .other].find? fun c => c.value = value

/-- `value.quantize(Decimal("0.01"))` in hundredths: half to even. -/
def quantizeCents (value : Rat) : Int :=
  let cents := value * 100
  let rest := cents - cents.floor
  if rest < 1 / 2 then cents.floor
  else if 1 / 2 < rest then cents.floor + 1
  else if cents.floor % 2 = 0 then cents.floor
  else cents.floor + 1

/-- `_normalise_amount(amount)`, for the finite decimal that the amount reads as. -/
def normaliseAmount (amount : Option Rat) : Except Error Int :=
  match amount with
  | none => .error (.domain "报销金额格式无效。")
  | some value => do
    rejectIf (value ≤ 0) (.domain "报销金额必须大于 0。")
    return quantizeCents value

/-- `_normalise_expense_date(expense_date)` of a submission. -/
def submittedExpenseDate (env : FinanceEnv) (date : DateArg) : Except Error Nat := do
  let parse := fun text => do
    match ← env.parseDate text with
    | none => .error (.domain "支出日期格式无效。")
    | some day => .ok day
  match date with
  | .absent => parse ""
  | .date day => return day
  | .text value => parse value

/-- `_normalise_currency(currency)`. -/
def normaliseCurrency (files : FileRuntime) (currency : String) : Except Error String := do
  let value := files.upper (strip (if currency = "" then "CNY" else currency))
  rejectIf (value = "" ∨ 8 < value.length) (.domain "货币代码无效。")
  return value

/-- The arguments of a submission. -/
structure SubmitArgs where
  title : String
  amount : Option Rat
  currency : String := "CNY"
  expenseDate : DateArg
  category : String := "other"

/-- The checks of `_submit_expense_claim`, with the claim that it creates. -/
def checkedClaim (env : FilesEnv) (files : FileRuntime) (claimant : Member) (args : SubmitArgs)
    (pk : Nat) : Except Error ExpenseClaim := do
  rejectIf (claimant.status = .suspended || claimant.status = .exited)
    (.domain "成员状态已停用，不能提交报销申请。")
  match ExpenseCategory.ofValue args.category with
  | none => .error (.domain "报销类别无效。")
  | some category => do
    let amount ← normaliseAmount args.amount
    let _ ← submittedExpenseDate env.toFinanceEnv args.expenseDate
    let currency ← normaliseCurrency files args.currency
    return {
      pk := pk
      claimId := "expense-claim-" ++ env.hex
      claimantMember := claimant.pk
      title := args.title
      amount := amount
      currency := currency
      category := category
      status := .submitted }

/-- The checks and `ExpenseClaim.objects.create(...)`. -/
def createClaim (env : FilesEnv) (files : FileRuntime) (claimant : Member) (args : SubmitArgs)
    (db : FinanceDb rt) : Except Error (FinanceDb rt × ExpenseClaim) := do
  let claim ← checkedClaim env files claimant args
    (nextPk (db.claims.rows.map ExpenseClaim.pk))
  let claims ← db.claims.insert claim .integrity
  return ({ db with claims := claims }, claim)

/-- The events of `_submit_expense_claim`. -/
def announceClaim (env : FilesEnv) (claimant : Member) (claim : ExpenseClaim) (db : FinanceDb rt) :
    Except Error (FinanceDb rt × Unit) := do
  let db ← writePublicEvent db ("expense-claim-submitted-" ++ claim.claimId) "收到报销申请"
    (publicName claimant ++ " 提交报销《" ++ claim.title ++ "》" ++ amountText claim.amount ++ " " ++
      claim.currency ++ "。")
    (expenseClaimFacts claim claimant)
  let events ← db.events.append {
    eventType := "expense_claim_submitted"
    aggregateType := "ExpenseClaim"
    aggregateId := claim.claimId
    actorMember := some claimant.pk
    payloadJson := expenseClaimPayload claim claimant
    now := env.now }
  return ({ db with events := events }, ())

/-- The evidence of a call: where it is required or handed in, the attachments are created and added
to `created_links`. -/
def storeEvidence (env : FilesEnv) (files : FileRuntime) (fields : BatchFields)
    (uploads : Option (List Upload)) (requireEvidence : Bool) : FileService rt Unit :=
  if requireEvidence || uploads.isSome then do
    let links ← createExpenseAttachments env files fields (uploads.getD [])
    Service.sure fun o => .ok { o with createdLinks := o.createdLinks ++ links }
  else pure ()

/-- What `submit_expense_claim` and `mark_expense_claim_paid` do around their blocks. -/
def withEvidence {α : Type} (worldId : String) (body : FileService rt α) : FileService rt α := do
  Service.sure fun o => .ok { o with createdLinks := [] }
  Service.onError (Service.atomic body) (cleanupUncommittedExpenseAttachments worldId)

/-- `submit_expense_claim(...)`. -/
def submitExpenseClaim (env : FilesEnv) (files : FileRuntime) (claimant : Member)
    (args : SubmitArgs) (uploads : Option (List Upload)) (worldId : String)
    (requireEvidence : Bool) : FileService rt ExpenseClaim :=
  withEvidence worldId do
    let claim ← onFinance (createClaim env files claimant args)
    storeEvidence env files {
      claim := claim.pk
      uploadedBy := claimant.pk
      purpose := .expenseEvidence
      worldId := worldId } uploads requireEvidence
    onFinance (announceClaim env claimant claim)
    return claim

/-- `mark_expense_claim_paid(...)` with its evidence. -/
def markExpenseClaimPaidWithEvidence (env : FilesEnv) (files : FileRuntime) (claim : ExpenseClaim)
    (payer : Member) (paymentDate : DateArg) (paymentMethod note : String)
    (uploads : Option (List Upload)) (worldId : String) (requireEvidence : Bool) :
    FileService rt FinanceTransaction :=
  withEvidence worldId do
    let execution ← Service.check
      (executePayment env.toFinanceEnv claim payer paymentDate paymentMethod)
    let txn ← onFinance fun db =>
      recordPayment env.toFinanceEnv db claim payer execution note none
    storeEvidence env files {
      claim := claim.pk
      uploadedBy := payer.pk
      purpose := .paymentEvidence
      worldId := worldId
      paymentExecution := some ("payment-execution-" ++ env.executionHex) } uploads requireEvidence
    onFinance fun db => do
      let db ← closePayment env.toFinanceEnv db { claim with status := .paid } payer txn
      return (db, ())
    return txn

/-! ## Calls -/

/-- A call on the claims, the attachments or the avatars. -/
inductive FileCall where
  | submit (claimant : Member) (args : SubmitArgs) (uploads : Option (List Upload))
    (worldId : String) (requireEvidence : Bool)
  | markPaid (claim : ExpenseClaim) (payer : Member) (paymentDate : DateArg)
    (paymentMethod note : String) (uploads : Option (List Upload)) (worldId : String)
    (requireEvidence : Bool)
  | publishCopy (claim : ExpenseClaim) (sourceAttachment : Attachment) (uploadedBy : Member)
    (upload : Upload) (worldId : String)
  | correct (claim : ExpenseClaim) (replacedAttachment : Attachment) (uploadedBy : Member)
    (upload : Upload) (worldId : String)
  | replaceAvatar (member : Member) (worldId : String) (upload : Upload)
  | removeOwnAvatar (member : Member) (worldId : String)
  | removeAvatarAsAdministrator (actor target : Member) (worldId : String)

/-- The world of a call. -/
def FileCall.worldId : FileCall → String
  | .submit _ _ _ worldId _ => worldId
  | .markPaid _ _ _ _ _ _ worldId _ => worldId
  | .publishCopy _ _ _ _ worldId => worldId
  | .correct _ _ _ _ worldId => worldId
  | .replaceAvatar _ worldId _ => worldId
  | .removeOwnAvatar _ worldId => worldId
  | .removeAvatarAsAdministrator _ _ worldId => worldId

/-- What a call does; what it returns is dropped. -/
def FileCall.service (env : FilesEnv) (files : FileRuntime) : FileCall → FileService rt Unit
  | .submit claimant args uploads worldId requireEvidence => do
    let _ ← submitExpenseClaim env files claimant args uploads worldId requireEvidence
    return ()
  | .markPaid claim payer paymentDate paymentMethod note uploads worldId requireEvidence => do
    let _ ← markExpenseClaimPaidWithEvidence env files claim payer paymentDate paymentMethod note
      uploads worldId requireEvidence
    return ()
  | .publishCopy claim sourceAttachment uploadedBy upload worldId => do
    let _ ← publishExpenseAttachmentCopy env files claim sourceAttachment uploadedBy upload worldId
    return ()
  | .correct claim replacedAttachment uploadedBy upload worldId => do
    let _ ← correctExpenseAttachment env files claim replacedAttachment uploadedBy upload worldId
    return ()
  | .replaceAvatar member worldId upload => do
    let _ ← replaceOwnAvatar env files member worldId upload
    return ()
  | .removeOwnAvatar member worldId => do
    let _ ← Files.removeOwnAvatar env member worldId
    return ()
  | .removeAvatarAsAdministrator actor target worldId => do
    let _ ← Files.removeAvatarAsAdministrator env actor target worldId
    return ()

/-- The committed database and the two stores. -/
structure FilesState (rt : Runtime) where
  db : FilesDb rt
  attachments : ObjectStore
  avatars : ObjectStore

/-- A call with its surroundings and the failures injected into its steps. -/
structure FileStep (rt : Runtime) where
  env : FilesEnv
  faults : Faults Error (FilesDb rt)
  call : FileCall

/-- One call, outside every transaction. -/
def serveCall (files : FileRuntime) (s : FilesState rt) (c : FileStep rt) :
    Except Error Unit × FilesState rt :=
  let (result, _, site) := c.call.service c.env files c.faults
    ⟨s.db, ⟨s.attachments, s.avatars, [], []⟩, [], 0⟩
  (result, ⟨site.db, site.outside.attachments, site.outside.avatars⟩)

/-- A call as a step of the state: what a call that raises leaves behind stays. -/
def fileStep (files : FileRuntime) (s : FilesState rt) (c : FileStep rt) :
    Except Error (FilesState rt) :=
  .ok (serveCall files s c).2

end LiveOs.Finance
