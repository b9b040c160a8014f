import LiveOs.Finance.Evidence
import LiveOs.Simulation.Model

/-!
# The amount of an expense claim

`_normalise_amount` of `core/finance_services.py` for everything that can be handed in as an amount,
and `submit_expense_claim` with it. What the evidence of the call comes to is a parameter.
-/

namespace LiveOs.Finance

open Lib EventLedger Roles Files
open Planning (Python)
open Procurement (PyDecimal)
open Simulation (Decimal)

variable {rt : Runtime}

/-- What a submission raises: an error of the services, or `decimal.InvalidOperation`. -/
inductive SubmitError where
  | raised (e : Error)
  | invalidOperation
deriving DecidableEq

/-- What is handed in as an amount. -/
inductive Amount where
  | int (i : Int)
  | float (f : PyFloat)
  | decimal (d : Decimal)
  | text (s : String)

/-- The decimals that can be built from a text: between `MIN_ETINY` and `MAX_EMAX`. -/
def representable : Decimal → Bool
  | .finite d =>
    d.exponent + (toString d.coefficient.natAbs).length - 1 ≤ 999999999999999999 &&
      -1999999999999999997 ≤ d.exponent
  | _ => true

/-- `Decimal(text)`. -/
def readDecimal (py : Python) (text : String) : Option Decimal :=
  (Decimal.ofText py text).filter representable

/-- `Decimal(str(amount))`; `none` where one of the two raises. The text of an integer has at most
4300 digits, and a decimal is read back from its own text. -/
def Amount.read (py : Python) : Amount → Option Decimal
  | .int i => if i.natAbs < 10 ^ 4300 then some (.finite ⟨i, 0⟩) else none
  | .float f => readDecimal py f.pyStr
  | .decimal d => some d
  | .text s => readDecimal py s

/-- `value.quantize(Decimal("0.01"))` in hundredths, in a context of 28 digits. -/
def quantizeHundredths (d : PyDecimal) : Except SubmitError Int :=
  let cents := (d.quantize 2).coefficient
  if cents.natAbs < 10 ^ 28 then .ok cents else .error .invalidOperation

/-- `_normalise_amount(amount)`, in hundredths. -/
def normaliseAmountOf (py : Python) (amount : Amount) : Except SubmitError Int :=
  match amount.read py with
  | none => .error (.raised (.domain "报销金额格式无效。"))
  | some value =>
    match value.order .zero with
    -- the comparison of a NaN stands outside the `try`
    | .error _ => .error .invalidOperation
    | .ok .gt =>
      match value with
      | .finite d => quantizeHundredths d
      | _ => .error .invalidOperation
    | .ok _ => .error (.raised (.domain "报销金额必须大于 0。"))

/-- `DecimalField(max_digits=12, decimal_places=2)`, when the row is written. -/
def fitsColumn (cents : Int) : Except SubmitError Unit :=
  if cents.natAbs < 10 ^ 12 then .ok () else .error .invalidOperation

/-- A step whose errors are those of the services. -/
def raising {α : Type} (r : Except Error α) : Except SubmitError α := r.mapError .raised

/-- The arguments of a submission. -/
structure ClaimArgs where
  title : String
  amount : Amount
  currency : String := "CNY"
  expenseDate : DateArg
  category : String := "other"

/-- The checks of `_submit_expense_claim` and `ExpenseClaim.objects.create(...)`. -/
def createClaimOf (env : FilesEnv) (files : FileRuntime) (py : Python) (claimant : Member)
    (args : ClaimArgs) (db : FinanceDb rt) :
    Except SubmitError (FinanceDb rt × ExpenseClaim) := do
  rejectIf (claimant.status = .suspended || claimant.status = .exited)
    (.raised (.domain "成员状态已停用，不能提交报销申请。"))
  match ExpenseCategory.ofValue args.category with
  | none => .error (.raised (.domain "报销类别无效。"))
  | some category => do
    let amount ← normaliseAmountOf py args.amount
    let _ ← raising (submittedExpenseDate env.toFinanceEnv args.expenseDate)
    let currency ← raising (normaliseCurrency files args.currency)
    fitsColumn amount
    let claim : ExpenseClaim := {
      pk := nextPk (db.claims.rows.map ExpenseClaim.pk)
      claimId := "expense-claim-" ++ env.hex
      claimantMember := claimant.pk
      title := args.title
      amount := amount
      currency := currency
      category := category
      status := .submitted }
    let claims ← raising (db.claims.insert claim .integrity)
    return ({ db with claims := claims }, claim)

/-- `_submit_expense_claim(...)`. -/
def submitBlock (env : FilesEnv) (files : FileRuntime) (py : Python) (claimant : Member)
    (args : ClaimArgs) (evidence : ExpenseClaim → Except Error Unit) (db : FinanceDb rt) :
    Except SubmitError (FinanceDb rt × ExpenseClaim) := do
  let (db, claim) ← createClaimOf env files py claimant args db
  raising (evidence claim)
  let (db, _) ← raising (announceClaim env claimant claim db)
  return (db, claim)

/-- `submit_expense_claim(...)`: what it returns, and the tables that it leaves. -/
def submitClaimOf (env : FilesEnv) (files : FileRuntime) (py : Python) (claimant : Member)
    (args : ClaimArgs) (evidence : ExpenseClaim → Except Error Unit) (db : FinanceDb rt) :
    Except SubmitError ExpenseClaim × FinanceDb rt :=
  match submitBlock env files py claimant args evidence db with
  | .ok (db', claim) => (.ok claim, db')
  | .error e => (.error e, db)

end LiveOs.Finance
