import LiveOs.Finance.Services

/-!
# What the finance services do

One call either leaves the finance tables alone or writes the rows of its operation; a payment can
also fail after the backend has executed it. `sessionAfter_effect` lists the cases once.
-/

namespace LiveOs.Finance

open Lib EventLedger Roles

variable {rt : Runtime} {env : FinanceEnv} {db db' : FinanceDb rt}

/-- The claim rows after the given claim got a status. -/
def setStatus (pk : Nat) (status : ClaimStatus) (rows : List ExpenseClaim) : List ExpenseClaim :=
  rows.map fun c => if c.pk = pk then { c with status := status } else c

theorem mem_setStatus (pk : Nat) (status : ClaimStatus) {rows : List ExpenseClaim}
    {c : ExpenseClaim} (hc : c ∈ rows) :
    (if c.pk = pk then { c with status := status } else c) ∈ setStatus pk status rows :=
  List.mem_map_of_mem hc

theorem saveStatus_ok {claim : ExpenseClaim} (h : saveStatus db claim = .ok db') :
    db'.claims.rows = setStatus claim.pk claim.status db.claims.rows ∧
      db' = { db with claims := db'.claims } := by
  obtain ⟨-, h⟩ := rejectIf_bind_eq_ok.1 h
  obtain rfl := pure_eq_ok.1 h
  exact ⟨rfl, rfl⟩

theorem writePublicEvent_ok {eventId title summary : String} {payload : List (String × Json)}
    (h : writePublicEvent db eventId title summary payload = .ok db') :
    db'.publicEvents.rows = db.publicEvents.rows ++ [⟨eventId, title, summary, payload⟩] ∧
      (∀ e ∈ db.publicEvents.rows, e.eventId ≠ eventId) ∧
      db' = { db with publicEvents := db'.publicEvents } := by
  obtain ⟨publicEvents, hinsert, h⟩ := bind_eq_ok.1 h
  obtain rfl := pure_eq_ok.1 h
  obtain ⟨hrows, hfresh, -⟩ := Table.insert_ok hinsert
  exact ⟨hrows, hfresh, rfl⟩

/-- The tables after a recorded review. -/
structure Reviewed (db db' : FinanceDb rt) (claim : ExpenseClaim) (d : Decision) : Prop where
  claims : db'.claims.rows = setStatus claim.pk d.claimStatus db.claims.rows
  reviews : ∃ review : FinanceReview, review.claim = claim.pk ∧ review.decision = d ∧
    db'.reviews.rows = db.reviews.rows ++ [review]
  transactions : db'.transactions = db.transactions
  executions : db'.executions = db.executions
  publicEvents : ∃ e, db'.publicEvents.rows = db.publicEvents.rows ++ [e]

/-- The tables after a recorded payment. -/
structure Paid (db db' : FinanceDb rt) (claim : ExpenseClaim) : Prop where
  claims : db'.claims.rows = setStatus claim.pk .paid db.claims.rows
  reviews : db'.reviews = db.reviews
  transactions : ∃ txn : FinanceTransaction, txn.claim = some claim.pk ∧
    txn.transactionType = .reimbursement ∧ db'.transactions.rows = db.transactions.rows ++ [txn]
  executions : ∃ execution : PaymentExecution, execution.claim = claim.pk ∧
    db'.executions.rows = db.executions.rows ++ [execution]
  unpaid : ∀ e ∈ db.executions.rows, e.claim ≠ claim.pk
  publicEvents : ∃ e, db'.publicEvents.rows = db.publicEvents.rows ++ [e]

/-- The tables after a recorded withdrawal. -/
structure Withdrawn (db db' : FinanceDb rt) (claim : ExpenseClaim) : Prop where
  claims : db'.claims.rows = setStatus claim.pk .withdrawn db.claims.rows
  reviews : db'.reviews = db.reviews
  transactions : db'.transactions = db.transactions
  executions : db'.executions = db.executions
  publicEvents : ∃ e : PublicEvent, e.eventId = "expense-claim-withdrawn-" ++ claim.claimId ∧
    db'.publicEvents.rows = db.publicEvents.rows ++ [e]
  firstTime : ∀ e ∈ db.publicEvents.rows, e.eventId ≠ "expense-claim-withdrawn-" ++ claim.claimId

theorem recordReview_ok {claim : ExpenseClaim} {reviewer : Member} {d : Decision} {reason : String}
    {review : FinanceReview} (hstatus : claim.status = d.claimStatus)
    (h : recordReview env db claim reviewer d reason = .ok (db', review)) :
    Reviewed db db' claim d := by
  obtain ⟨db₁, hsave, h⟩ := bind_eq_ok.1 h
  obtain ⟨reviews, hinsert, h⟩ := bind_eq_ok.1 h
  obtain ⟨db₂, hwrite, h⟩ := bind_eq_ok.1 h
  obtain ⟨events, -, h⟩ := bind_eq_ok.1 h
  obtain ⟨rfl, rfl⟩ := Prod.mk.inj (pure_eq_ok.1 h)
  obtain ⟨hclaims, hdb₁⟩ := saveStatus_ok hsave
  obtain ⟨hpublic, -, hdb₂⟩ := writePublicEvent_ok hwrite
  obtain ⟨hreviews, -⟩ := Table.insert_ok hinsert
  rw [hdb₁] at hreviews hpublic hdb₂
  rw [hstatus] at hclaims
  rw [hdb₂]
  exact ⟨hclaims, ⟨_, rfl, rfl, hreviews⟩, rfl, rfl, ⟨_, hpublic⟩⟩

theorem recordWithdrawal_ok {claim : ExpenseClaim} {member : Member}
    (hstatus : claim.status = .withdrawn)
    (h : recordWithdrawal db claim member = .ok db') : Withdrawn db db' claim := by
  obtain ⟨db₁, hsave, h⟩ := bind_eq_ok.1 h
  obtain ⟨hclaims, hdb₁⟩ := saveStatus_ok hsave
  obtain ⟨hpublic, hfresh, hdb⟩ := writePublicEvent_ok h
  rw [hdb₁] at hpublic hfresh hdb
  rw [hstatus] at hclaims
  rw [hdb] at hpublic ⊢
  exact ⟨hclaims, rfl, rfl, rfl, ⟨_, rfl, hpublic⟩, hfresh⟩

/-- A payment writes its two rows first and closes the claim afterwards. -/
theorem recordPayment_closePayment_ok {claim : ExpenseClaim} {payer : Member}
    {execution : Execution} {note : String} {evidence : Option (Except Error Unit)}
    {txn : FinanceTransaction} {db₁ : FinanceDb rt}
    (h : recordPayment env db claim payer execution note evidence = .ok (db₁, txn))
    (h' : closePayment env db₁ { claim with status := .paid } payer txn = .ok db') : Paid db db' claim := by
  obtain ⟨transactions, htxn, h⟩ := bind_eq_ok.1 h
  obtain ⟨executions, hexec, h⟩ := bind_eq_ok.1 h
  obtain ⟨_, -, h⟩ := bind_eq_ok.1 h
  obtain ⟨rfl, rfl⟩ := Prod.mk.inj (pure_eq_ok.1 h)
  obtain ⟨db₂, hsave, h'⟩ := bind_eq_ok.1 h'
  obtain ⟨db₃, hwrite, h'⟩ := bind_eq_ok.1 h'
  obtain ⟨events, -, h'⟩ := bind_eq_ok.1 h'
  obtain rfl := pure_eq_ok.1 h'
  obtain ⟨htxns, -⟩ := Table.insert_ok htxn
  obtain ⟨hexecs, -, hunpaid⟩ := Table.insert_ok hexec
  obtain ⟨hclaims, hdb₂⟩ := saveStatus_ok hsave
  obtain ⟨hpublic, -, hdb₃⟩ := writePublicEvent_ok hwrite
  rw [hdb₂] at hpublic hdb₃
  rw [hdb₃]
  exact ⟨hclaims, rfl, ⟨_, rfl, rfl, htxns⟩, ⟨_, rfl, hexecs⟩,
    fun e he heq => hunpaid _ rfl e he (congrArg some heq), ⟨_, hpublic⟩⟩

/-- What a call can do to the tables and to the log of the payment backend. -/
inductive Effect (env : FinanceEnv) (w w' : Session rt) : ClaimCall → Prop
  | refused {c : ClaimCall} (db : w'.db = w.db) (payments : w'.payments = w.payments) :
    Effect env w w' c
  | reviewed {reviewer : Member} {decision reason : String} {d : Decision}
    (checks : reviewChecks env w.claim reviewer decision reason = .ok d)
    (rows : Reviewed w.db w'.db w.claim d) (payments : w'.payments = w.payments) :
    Effect env w w' (.review reviewer decision reason)
  | withdrawn {member : Member} (checks : withdrawChecks w.claim member = .ok ())
    (rows : Withdrawn w.db w'.db w.claim) (payments : w'.payments = w.payments) :
    Effect env w w' (.withdraw member)
  | executed {payer : Member} {paymentDate : DateArg} {paymentMethod note : String}
    {evidence : Option (Except Error Unit)} {execution : Execution}
    (checks : executePayment env w.claim payer paymentDate paymentMethod = .ok execution)
    (db : w'.db = w.db) (payments : w'.payments = w.payments ++ [execution.request]) :
    Effect env w w' (.markPaid payer paymentDate paymentMethod note evidence)
  | paid {payer : Member} {paymentDate : DateArg} {paymentMethod note : String}
    {evidence : Option (Except Error Unit)} {execution : Execution}
    (checks : executePayment env w.claim payer paymentDate paymentMethod = .ok execution)
    (rows : Paid w.db w'.db w.claim) (payments : w'.payments = w.payments ++ [execution.request]) :
    Effect env w w' (.markPaid payer paymentDate paymentMethod note evidence)

theorem sessionAfter_effect (env : FinanceEnv) (w : Session rt) (c : ClaimCall) :
    Effect env w (sessionAfter env w c) c := by
  cases c with
  | review reviewer decision reason =>
    rw [sessionAfter, reviewExpenseClaim]
    split
    · exact .refused rfl rfl
    · rename_i d hchecks
      dsimp only
      split
      · exact .refused rfl rfl
      · rename_i hrecord
        have hrows := recordReview_ok rfl hrecord
        exact .reviewed hchecks ⟨hrows.claims, hrows.reviews, hrows.transactions,
          hrows.executions, hrows.publicEvents⟩ rfl
  | withdraw member =>
    rw [sessionAfter, withdrawExpenseClaim]
    split
    · exact .refused rfl rfl
    · rename_i hchecks
      dsimp only
      split
      · exact .refused rfl rfl
      · rename_i hrecord
        have hrows := recordWithdrawal_ok rfl hrecord
        exact .withdrawn hchecks ⟨hrows.claims, hrows.reviews, hrows.transactions,
          hrows.executions, hrows.publicEvents, hrows.firstTime⟩ rfl
  | markPaid payer paymentDate paymentMethod note evidence =>
    rw [sessionAfter, markExpenseClaimPaid]
    split
    · exact .refused rfl rfl
    · rename_i execution hchecks
      dsimp only
      split
      · exact .executed hchecks rfl rfl
      · rename_i hrecord
        split
        · exact .executed hchecks rfl rfl
        · rename_i hclose
          exact .paid hchecks (recordPayment_closePayment_ok hrecord hclose) rfl

/-- A call changes nothing of its object but the status. -/
theorem sessionAfter_claim (env : FinanceEnv) (w : Session rt) (c : ClaimCall) :
    ∃ status, (sessionAfter env w c).claim = { w.claim with status := status } := by
  cases c with
  | review reviewer decision reason =>
    rw [sessionAfter, reviewExpenseClaim]
    split
    · exact ⟨_, rfl⟩
    · dsimp only
      split <;> exact ⟨_, rfl⟩
  | withdraw member =>
    rw [sessionAfter, withdrawExpenseClaim]
    split
    · exact ⟨_, rfl⟩
    · dsimp only
      split <;> exact ⟨_, rfl⟩
  | markPaid payer paymentDate paymentMethod note evidence =>
    rw [sessionAfter, markExpenseClaimPaid]
    split
    · exact ⟨_, rfl⟩
    · dsimp only
      split
      · exact ⟨_, rfl⟩
      · split <;> exact ⟨_, rfl⟩

/-- A payment is requested for the claim that its object names. -/
theorem executePayment_request {claim : ExpenseClaim} {payer : Member} {paymentDate : DateArg}
    {paymentMethod : String} {execution : Execution}
    (h : executePayment env claim payer paymentDate paymentMethod = .ok execution) :
    execution.request.claimId = claim.claimId := by
  obtain ⟨-, h⟩ := rejectIf_bind_eq_ok.1 h
  obtain ⟨-, h⟩ := rejectIf_bind_eq_ok.1 h
  obtain ⟨-, h⟩ := rejectIf_bind_eq_ok.1 h
  obtain ⟨date, -, h⟩ := bind_eq_ok.1 h
  obtain ⟨backend, -, h⟩ := bind_eq_ok.1 h
  obtain ⟨result, -, h⟩ := bind_eq_ok.1 h
  obtain ⟨-, h⟩ := rejectIf_bind_eq_ok.1 h
  obtain rfl := pure_eq_ok.1 h
  rfl

end LiveOs.Finance
