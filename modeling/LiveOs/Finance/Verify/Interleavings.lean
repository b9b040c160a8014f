import LiveOs.Finance.Verify.Services

/-!
# Interleaved clients of one claim

Clients load a claim and call the services with the object they hold, which may be older than the
stored row. As long as every call is timely, that is, its status check would also pass on the stored
row, the claim follows its life cycle and its reviews, transactions and payments account for its
status. Nothing in the services makes a call timely: two reviewers who loaded the same submitted
claim both decide it.
-/

namespace LiveOs.Finance

open Lib EventLedger Roles

variable {rt : Runtime} {env : FinanceEnv}

/-! ## The records of a claim -/

def reviewsOf (db : FinanceDb rt) (c : ExpenseClaim) : List FinanceReview :=
  db.reviews.rows.filter fun r => r.claim = c.pk

def reimbursementsOf (db : FinanceDb rt) (c : ExpenseClaim) : List FinanceTransaction :=
  db.transactions.rows.filter fun t => t.claim = some c.pk && t.transactionType = .reimbursement

def executionsOf (db : FinanceDb rt) (c : ExpenseClaim) : List PaymentExecution :=
  db.executions.rows.filter fun e => e.claim = c.pk

def paymentsOf (payments : List PaymentRequest) (c : ExpenseClaim) : List PaymentRequest :=
  payments.filter fun p => p.claimId = c.claimId

/-- The moves of the life cycle. -/
inductive Edge : ClaimStatus → ClaimStatus → Prop
  | approve : Edge .submitted .approved
  | reject : Edge .submitted .rejected
  | withdraw : Edge .submitted .withdrawn
  | pay : Edge .approved .paid

/-- A status that nothing leaves. -/
def ClaimStatus.Final (s : ClaimStatus) : Prop := s = .paid ∨ s = .withdrawn ∨ s = .rejected

theorem Edge.not_final {s s' : ClaimStatus} (h : Edge s s') : ¬ s.Final := by
  unfold ClaimStatus.Final
  cases h <;> simp

/-- The decision is the one that led to the status. -/
def Decision.Agrees : Decision → ClaimStatus → Prop
  | .approved, s => s = .approved ∨ s = .paid
  | .rejected, s => s = .rejected

/-- The records of a claim account for its status. -/
structure Consistent (w : FinanceWorld rt) (c : ExpenseClaim) : Prop where
  reviews : (reviewsOf w.db c).length ≤ 1
  agrees : ∀ r ∈ reviewsOf w.db c, r.decision.Agrees c.status
  paid : c.status = .paid ↔ (reimbursementsOf w.db c).length = 1 ∧
    (executionsOf w.db c).length = 1 ∧ (paymentsOf w.payments c).length = 1

/-- A claim just submitted, before any client has loaded it. -/
structure FreshlySubmitted (w : FinanceWorld rt) (c : ExpenseClaim) : Prop where
  stored : c ∈ w.db.claims.rows
  status : c.status = .submitted
  reviews : reviewsOf w.db c = []
  reimbursements : reimbursementsOf w.db c = []
  executions : executionsOf w.db c = []
  payments : paymentsOf w.payments c = []
  objects : ∀ client, w.objects client = none

/-- The status that lets a call through on the object is also the stored one; a payment is the
first that the backend executes for the claim. -/
def CallTimely (env : FinanceEnv) (object : ExpenseClaim) (payments : List PaymentRequest)
    (stored : ClaimStatus) : ClaimCall → Prop
  | .review reviewer decision reason =>
    ∀ d, reviewChecks env object reviewer decision reason = .ok d → stored.isOpen = true
  | .withdraw member =>
    withdrawChecks object member = .ok () → stored.isOpen = true ∨ stored = .withdrawn
  | .markPaid payer paymentDate paymentMethod _ _ =>
    ∀ execution, executePayment env object payer paymentDate paymentMethod = .ok execution →
      stored = .approved ∧ ∀ p ∈ payments, p.claimId ≠ object.claimId

/-- The step is timely as far as the claim with the given key is concerned. -/
def Timely (pk : Nat) (w : FinanceWorld rt) : Nat × ClientStep → Prop
  | (_, .load _) => True
  | (client, .call env c) => ∀ object, w.objects client = some object → object.pk = pk →
      ∀ stored ∈ w.db.claims.rows, stored.pk = pk →
        CallTimely env object w.payments stored.status c

/-! ## The invariant -/

/-- The decisions that led to a status. -/
def ClaimStatus.decisions : ClaimStatus → List Decision
  | .approved | .paid => [.approved]
  | .rejected => [.rejected]
  | .submitted | .underReview | .withdrawn => []

/-- How many payments a status stands for. -/
def ClaimStatus.payments (s : ClaimStatus) : Nat := if s = .paid then 1 else 0

structure Accounted (db : FinanceDb rt) (payments : List PaymentRequest) (c : ExpenseClaim) :
    Prop where
  stored : c ∈ db.claims.rows
  reviews : (reviewsOf db c).map FinanceReview.decision = c.status.decisions
  reimbursements : (reimbursementsOf db c).length = c.status.payments
  executions : (executionsOf db c).length = c.status.payments
  onePayment : (paymentsOf payments c).length ≤ 1
  paidFor : c.status = .paid → (paymentsOf payments c).length = 1
  withdrawn : c.status = .withdrawn →
    ∃ e ∈ db.publicEvents.rows, e.eventId = "expense-claim-withdrawn-" ++ c.claimId
  reviewable : c.status ≠ .underReview

/-- An accounted claim that is open is submitted. -/
theorem Accounted.submitted {db : FinanceDb rt} {payments : List PaymentRequest} {c : ExpenseClaim}
    (h : Accounted db payments c) (hopen : c.status.isOpen = true) : c.status = .submitted := by
  simp only [ClaimStatus.isOpen, Bool.or_eq_true, decide_eq_true_eq] at hopen
  exact hopen.resolve_right h.reviewable

theorem Accounted.consistent {w : FinanceWorld rt} {c : ExpenseClaim}
    (h : Accounted w.db w.payments c) : Consistent w c := by
  have hreviews := h.reviews
  have hcount := h.reimbursements
  refine ⟨?_, fun r hr => ?_, fun hpaid => ?_, fun hone => ?_⟩
  · rw [← List.length_map (f := FinanceReview.decision), hreviews]
    cases c.status <;> simp [ClaimStatus.decisions]
  · have hmem : r.decision ∈ c.status.decisions := hreviews ▸ List.mem_map_of_mem hr
    cases hs : c.status <;> rw [hs] at hmem <;> simp_all [ClaimStatus.decisions, Decision.Agrees]
  · rw [h.reimbursements, h.executions, hpaid]
    exact ⟨rfl, rfl, h.paidFor hpaid⟩
  · rw [hone.1, ClaimStatus.payments] at hcount
    by_contra hne
    rw [if_neg hne] at hcount
    omega

/-- Rows of other claims do not count. -/
theorem Accounted.congr {db db' : FinanceDb rt} {payments payments' : List PaymentRequest}
    {c : ExpenseClaim} (h : Accounted db payments c) (hstored : c ∈ db'.claims.rows)
    (hreviews : reviewsOf db' c = reviewsOf db c)
    (hreimbursements : reimbursementsOf db' c = reimbursementsOf db c)
    (hexecutions : executionsOf db' c = executionsOf db c)
    (hpayments : paymentsOf payments' c = paymentsOf payments c)
    (hpublic : ∀ e ∈ db.publicEvents.rows, e ∈ db'.publicEvents.rows) :
    Accounted db' payments' c where
  stored := hstored
  reviews := hreviews ▸ h.reviews
  reimbursements := hreimbursements ▸ h.reimbursements
  executions := hexecutions ▸ h.executions
  onePayment := hpayments ▸ h.onePayment
  paidFor := hpayments ▸ h.paidFor
  withdrawn hw := by
    obtain ⟨e, he, heq⟩ := h.withdrawn hw
    exact ⟨e, hpublic e he, heq⟩
  reviewable := h.reviewable

/-! ## One call -/

/-- The claim moved along its life cycle, or not at all. -/
def Moves (c c' : ExpenseClaim) : Prop :=
  c'.pk = c.pk ∧ c'.claimId = c.claimId ∧ (c'.status = c.status ∨ Edge c.status c'.status)

theorem Moves.refl (c : ExpenseClaim) : Moves c c := ⟨rfl, rfl, .inl rfl⟩

variable {w w' : Session rt} {c : ExpenseClaim}

theorem Reviewed.accounted {d : Decision} (rows : Reviewed w.db w'.db w.claim d)
    (hpayments : w'.payments = w.payments) (h : Accounted w.db w.payments c)
    (hopen : w.claim.pk = c.pk → c.status.isOpen = true) :
    ∃ c', Accounted w'.db w'.payments c' ∧ Moves c c' := by
  obtain ⟨review, hclaim, hdecision, hreviews⟩ := rows.reviews
  obtain ⟨event, hpublic⟩ := rows.publicEvents
  have hstored := mem_setStatus w.claim.pk d.claimStatus h.stored
  rw [← rows.claims] at hstored
  by_cases hpk : w.claim.pk = c.pk
  · have hsub := h.submitted (hopen hpk)
    rw [if_pos hpk.symm] at hstored
    refine ⟨{ c with status := d.claimStatus }, ?_, rfl, rfl, .inr ?_⟩
    · refine ⟨hstored, ?_, ?_, ?_, ?_, ?_, ?_, ?_⟩
      · have hnone : reviewsOf w.db c = [] := by
          have hmap := h.reviews
          rw [hsub] at hmap
          exact List.map_eq_nil_iff.1 hmap
        have happend : reviewsOf w'.db { c with status := d.claimStatus } =
            reviewsOf w.db c ++ [review] := by
          rw [reviewsOf, reviewsOf, hreviews, List.filter_append]
          simp [hclaim, hpk]
        rw [happend, hnone, List.nil_append, List.map_singleton, hdecision]
        cases d <;> rfl
      · have hzero := h.reimbursements
        rw [hsub] at hzero
        rw [reimbursementsOf, rows.transactions]
        exact hzero.trans (by cases d <;> rfl)
      · have hzero := h.executions
        rw [hsub] at hzero
        rw [executionsOf, rows.executions]
        exact hzero.trans (by cases d <;> rfl)
      · rw [hpayments]
        exact h.onePayment
      · cases d <;> intro hpaid <;> cases hpaid
      · cases d <;> intro hwithdrawn <;> cases hwithdrawn
      · cases d <;> intro hreview <;> cases hreview
    · rw [hsub]
      cases d with
      | approved => exact .approve
      | rejected => exact .reject
  · rw [if_neg (Ne.symm hpk)] at hstored
    refine ⟨c, h.congr hstored ?_ ?_ ?_ ?_ ?_, .refl c⟩
    · rw [reviewsOf, hreviews, List.filter_append]
      simp [hclaim, hpk, reviewsOf]
    · rw [reimbursementsOf, rows.transactions]
      rfl
    · rw [executionsOf, rows.executions]
      rfl
    · rw [hpayments]
    · rw [hpublic]
      exact fun e he => List.mem_append_left _ he

theorem Withdrawn.accounted (rows : Withdrawn w.db w'.db w.claim)
    (hpayments : w'.payments = w.payments) (h : Accounted w.db w.payments c)
    (hid : w.claim.pk = c.pk ↔ w.claim.claimId = c.claimId)
    (hopen : w.claim.pk = c.pk → c.status.isOpen = true ∨ c.status = .withdrawn) :
    ∃ c', Accounted w'.db w'.payments c' ∧ Moves c c' := by
  obtain ⟨event, heventId, hpublic⟩ := rows.publicEvents
  have hstored := mem_setStatus w.claim.pk .withdrawn h.stored
  rw [← rows.claims] at hstored
  by_cases hpk : w.claim.pk = c.pk
  · have hsub : c.status = .submitted := by
      rcases hopen hpk with hopen | hwithdrawn
      · exact h.submitted hopen
      · -- a second withdrawal would write the event of the first one again
        obtain ⟨e, he, heq⟩ := h.withdrawn hwithdrawn
        exact absurd (heq.trans (by rw [hid.1 hpk])) (rows.firstTime e he)
    rw [if_pos hpk.symm] at hstored
    refine ⟨{ c with status := .withdrawn }, ?_, rfl, rfl, .inr (hsub ▸ .withdraw)⟩
    refine ⟨hstored, ?_, ?_, ?_, ?_, (fun hs => by cases hs), fun _ => ⟨event, ?_, ?_⟩,
      (fun hs => by cases hs)⟩
    · have hnone := h.reviews
      rw [hsub] at hnone
      rw [reviewsOf, rows.reviews]
      exact hnone
    · have hzero := h.reimbursements
      rw [hsub] at hzero
      rw [reimbursementsOf, rows.transactions]
      exact hzero
    · have hzero := h.executions
      rw [hsub] at hzero
      rw [executionsOf, rows.executions]
      exact hzero
    · rw [hpayments]
      exact h.onePayment
    · rw [hpublic]
      exact List.mem_append_right _ (List.mem_singleton_self _)
    · rw [heventId, hid.1 hpk]
  · rw [if_neg (Ne.symm hpk)] at hstored
    refine ⟨c, h.congr hstored ?_ ?_ ?_ ?_ ?_, .refl c⟩
    · rw [reviewsOf, rows.reviews]
      rfl
    · rw [reimbursementsOf, rows.transactions]
      rfl
    · rw [executionsOf, rows.executions]
      rfl
    · rw [hpayments]
    · rw [hpublic]
      exact fun e he => List.mem_append_left _ he

/-- The backend has executed a payment for the claim of the object and nothing is written yet. -/
theorem Accounted.executed {request : PaymentRequest} (hrequest : request.claimId = w.claim.claimId)
    (h : Accounted w.db w.payments c) (hid : w.claim.pk = c.pk ↔ w.claim.claimId = c.claimId)
    (htimely : w.claim.pk = c.pk → c.status = .approved ∧
      ∀ p ∈ w.payments, p.claimId ≠ w.claim.claimId) :
    Accounted w.db (w.payments ++ [request]) c := by
  by_cases hpk : w.claim.pk = c.pk
  · obtain ⟨happroved, hfirst⟩ := htimely hpk
    have hnone : paymentsOf w.payments c = [] := by
      rw [paymentsOf, List.filter_eq_nil_iff]
      intro p hp
      rw [decide_eq_true_eq, ← hid.1 hpk]
      exact hfirst p hp
    have hone : paymentsOf (w.payments ++ [request]) c = [request] := by
      have hrow : request.claimId = c.claimId := hrequest.trans (hid.1 hpk)
      rw [paymentsOf] at hnone ⊢
      rw [List.filter_append, hnone]
      simp [hrow]
    refine { h with onePayment := ?_, paidFor := fun hpaid => ?_ }
    · rw [hone, List.length_singleton]
    · rw [hone, List.length_singleton]
  · refine h.congr h.stored rfl rfl rfl ?_ fun e he => he
    have hrow : request.claimId ≠ c.claimId := by
      rw [hrequest]
      exact fun heq => hpk (hid.2 heq)
    rw [paymentsOf, List.filter_append]
    simp [hrow, paymentsOf]

theorem Paid.accounted {request : PaymentRequest} (rows : Paid w.db w'.db w.claim)
    (hpayments : w'.payments = w.payments ++ [request]) (hrequest : request.claimId = w.claim.claimId)
    (h : Accounted w.db w.payments c) (hid : w.claim.pk = c.pk ↔ w.claim.claimId = c.claimId)
    (htimely : w.claim.pk = c.pk → c.status = .approved ∧
      ∀ p ∈ w.payments, p.claimId ≠ w.claim.claimId) :
    ∃ c', Accounted w'.db w'.payments c' ∧ Moves c c' := by
  obtain ⟨txn, htxn, htype, htxns⟩ := rows.transactions
  obtain ⟨execution, hexecution, hexecutions⟩ := rows.executions
  obtain ⟨event, hpublic⟩ := rows.publicEvents
  have hlog : Accounted w.db w'.payments c := hpayments ▸ h.executed hrequest hid htimely
  have hstored := mem_setStatus w.claim.pk .paid h.stored
  rw [← rows.claims] at hstored
  by_cases hpk : w.claim.pk = c.pk
  · obtain ⟨happroved, hfirst⟩ := htimely hpk
    rw [if_pos hpk.symm] at hstored
    refine ⟨{ c with status := .paid }, ?_, rfl, rfl, .inr (happroved ▸ .pay)⟩
    refine ⟨hstored, ?_, ?_, ?_, hlog.onePayment, fun _ => ?_, (fun hs => by cases hs),
      (fun hs => by cases hs)⟩
    · have hone := h.reviews
      rw [happroved] at hone
      rw [reviewsOf, rows.reviews]
      exact hone
    · have hzero := h.reimbursements
      rw [happroved] at hzero
      have hnone : reimbursementsOf w.db c = [] := List.length_eq_zero_iff.1 hzero
      rw [reimbursementsOf] at hnone ⊢
      rw [htxns, List.filter_append, hnone]
      simp [htxn, htype, hpk, ClaimStatus.payments]
    · have hnone : executionsOf w.db c = [] := by
        rw [executionsOf, List.filter_eq_nil_iff]
        intro e he
        rw [decide_eq_true_eq, ← hpk]
        exact rows.unpaid e he
      rw [executionsOf] at hnone ⊢
      rw [hexecutions, List.filter_append, hnone]
      simp [hexecution, hpk, ClaimStatus.payments]
    · have hrow : request.claimId = c.claimId := hrequest.trans (hid.1 hpk)
      have hle := hlog.onePayment
      have hmem : request ∈ paymentsOf w'.payments c := by
        rw [hpayments]
        exact List.mem_filter.2 ⟨List.mem_append_right _ (List.mem_singleton_self _), by simpa using hrow⟩
      have hpos := List.length_pos_of_mem hmem
      have hone : (paymentsOf w'.payments c).length = 1 := by omega
      exact hone
  · rw [if_neg (Ne.symm hpk)] at hstored
    refine ⟨c, hlog.congr hstored ?_ ?_ ?_ rfl ?_, .refl c⟩
    · rw [reviewsOf, rows.reviews]
      rfl
    · rw [reimbursementsOf, htxns, List.filter_append]
      simp [htxn, hpk, reimbursementsOf]
    · rw [executionsOf, hexecutions, List.filter_append]
      simp [hexecution, hpk, executionsOf]
    · rw [hpublic]
      exact fun e he => List.mem_append_left _ he

theorem Effect.accounted {call : ClaimCall} (heffect : Effect env w w' call)
    (h : Accounted w.db w.payments c) (hid : w.claim.pk = c.pk ↔ w.claim.claimId = c.claimId)
    (htimely : w.claim.pk = c.pk → CallTimely env w.claim w.payments c.status call) :
    ∃ c', Accounted w'.db w'.payments c' ∧ Moves c c' := by
  cases heffect with
  | refused hdb hpayments =>
    rw [hdb, hpayments]
    exact ⟨c, h, .refl c⟩
  | reviewed checks rows hpayments =>
    exact rows.accounted hpayments h fun hpk => htimely hpk _ checks
  | withdrawn checks rows hpayments =>
    exact rows.accounted hpayments h hid fun hpk => htimely hpk checks
  | executed checks hdb hpayments =>
    rw [hdb, hpayments]
    exact ⟨c, h.executed (executePayment_request checks) hid fun hpk => htimely hpk _ checks,
      .refl c⟩
  | paid checks rows hpayments =>
    exact rows.accounted hpayments (executePayment_request checks) h hid fun hpk =>
      htimely hpk _ checks

/-! ## Runs -/

/-- The claim is accounted for, and an object is one of the claim exactly when it names it. -/
structure Kept (w : FinanceWorld rt) (c : ExpenseClaim) : Prop where
  accounted : Accounted w.db w.payments c
  objects : ∀ client object, w.objects client = some object →
    (object.pk = c.pk ↔ object.claimId = c.claimId)

theorem FreshlySubmitted.kept {w : FinanceWorld rt} {c : ExpenseClaim}
    (h : FreshlySubmitted w c) : Kept w c := by
  refine ⟨⟨h.stored, ?_, ?_, ?_, ?_, ?_, ?_, ?_⟩, fun client object hobject => ?_⟩
  · rw [h.reviews, h.status]
    rfl
  · rw [h.reimbursements, h.status]
    rfl
  · rw [h.executions, h.status]
    rfl
  · rw [h.payments]
    exact Nat.zero_le _
  · intro hpaid
    rw [h.status] at hpaid
    cases hpaid
  · intro hwithdrawn
    rw [h.status] at hwithdrawn
    cases hwithdrawn
  · rw [h.status]
    intro hreview
    cases hreview
  · rw [h.objects client] at hobject
    cases hobject

/-- **One step of a client.** A timely step keeps the claim accounted for and moves it along its
life cycle. -/
theorem clientStep_kept {w w' : FinanceWorld rt} {c : ExpenseClaim} {step : Nat × ClientStep}
    (h : Kept w c) (htimely : Timely c.pk w step) (hstep : clientStep w step = .ok w') :
    ∃ c', Kept w' c' ∧ Moves c c' := by
  obtain ⟨client, step⟩ := step
  cases step with
  | load pk =>
    rw [clientStep] at hstep
    split at hstep
    · cases hstep
    · rename_i loaded hget
      obtain rfl := Except.ok.inj hstep
      obtain ⟨hloaded, -⟩ := Table.get?_eq_some.1 hget
      refine ⟨c, ⟨h.accounted, fun d object hobject => ?_⟩, .refl c⟩
      dsimp only at hobject
      rw [Function.update_apply] at hobject
      split at hobject
      · obtain rfl := Option.some.inj hobject
        refine ⟨fun hpk => ?_, fun hid => ?_⟩
        · rw [w.db.claims.eq_of_pk hloaded h.accounted.stored hpk]
        · rw [w.db.claims.eq_of_alt hloaded h.accounted.stored (congrArg some hid) rfl]
      · exact h.objects d object hobject
  | call env call =>
    rw [clientStep] at hstep
    split at hstep
    · cases hstep
    · rename_i object hobject
      obtain rfl := Except.ok.inj hstep
      have hid := h.objects client object hobject
      obtain ⟨c', haccounted, hpk, hclaimId, hmove⟩ :=
        (sessionAfter_effect env ⟨w.db, object, w.payments⟩ call).accounted h.accounted hid
          fun hpk => htimely object hobject hpk c h.accounted.stored rfl
      refine ⟨c', ⟨haccounted, fun d object' hobject' => ?_⟩, hpk, hclaimId, hmove⟩
      rw [hpk, hclaimId]
      dsimp only at hobject'
      rw [Function.update_apply] at hobject'
      split at hobject'
      · obtain rfl := Option.some.inj hobject'
        obtain ⟨status, hclaim⟩ := sessionAfter_claim env ⟨w.db, object, w.payments⟩ call
        rw [hclaim]
        exact hid
      · exact h.objects d object' hobject'

/-- The claim with the given key is kept. -/
def KeptAt (pk : Nat) (w : FinanceWorld rt) : Prop := ∃ c, c.pk = pk ∧ Kept w c

theorem clientStep_keptAt {pk : Nat} {w w' : FinanceWorld rt} {step : Nat × ClientStep}
    (h : KeptAt pk w) (htimely : Timely pk w step) (hstep : clientStep w step = .ok w') :
    KeptAt pk w' := by
  obtain ⟨c, rfl, hkept⟩ := h
  obtain ⟨c', hkept', hpk, -⟩ := clientStep_kept hkept htimely hstep
  exact ⟨c', hpk, hkept'⟩

/-- The row of the claim in a later world has the status it had, once that was final. -/
def StaysFinal (pk : Nat) (w w' : FinanceWorld rt) : Prop :=
  ∀ c ∈ w.db.claims.rows, c.pk = pk → c.status.Final →
    ∃ c' ∈ w'.db.claims.rows, c'.pk = pk ∧ c'.status = c.status

theorem clientStep_staysFinal {pk : Nat} {w w' : FinanceWorld rt} {step : Nat × ClientStep}
    (h : KeptAt pk w) (htimely : Timely pk w step) (hstep : clientStep w step = .ok w') :
    StaysFinal pk w w' := by
  intro c hc hpk hfinal
  obtain ⟨d, rfl, hkept⟩ := h
  obtain rfl := w.db.claims.eq_of_pk hc hkept.accounted.stored hpk
  obtain ⟨c', hkept', hpk', -, hmove⟩ := clientStep_kept hkept htimely hstep
  exact ⟨c', hkept'.accounted.stored, hpk',
    hmove.resolve_right fun hedge => hedge.not_final hfinal⟩

theorem staysFinal_trans {pk : Nat} (w₁ w₂ w₃ : FinanceWorld rt) (h : StaysFinal pk w₁ w₂)
    (h' : StaysFinal pk w₂ w₃) : StaysFinal pk w₁ w₃ := by
  intro c hc hpk hfinal
  obtain ⟨c₂, hc₂, hpk₂, hstatus₂⟩ := h c hc hpk hfinal
  obtain ⟨c₃, hc₃, hpk₃, hstatus₃⟩ := h' c₂ hc₂ hpk₂ (hstatus₂ ▸ hfinal)
  exact ⟨c₃, hc₃, hpk₃, hstatus₃.trans hstatus₂⟩

/-- What the life cycle of a claim promises of every world a run passes through. -/
def Reimbursement (c₀ : ExpenseClaim) (w₀ : FinanceWorld rt) (steps : List (Nat × ClientStep)) :
    Prop :=
  ∀ before after, steps = before ++ after →
    ∃ c ∈ (runCalls clientStep w₀ before).db.claims.rows, c.pk = c₀.pk ∧
      Consistent (runCalls clientStep w₀ before) c ∧
      (∀ step rest, after = step :: rest →
        ∃ c' ∈ (runCalls clientStep w₀ (before ++ [step])).db.claims.rows, c'.pk = c₀.pk ∧
          (c'.status = c.status ∨ Edge c.status c'.status)) ∧
      (c.status.Final → ∃ c' ∈ (runCalls clientStep w₀ steps).db.claims.rows,
        c'.pk = c₀.pk ∧ c'.status = c.status)

/-- **Reimbursement.** Whatever clients do with the objects they hold, a claim follows its life
cycle and its records account for its status as long as every call is timely. -/
theorem expenseClaim_reimbursement {w₀ : FinanceWorld rt} {c₀ : ExpenseClaim}
    (hfresh : FreshlySubmitted w₀ c₀) {steps : List (Nat × ClientStep)}
    (hsteps : EachCall clientStep (Timely c₀.pk) w₀ steps) : Reimbursement c₀ w₀ steps := by
  intro before after hsplit
  subst hsplit
  obtain ⟨hbefore, hafter⟩ := hsteps.of_append
  have hkept : KeptAt c₀.pk (runCalls clientStep w₀ before) :=
    hbefore.invariant (fun _ _ _ h ht hs => clientStep_keptAt h ht hs) ⟨c₀, rfl, hfresh.kept⟩
  obtain ⟨c, hpk, hkc⟩ := id hkept
  refine ⟨c, hkc.accounted.stored, hpk, hkc.accounted.consistent, fun step rest hrest => ?_,
    fun hfinal => ?_⟩
  · subst hrest
    rw [runCalls_append, runCalls_cons, runCalls_nil]
    cases hstep : clientStep (runCalls clientStep w₀ before) step with
    | error e =>
      rw [afterCall_error hstep]
      exact ⟨c, hkc.accounted.stored, hpk, .inl rfl⟩
    | ok w' =>
      rw [afterCall_ok hstep]
      obtain ⟨c', hkept', hpk', -, hmove⟩ := clientStep_kept hkc (hpk ▸ hafter.1) hstep
      exact ⟨c', hkept'.accounted.stored, hpk'.trans hpk, hmove⟩
  · rw [runCalls_append]
    have hstays := hafter.rel (R := StaysFinal c₀.pk) (fun _ c hc hpk _ => ⟨c, hc, hpk, rfl⟩)
      staysFinal_trans (fun _ _ _ h ht hs => clientStep_keptAt h ht hs)
      (fun _ _ _ h ht hs => clientStep_staysFinal h ht hs) hkept
    exact hstays c hkc.accounted.stored hpk hfinal

/-! ## Two reviewers -/

def approverMember : Member := ⟨21, "m-21", none, "", .active, []⟩

def claimantMember : Member := ⟨22, "m-22", none, "", .active, []⟩

def submittedClaim : ExpenseClaim :=
  ⟨23, "expense-claim-a", 22, "域名", 1200, "CNY", .server, .submitted⟩

def financeEnv (hex : String) : FinanceEnv where
  permits _ _ := true
  localDate := 0
  parseDate _ := .ok none
  paymentBackend := "liveos_manual"
  hex := hex
  executionHex := hex
  now := 0

def submittedWorld : FinanceWorld textRuntime where
  db := {
    claims := ⟨[submittedClaim], List.nodup_singleton _, List.nodup_singleton _⟩
    reviews := Table.empty
    transactions := Table.empty
    executions := Table.empty
    publicEvents := Table.empty
    events := Journal.empty }
  payments := []
  objects _ := none

theorem submittedWorld_fresh : FreshlySubmitted submittedWorld submittedClaim :=
  ⟨List.mem_singleton_self _, rfl, rfl, rfl, rfl, rfl, fun _ => rfl⟩

/-- One client approves the claim, another one rejects the object it loaded before. -/
def twoReviewers : List (Nat × ClientStep) := [
  (0, .load 23), (1, .load 23),
  (0, .call (financeEnv "a") (.review approverMember "approved" "")),
  (1, .call (financeEnv "b") (.review approverMember "rejected" "重复"))]

/-- The claim ends with both decisions. -/
theorem twoReviewers_twoDecisions : FreshlySubmitted submittedWorld submittedClaim ∧
    ¬ Reimbursement submittedClaim submittedWorld twoReviewers := by
  refine ⟨submittedWorld_fresh, fun h => ?_⟩
  obtain ⟨c, -, hpk, hconsistent, -⟩ := h twoReviewers [] (List.append_nil _).symm
  have htwo : ((runCalls clientStep submittedWorld twoReviewers).db.reviews.rows.filter
      fun r => r.claim = 23).length = 2 := by
    decide +kernel
  have hone := hconsistent.reviews
  rw [reviewsOf, hpk] at hone
  have hpk₀ : submittedClaim.pk = 23 := rfl
  rw [hpk₀, htwo] at hone
  omega

/-- One client reviews the claim and then pays it. -/
def reviewThenPay : List (Nat × ClientStep) := [
  (0, .load 23),
  (0, .call (financeEnv "a") (.review approverMember "approved" "")),
  (0, .call (financeEnv "b") (.markPaid approverMember .absent "bank" "" none))]

theorem reviewThenPay_reimbursement :
    Reimbursement submittedClaim submittedWorld reviewThenPay := by
  refine expenseClaim_reimbursement submittedWorld_fresh ⟨trivial, ?_, ?_, trivial⟩
  · intro object _ _ stored hstored _ d _
    have hopen : ∀ c ∈ (afterCall clientStep submittedWorld (0, .load 23)).db.claims.rows,
        c.status.isOpen = true := by
      decide +kernel
    exact hopen stored hstored
  · intro object hobject _ stored hstored _ execution _
    have happroved : ∀ c ∈ (runCalls clientStep submittedWorld
        (reviewThenPay.take 2)).db.claims.rows, c.status = .approved := by
      decide +kernel
    have hnone : (runCalls clientStep submittedWorld (reviewThenPay.take 2)).payments = [] := by
      decide +kernel
    refine ⟨happroved stored hstored, fun p hp => ?_⟩
    exact absurd (hnone ▸ hp) List.not_mem_nil

end LiveOs.Finance
