import LiveOs.Credit.Verify.Runs

/-!
# Calls under a used key

When a posted row carries the key of a call, the call either returns that row, exactly if the row
is the one the call asks for, or raises `DomainError`. Each service decides this by its own
lookups, before or after its checks on balances.
-/

namespace LiveOs.Credit

open Lib EventLedger

variable {ctx : Context} {env : CallEnv} {s s' : CreditState ctx} {T : CreditTransaction}
  {k : String} {key : Option String}

/-- The posted row that carries the key. -/
structure Keyed (s : CreditState ctx) (k : String) (T : CreditTransaction) : Prop where
  mem : T ∈ s.transactions.rows
  posted : T.status = .posted
  carries : T.idempotencyKey = some k

namespace Keyed

theorem of_transactions (h : Keyed s k T) (ht : s'.transactions = s.transactions) :
    Keyed s' k T := ⟨by rw [ht]; exact h.mem, h.posted, h.carries⟩

theorem unique (h : Keyed s k T) {t : CreditTransaction} (ht : t ∈ s.transactions.rows)
    (hk : t.idempotencyKey = some k) : t = T :=
  s.transactions.eq_of_alt ht h.mem hk h.carries

theorem findPosted (h : Keyed s k T) : findPosted s (some k) = some T := by
  refine Table.first?_of_unique h.mem ?_ ?_
  · simp [h.carries, h.posted]
  · intro t ht hp
    simp only [Bool.and_eq_true, decide_eq_true_eq] at hp
    exact h.unique ht hp.1

theorem findPostedOfType (h : Keyed s k T) (txnType : TxnType) :
    findPostedOfType s (some k) txnType = if T.transactionType = txnType then some T else none := by
  by_cases hty : T.transactionType = txnType
  · rw [if_pos hty]
    refine Table.first?_of_unique h.mem ?_ ?_
    · simp [h.carries, h.posted, hty]
    · intro t ht hp
      simp only [Bool.and_eq_true, decide_eq_true_eq] at hp
      exact h.unique ht hp.1.1
  · rw [if_neg hty]
    refine Table.first?_eq_none.2 fun t ht => ?_
    rw [Bool.eq_false_iff]
    intro hp
    simp only [Bool.and_eq_true, decide_eq_true_eq] at hp
    rw [h.unique ht hp.1.1] at hp
    exact hty hp.1.2

/-- A found or new row carries the key afterwards. -/
theorem of_write (hkey : key = some k) (h : Reused s s' key T ∨ Created s s' key T) :
    Keyed s' k T := by
  refine ⟨write_mem h, h.elim (fun hr => hr.posted) fun hc => hc.posted, ?_⟩
  rcases h with hr | hc
  · obtain ⟨k', hk', hcarries⟩ := hr.carries
    rw [hcarries, ← hk', hkey]
  · rw [hc.carries, hkey]

end Keyed

theorem post_checks {args : PostArgs} {txnType : TxnType} (h : Keyed s k T)
    (hkey : normaliseIdemKey args.idempotencyKey = some k)
    (hty : TxnType.ofValue? args.transactionType = some txnType) :
    Checks (postCreditTransaction env s args)
      (0 < args.amount ∧ RowIs T txnType args.amount args.sourceAccount args.targetAccount ∧
        T.relatedTask = args.relatedTask ∧ T.relatedLedgerEntry = args.relatedLedgerEntry)
      (s, T) := by
  unfold postCreditTransaction
  simp only [hty, hkey, h.findPosted]
  refine ((Checks.rejectIf _ _).bind
    ((assertIdempotentMatch_checks _).bind (Checks.ok (s, T)))).of_iff ?_
  rw [not_le, and_true, matchFields_ok]

variable {amount : Int} {task reason : String} {initiatedBy : Option Nat}

theorem issue_checks {initiator reviewer : Nat} (hacc : AccountsOk ctx s.accounts)
    (h : Keyed s k T) (hkey : normaliseIdemKey key = some k) :
    Checks (issueCreditsToPool env s amount reason initiator reviewer key)
      (0 < amount ∧ RowIs T .issuance amount none (some (systemAccountId .issuancePool)) ∧
        T.relatedTask = none ∧ T.relatedLedgerEntry = none) (s, T) := by
  unfold issueCreditsToPool
  rw [pool_eq hacc (by decide), ok_bind]
  exact post_checks h hkey (TxnType.ofValue?_value .issuance)

theorem lock_checks (hacc : AccountsOk ctx s.accounts) (h : Keyed s k T)
    (hkey : normaliseIdemKey key = some k) :
    Checks (lockTaskCreditBudget env s task amount reason initiatedBy key)
      (RowIs T .lock amount (some (systemAccountId .issuancePool))
        (some (systemAccountId .taskLocked)) ∧ T.relatedTask = some task) (s, T) := by
  unfold lockTaskCreditBudget
  simp only [findPool_eq hacc (show AccountType.issuancePool ≠ .member by decide),
    findPool_eq hacc (show AccountType.taskLocked ≠ .member by decide), hkey, h.findPostedOfType]
  by_cases hty : T.transactionType = .lock
  · rw [if_pos hty]
    refine ((assertIdempotentMatch_checks _).bind (Checks.ok (s, T))).of_iff ?_
    simp only [List.forall_mem_cons, decide_eq_true_eq, List.not_mem_nil, false_imp_iff,
      implies_true, and_true]
    constructor
    · rintro ⟨h₁, h₂, h₃, h₄, h₅⟩
      exact ⟨⟨h₁, h₂, h₃, h₄⟩, h₅⟩
    · rintro ⟨⟨h₁, h₂, h₃, h₄⟩, h₅⟩
      exact ⟨h₁, h₂, h₃, h₄, h₅⟩
  · -- the key belongs to a row of another type, which the posting core refuses
    rw [if_neg hty]
    refine ((Checks.rejectIf _ _).bind (post_checks h ?_ (TxnType.ofValue?_value .lock))).of_iff
      (iff_of_false (fun hp => hty hp.2.2.1.transactionType) fun hp => hty hp.1.transactionType)
    rw [← hkey, normaliseIdemKey_normaliseIdemKey]

theorem unlock_checks (hacc : AccountsOk ctx s.accounts) (h : Keyed s k T)
    (hkey : normaliseIdemKey key = some k) :
    Checks (unlockUnusedTaskCreditBudget env s task amount reason initiatedBy key)
      (RowIs T .unlock amount (some (systemAccountId .taskLocked))
        (some (systemAccountId .issuancePool)) ∧ T.relatedTask = some task) (s, T) := by
  unfold unlockUnusedTaskCreditBudget
  simp only [pool_eq hacc (show AccountType.issuancePool ≠ .member by decide), ok_bind,
    pool_eq hacc (show AccountType.taskLocked ≠ .member by decide), hkey, h.findPostedOfType]
  by_cases hty : T.transactionType = .unlock
  · rw [if_pos hty]
    refine ((assertIdempotentMatch_checks _).bind (Checks.ok (s, T))).of_iff ?_
    simp only [List.forall_mem_cons, decide_eq_true_eq, List.not_mem_nil, false_imp_iff,
      implies_true, and_true]
    constructor
    · rintro ⟨h₁, h₂, h₃, h₄, h₅⟩
      exact ⟨⟨h₁, h₂, h₃, h₄⟩, h₅⟩
    · rintro ⟨⟨h₁, h₂, h₃, h₄⟩, h₅⟩
      exact ⟨h₁, h₂, h₃, h₄, h₅⟩
  · rw [if_neg hty]
    simp only [taskLockedCreditBalance,
      pool_eq hacc (show AccountType.taskLocked ≠ .member by decide), ok_bind]
    refine ((Checks.rejectIf _ _).bind (post_checks h ?_ (TxnType.ofValue?_value .unlock))).of_iff
      (iff_of_false (fun hp => hty hp.2.2.1.transactionType) fun hp => hty hp.1.transactionType)
    rw [← hkey, normaliseIdemKey_normaliseIdemKey]

theorem transfer_checks {fromMember toMember : Nat} (hacc : AccountsOk ctx s.accounts)
    (h : Keyed s k T) (hkey : normaliseIdemKey key = some k) : ∃ s', Grown s s' ∧
    Checks (transferMemberCredits env s fromMember toMember amount reason initiatedBy key)
      ((0 < amount ∧ fromMember ≠ toMember) ∧ RowIs T .transfer amount
        (some (memberAccountId ctx fromMember)) (some (memberAccountId ctx toMember))) (s', T) := by
  obtain ⟨a₁, hfrom, hg₁, -⟩ := getOrCreateMember_ok hacc.known fromMember
  obtain ⟨a₂, hto, hg₂, -⟩ :=
    getOrCreateMember_ok (s := { s with accounts := a₁ }) hg₁.known toMember
  have g₁ : Grown s { s with accounts := a₁ } := ⟨hg₁, rfl, rfl, rfl, rfl⟩
  refine ⟨{ s with accounts := a₂ }, g₁.trans ⟨hg₂, rfl, rfl, rfl, rfl⟩, ?_⟩
  have h₂ : Keyed { s with accounts := a₂ } k T := h.of_transactions rfl
  unfold transferMemberCredits
  simp only [hfrom, hto, ok_bind, hkey, h₂.findPostedOfType]
  by_cases hty : T.transactionType = .transfer
  · rw [if_pos hty]
    refine ((Checks.rejectIf _ _).bind ((Checks.rejectIf _ _).bind
      ((assertIdempotentMatch_checks _).bind
        (Checks.ok ({ s with accounts := a₂ }, T))))).of_iff ?_
    simp only [List.forall_mem_cons, decide_eq_true_eq, List.not_mem_nil, false_imp_iff,
      implies_true, and_true, not_le, and_assoc]
    constructor
    · rintro ⟨hpos, hne, h₁, h₂, h₃, h₄⟩
      exact ⟨hpos, hne, h₁, h₂, h₃, h₄⟩
    · rintro ⟨hpos, hne, h₁, h₂, h₃, h₄⟩
      exact ⟨hpos, hne, h₁, h₂, h₃, h₄⟩
  · rw [if_neg hty]
    exact ((Checks.rejectIf _ _).bind ((Checks.rejectIf _ _).bind ((Checks.rejectIf _ _).bind
      ((Checks.rejectIf _ _).bind
        (post_checks h₂ hkey (TxnType.ofValue?_value .transfer)))))).of_iff
      (iff_of_false (fun hp => hty hp.2.2.2.2.2.1.transactionType)
        fun hp => hty hp.2.transactionType)

theorem deduct_checks {member : Nat} (hacc : AccountsOk ctx s.accounts) (h : Keyed s k T)
    (hkey : normaliseIdemKey key = some k) : ∃ s', Grown s s' ∧
    Checks (passiveDeductMemberCredits env s member amount reason initiatedBy key)
      (0 < amount ∧ RowIs T .correction amount (some (memberAccountId ctx member))
        (some (systemAccountId .burn)) ∧ T.relatedTask = none ∧ T.relatedLedgerEntry = none)
      (s', T) := by
  obtain ⟨accounts, hmember, hg, -⟩ := getOrCreateMember_ok hacc.known member
  refine ⟨{ s with accounts := accounts }, ⟨hg, rfl, rfl, rfl, rfl⟩, ?_⟩
  have h₁ : Keyed { s with accounts := accounts } k T := h.of_transactions rfl
  unfold passiveDeductMemberCredits
  simp only [hmember, ok_bind, pool_eq (s := { s with accounts := accounts }) (hacc.grow hg)
    (show AccountType.burn ≠ .member by decide)]
  refine ((Checks.rejectIf _ _).bind
    (post_checks h₁ hkey (TxnType.ofValue?_value .correction))).of_iff ?_
  rw [not_le]
  exact ⟨And.right, fun hp => ⟨hp.1, hp⟩⟩

/-- A key carried by another row stops a reversal. -/
theorem reverse_raises {original : CreditTransaction} (h : Keyed s k T)
    (hkey : normaliseIdemKey key = some k) (mem : original ∈ s.transactions.rows)
    (hne : ¬ RowIs T .reversal original.amount original.targetAccount original.sourceAccount) :
    Raises (reverseCreditTransaction env s original.transactionId reason initiatedBy key) := by
  unfold reverseCreditTransaction
  rw [Table.get?_eq_some.2 ⟨mem, rfl⟩]
  refine (Checks.rejectIf _ _).raises_bind (Raises.bind ?_)
  refine Checks.raises (post_checks h hkey (TxnType.ofValue?_value .reversal)) ?_
  exact fun hp => hne hp.2.1

/-! ## Creating an order under a used key -/

/-- A row that freezes the credits of the order. -/
def LeadsTo (T : CreditTransaction) (order : RedemptionOrder) : Prop :=
  order.orderId ≠ "" ∧ ∃ value, T.metadata = orderMetadata order.orderId "item_type" value

theorem metadataOrderId_orderMetadata (rt : Runtime) {orderId : String} (hid : orderId ≠ "")
    (key value : String) :
    metadataOrderId rt (orderMetadata orderId key value) = .ok (some orderId) := by
  have htruthy : (PyVal.str orderId).truthy = true := by simpa [PyVal.truthy] using hid
  have hget : dictGet (orEmptyDict (orderMetadata orderId key value).toPy) "order_id" (.str "") =
      .ok (.str orderId) := rfl
  rw [metadataOrderId, hget, ok_bind, if_pos htruthy]
  rfl

theorem findCreatedOrder_eq {order : RedemptionOrder} (h : Keyed s k T)
    (hty : T.transactionType = .consume) (mem : order ∈ s.orders.rows) (hl : LeadsTo T order) :
    findCreatedOrder s (some k) = .ok (some (order, T)) := by
  obtain ⟨hid, value, hmeta⟩ := hl
  have hget : s.orders.get? order.orderId = some order := Table.get?_eq_some.2 ⟨mem, rfl⟩
  rw [findCreatedOrder, h.findPostedOfType, if_pos hty]
  simp only [hmeta, metadataOrderId_orderMetadata ctx.rt hid, ok_bind]
  rw [Option.bind_some, hget]
  rfl

theorem findCreatedOrder_none (h : Keyed s k T) (hty : T.transactionType ≠ .consume) :
    findCreatedOrder s (some k) = .ok none := by
  rw [findCreatedOrder, h.findPostedOfType, if_neg hty]

theorem checkMerchant_checks (merchant : Option MerchantProfile) :
    Checks (checkMerchant merchant) (checkMerchant merchant = .ok ()) () := by
  cases merchant with
  | none => exact .inl ⟨rfl, rfl⟩
  | some merchant =>
    refine ((Checks.rejectIf _ _).bind ((Checks.rejectIf _ _).bind
      (Checks.rejectIf _ _))).of_iff ?_
    rw [checkMerchant, rejectIf_bind_eq_ok, rejectIf_bind_eq_ok, rejectIf_eq_ok]

/-- The arguments of a call that returns the order and the row. -/
def AsksFor (ctx : Context) (args : CreateOrderArgs) (order : RedemptionOrder)
    (T : CreditTransaction) : Prop :=
  0 < args.creditAmount ∧ ∃ itemType, ItemType.ofValue? args.itemType = some itemType ∧
    checkMerchant args.merchant = .ok () ∧ FreezesFor ctx args T ∧ TermsAgree args itemType order

theorem create_checks {args : CreateOrderArgs} {order : RedemptionOrder}
    (hacc : AccountsOk ctx s.accounts) (h : Keyed s k T)
    (hkey : normaliseIdemKey args.idempotencyKey = some k) (hty : T.transactionType = .consume)
    (mem : order ∈ s.orders.rows) (hl : LeadsTo T order) : ∃ s', Grown s s' ∧
      Checks (createRedemptionOrder env s args) (AsksFor ctx args order T) (s', order, T) := by
  unfold createRedemptionOrder AsksFor
  cases hitem : ItemType.ofValue? args.itemType with
  | none =>
    refine ⟨s, Grown.refl hacc.known, .inr ⟨?_, (Checks.rejectIf _ _).raises_bind ⟨_, rfl⟩⟩⟩
    rintro ⟨-, itemType, hitem', -⟩
    cases hitem'
  | some itemType =>
    obtain ⟨s', hg, -, hsame⟩ := assertSameOrder_checks hacc itemType order T
    refine ⟨s', hg, ?_⟩
    simp only [hkey, findCreatedOrder_eq h hty mem hl, ok_bind]
    refine ((Checks.rejectIf _ _).bind ((checkMerchant_checks _).bind
      (hsame.bind (Checks.ok (s', order, T))))).of_iff ?_
    simp only [not_le, and_true, Option.some.injEq, exists_eq_left']

theorem checkSettlementRate_checks (merchant : Option MerchantProfile) :
    ∃ P, Checks (checkSettlementRate merchant) P () := by
  cases merchant with
  | none => exact ⟨True, Checks.ok ()⟩
  | some merchant => exact ⟨_, Checks.rejectIf _ _⟩

/-- The order of the call is found or placed, unless `DomainError` is raised. -/
theorem getOrCreateOrder_cases {args : CreateOrderArgs} (itemType : ItemType) (orderId : String)
    (hstore : (jsonStore (orEmptyDict args.itemSnapshot)).isSome) :
    Raises (getOrCreateOrder env s args itemType orderId) ∨ ∃ s' order,
      getOrCreateOrder env s args itemType orderId = .ok (s', order) ∧
        s'.transactions = s.transactions := by
  unfold getOrCreateOrder
  cases hget : s.orders.get? orderId with
  | some order =>
    by_cases hmember : order.member = args.member
    · refine .inr ⟨s, order, ?_, rfl⟩
      simp only [rejectIf_neg (not_not.2 hmember), ok_bind]
      rfl
    · exact .inl ((Checks.rejectIf _ _).bind (Checks.ok (s, order)) |>.raises fun hp =>
        hp.1 hmember)
  | none =>
    obtain ⟨snapshot, hsnapshot⟩ := Option.isSome_iff_exists.1 hstore
    obtain ⟨orders, hins, -⟩ := Table.insert_of_fresh (e := Error.integrity) (t := s.orders)
      (r := newOrder env args itemType orderId snapshot) (Table.get?_eq_none.1 hget)
      (fun _ h => by cases h)
    refine .inr ⟨{ s with orders := orders }, newOrder env args itemType orderId snapshot, ?_, rfl⟩
    simp only [hsnapshot, hins, ok_bind]
    rfl

/-- A key of a row of another type stops a new order, whose snapshot can be stored. -/
theorem create_raises {args : CreateOrderArgs} (hacc : AccountsOk ctx s.accounts)
    (h : Keyed s k T) (hkey : normaliseIdemKey args.idempotencyKey = some k)
    (hty : T.transactionType ≠ .consume)
    (hstore : (jsonStore (orEmptyDict args.itemSnapshot)).isSome) :
    Raises (createRedemptionOrder env s args) := by
  unfold createRedemptionOrder
  refine (Checks.rejectIf _ _).raises_bind ?_
  cases hitem : ItemType.ofValue? args.itemType with
  | none => exact ⟨_, rfl⟩
  | some itemType =>
    refine (checkMerchant_checks _).raises_bind ?_
    simp only [hkey, findCreatedOrder_none h hty, ok_bind]
    obtain ⟨P, hrate⟩ := checkSettlementRate_checks args.merchant
    refine hrate.raises_bind ?_
    obtain ⟨accounts, hmember, hg, -⟩ := getOrCreateMember_ok hacc.known args.member
    have h₁ : Keyed { s with accounts := accounts } k T := h.of_transactions rfl
    simp only [hmember, ok_bind]
    refine (Checks.rejectIf _ _).raises_bind ((Checks.rejectIf _ _).raises_bind ?_)
    simp only [pool_eq (s := { s with accounts := accounts }) (hacc.grow hg)
      (show AccountType.frozen ≠ .member by decide), ok_bind, hkey]
    rcases getOrCreateOrder_cases (s := { s with accounts := accounts }) itemType
      (newOrderId ctx.rt env (some k)) hstore with hraises | ⟨s₂, order, horder, ht⟩
    · exact hraises.bind
    · rw [horder, ok_bind]
      refine Raises.bind (Checks.raises (post_checks (h₁.of_transactions ht)
        (normaliseIdemKey_some hkey) (TxnType.ofValue?_value .consume)) ?_)
      exact fun hp => hty hp.2.1.transactionType

end LiveOs.Credit
