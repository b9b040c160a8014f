import LiveOs.Credit.Verify.Runs

/-!
# Orders and the frozen account

The frozen account holds the credits of the open orders, and every closed order has moved its
credits once, as long as no call reuses the row of another one: `cancel` and `fulfill` go on after
`post_credit_transaction` has returned a row that was there, whichever order it was written for.
-/

namespace LiveOs.Credit

open Lib EventLedger

variable {ctx : Context} {env : CallEnv} {s s' : CreditState ctx} {c : CreditCall}
  {order : RedemptionOrder} {t : CreditTransaction} {ty : TxnType}

/-! ## Closing rows -/

/-- The posted rows of a type that were written for an order. -/
def closings (s : CreditState ctx) (ty : TxnType) (orderId : String) : List CreditTransaction :=
  s.transactions.rows.filter fun t =>
    t.transactionType = ty && t.status = .posted && t.orderId? = some orderId

/-- The status an order gets with a row of the type. -/
def closeStatus : TxnType → Option OrderStatus
  | .unfreeze => some .cancelled
  | .burn => some .fulfilled
  | _ => none

/-- Where the credits of the order go with a row of the type. -/
def closeTarget (ctx : Context) (ty : TxnType) (order : RedemptionOrder) : String :=
  if ty = .unfreeze then memberAccountId ctx order.member else systemAccountId .burn

/-- The row takes the credits of the order from the frozen account. -/
def Closes (ctx : Context) (ty : TxnType) (order : RedemptionOrder) (t : CreditTransaction) :
    Prop :=
  RowIs t ty order.creditAmount (some (systemAccountId .frozen))
    (some (closeTarget ctx ty order))

instance (ty : TxnType) (order : RedemptionOrder) (t : CreditTransaction) :
    Decidable (Closes ctx ty order t) := inferInstanceAs (Decidable (RowIs ..))

/-- An order in the status of the type has one closing row, and any other order has none. -/
structure ClosedOnce (s : CreditState ctx) (ty : TxnType) (order : RedemptionOrder) : Prop where
  once : closeStatus ty = some order.status →
    ∃ t, closings s ty order.orderId = [t] ∧ Closes ctx ty order t
  never : closeStatus ty ≠ some order.status → (closeStatus ty).isSome →
    closings s ty order.orderId = []

theorem closings_of_transactions (h : s'.transactions = s.transactions) (ty : TxnType)
    (orderId : String) : closings s' ty orderId = closings s ty orderId := by
  rw [closings, closings, h]

/-- A row that was not written for the order, or is of another type, does not close it. -/
theorem closings_of_other (hrows : s'.transactions.rows = s.transactions.rows ++ [t])
    {orderId : String} (h : t.transactionType = ty → t.orderId? ≠ some orderId) :
    closings s' ty orderId = closings s ty orderId := by
  have hfalse : (decide (t.transactionType = ty) && decide (t.status = .posted) &&
      decide (t.orderId? = some orderId)) = false := by
    by_cases hty : t.transactionType = ty
    · simp [h hty]
    · simp [hty]
  rw [closings, closings, hrows, List.filter_append, List.filter_cons_of_neg (by simp [hfalse]),
    List.filter_nil, List.append_nil]

theorem closings_of_row (hrows : s'.transactions.rows = s.transactions.rows ++ [t])
    {orderId : String} (hty : t.transactionType = ty) (hposted : t.status = .posted)
    (hid : t.orderId? = some orderId) :
    closings s' ty orderId = closings s ty orderId ++ [t] := by
  rw [closings, closings, hrows, List.filter_append,
    List.filter_cons_of_pos (by simp [hty, hposted, hid]), List.filter_nil]

/-! ## The invariant -/

/-- The amount of the open orders. -/
def openAmount (s : CreditState ctx) : Int :=
  sumWhere RedemptionOrder.creditAmount (fun o => o.IsOpen) s.orders.rows

/-- What holds of orders and ledger after every call. -/
structure OrderInv (s : CreditState ctx) : Prop where
  balance : creditBalance s (systemAccountId .frozen) = openAmount s
  closed : ∀ o ∈ s.orders.rows, ∀ ty, ClosedOnce s ty o
  known : ∀ t ∈ s.transactions.rows, (closeStatus t.transactionType).isSome →
    ∃ o ∈ s.orders.rows, t.orderId? = some o.orderId

theorem OrderInv.of_tables (h : OrderInv s) (ht : s'.transactions = s.transactions)
    (ho : s'.orders = s.orders) : OrderInv s' := by
  refine ⟨?_, ?_, ?_⟩
  · simp only [creditBalance, postedSum_of_transactions ht]
    rw [openAmount, ho]
    exact h.balance
  · intro o hmem ty
    rw [ho] at hmem
    have hc := h.closed o hmem ty
    exact ⟨by rw [closings_of_transactions ht]; exact hc.once,
      by rw [closings_of_transactions ht]; exact hc.never⟩
  · rw [ht, ho]
    exact h.known

/-- A row away from the frozen account, of a type that closes nothing. -/
theorem OrderInv.enter {key : Option String} (h : OrderInv s) (hc : Created s s' key t)
    (hsource : t.sourceAccount ≠ some (systemAccountId .frozen))
    (htarget : t.targetAccount ≠ some (systemAccountId .frozen))
    (hty : closeStatus t.transactionType = none) : OrderInv s' := by
  refine ⟨?_, ?_, ?_⟩
  · rw [creditBalance_of_rows hc.rows hc.posted, if_neg hsource, if_neg htarget, openAmount,
      hc.orders, add_zero, sub_zero]
    exact h.balance
  · intro o hmem ty
    rw [hc.orders] at hmem
    have hclosed := h.closed o hmem ty
    by_cases htyeq : t.transactionType = ty
    · subst htyeq
      refine ⟨fun h => ?_, fun _ h => ?_⟩
      · rw [hty] at h; cases h
      · rw [hty] at h; cases h
    · have hsame : closings s' ty o.orderId = closings s ty o.orderId :=
        closings_of_other hc.rows fun heq => absurd heq htyeq
      exact ⟨by rw [hsame]; exact hclosed.once, by rw [hsame]; exact hclosed.never⟩
  · intro u hu hcloses
    rw [hc.rows] at hu
    rw [hc.orders]
    rcases List.mem_append.1 hu with hu | hu
    · exact h.known u hu hcloses
    · rw [List.mem_singleton.1 hu, hty] at hcloses
      cases hcloses

/-- Rows entered without an order stay away from the frozen account. -/
theorem Entry.notFrozen (h : Entry s t c) : t.sourceAccount ≠ some (systemAccountId .frozen) ∧
    t.targetAccount ≠ some (systemAccountId .frozen) ∧ closeStatus t.transactionType = none := by
  cases h with
  | @reward _ _ _ _ _ _ genesis row =>
    cases genesis <;> simp [row.source, row.target, row.transactionType, closeStatus, rewardSource]
  | issue row | lock row | unlock row | transfer row | deduct row =>
    simp [row.source, row.target, row.transactionType, closeStatus]

/-! ## Orders that are placed and closed -/

theorem RedemptionOrder.IsOpen.closeStatus_ne (h : order.IsOpen) (ty : TxnType) :
    closeStatus ty ≠ some order.status := by
  intro heq
  rcases h with h | h
  · rw [h] at heq
    cases ty <;> cases heq
  · rw [h] at heq
    cases ty <;> cases heq

/-- A new order with the row that freezes its credits. -/
theorem OrderInv.placed {s₁ : CreditState ctx} {key : Option String} {source : String}
    (h : OrderInv s) (hp : OrderPlaced s s₁ order) (hopen : order.status = .pending)
    (hc : Created s₁ s' key t)
    (row : RowIs t .consume order.creditAmount (some source) (some (systemAccountId .frozen)))
    (hsource : source ≠ systemAccountId .frozen) : OrderInv s' := by
  have hrows : s'.transactions.rows = s.transactions.rows ++ [t] := by
    rw [hc.rows, hp.transactions]
  have horders : s'.orders.rows = s.orders.rows ++ [order] := by rw [hc.orders, hp.orders]
  have hsame : ∀ ty orderId, (closeStatus ty).isSome →
      closings s' ty orderId = closings s ty orderId := by
    intro ty orderId hty
    refine closings_of_other hrows fun heq => ?_
    rw [← heq, row.transactionType] at hty
    cases hty
  refine ⟨?_, ?_, ?_⟩
  · have hamount : openAmount s' = openAmount s + order.creditAmount := by
      rw [openAmount, horders, sumWhere_concat, if_pos (by simp [RedemptionOrder.IsOpen, hopen])]
      rfl
    have hne : t.sourceAccount ≠ some (systemAccountId .frozen) := by
      rw [row.source]
      simpa using hsource
    rw [creditBalance_of_rows hrows hc.posted, if_pos row.target, if_neg hne, hamount,
      ← h.balance, row.amount]
    omega
  · intro o hmem ty
    rw [horders] at hmem
    rcases List.mem_append.1 hmem with hmem | hmem
    · have hclosed := h.closed o hmem ty
      refine ⟨fun hst => ?_, fun hst hty => ?_⟩
      · rw [hsame ty _ (by rw [hst]; rfl)]
        exact hclosed.once hst
      · rw [hsame ty _ hty]
        exact hclosed.never hst hty
    · obtain rfl := List.mem_singleton.1 hmem
      have hno : o.IsOpen := .inl hopen
      refine ⟨fun hst => absurd hst (hno.closeStatus_ne ty), fun _ hty => ?_⟩
      -- no row can have been written for an order that did not exist
      rw [hsame ty _ hty, closings, List.filter_eq_nil_iff]
      intro u hu hclose
      simp only [Bool.and_eq_true, decide_eq_true_eq] at hclose
      obtain ⟨⟨rfl, -⟩, hid⟩ := hclose
      obtain ⟨o', ho', hid'⟩ := h.known u hu hty
      exact hp.freshId o' ho' (Option.some.inj (hid'.symm.trans hid))
  · intro u hu hcloses
    rw [hrows] at hu
    rw [horders]
    rcases List.mem_append.1 hu with hu | hu
    · obtain ⟨o, ho, hid⟩ := h.known u hu hcloses
      exact ⟨o, List.mem_append_left _ ho, hid⟩
    · rw [List.mem_singleton.1 hu, row.transactionType] at hcloses
      cases hcloses

/-- An update that keeps what identifies an order and what it is worth. -/
structure KeepsTerms (fields : RedemptionOrder → RedemptionOrder) : Prop where
  orderId : ∀ o, (fields o).orderId = o.orderId
  member : ∀ o, (fields o).member = o.member
  creditAmount : ∀ o, (fields o).creditAmount = o.creditAmount

section

variable {fields : RedemptionOrder → RedemptionOrder}

/-- The orders of the updated table: the updated one and the others. -/
theorem mem_updated {o : RedemptionOrder} (mem : order ∈ s.orders.rows)
    (h : o ∈ s.orders.rows.map fun o => if o.orderId = order.orderId then fields o else o) :
    o = fields order ∨ o ∈ s.orders.rows ∧ o.orderId ≠ order.orderId := by
  obtain ⟨o', ho', rfl⟩ := List.mem_map.1 h
  by_cases hid : o'.orderId = order.orderId
  · rw [if_pos hid, s.orders.eq_of_pk ho' mem hid]
    exact .inl rfl
  · rw [if_neg hid]
    exact .inr ⟨ho', hid⟩

/-- Updating one open order takes its amount off the open amount unless it stays open. -/
theorem openAmount_updated (mem : order ∈ s.orders.rows) (hopen : order.IsOpen)
    (hkeep : KeepsTerms fields) (horders : s'.orders.rows = s.orders.rows.map fun o =>
      if o.orderId = order.orderId then fields o else o) :
    openAmount s' = openAmount s -
      if (fields order).IsOpen then 0 else order.creditAmount := by
  obtain ⟨before, after, hrows, hrows'⟩ := s.orders.split_update mem fields
  rw [openAmount, openAmount, horders, hrows', hrows, sumWhere_append, sumWhere_append,
    sumWhere_cons, sumWhere_cons, hkeep.creditAmount]
  simp only [hopen, decide_true, if_true]
  by_cases hstays : (fields order).IsOpen
  · simp only [hstays, decide_true, if_true]
    omega
  · simp only [hstays, decide_false, if_false, Bool.false_eq_true]
    omega

/-- The orders rows were written for are still there after an update. -/
theorem OrderInv.known_updated (h : OrderInv s) (hkeep : KeepsTerms fields)
    (horders : s'.orders.rows = s.orders.rows.map fun o =>
      if o.orderId = order.orderId then fields o else o) {u : CreditTransaction}
    (hu : u ∈ s.transactions.rows) (hcloses : (closeStatus u.transactionType).isSome) :
    ∃ o ∈ s'.orders.rows, u.orderId? = some o.orderId := by
  obtain ⟨o, ho, hid⟩ := h.known u hu hcloses
  rw [horders]
  refine ⟨_, List.mem_map_of_mem ho, ?_⟩
  rw [hid]
  split
  · rw [hkeep.orderId]
  · rfl

/-- An open order that stays open. -/
theorem OrderInv.update (h : OrderInv s) (mem : order ∈ s.orders.rows) (hopen : order.IsOpen)
    (hkeep : KeepsTerms fields) (hstays : (fields order).IsOpen)
    (ht : s'.transactions = s.transactions)
    (horders : s'.orders.rows = s.orders.rows.map fun o =>
      if o.orderId = order.orderId then fields o else o) : OrderInv s' := by
  refine ⟨?_, ?_, ?_⟩
  · rw [openAmount_updated mem hopen hkeep horders, if_pos hstays, sub_zero, ← h.balance]
    simp only [creditBalance, postedSum_of_transactions ht]
  · intro o ho ty
    rw [horders] at ho
    rcases mem_updated mem ho with rfl | ⟨ho, -⟩
    · refine ⟨fun hst => absurd hst (hstays.closeStatus_ne ty), fun _ hty => ?_⟩
      rw [closings_of_transactions ht, hkeep.orderId]
      exact (h.closed order mem ty).never (hopen.closeStatus_ne ty) hty
    · have hclosed := h.closed o ho ty
      exact ⟨by rw [closings_of_transactions ht]; exact hclosed.once,
        by rw [closings_of_transactions ht]; exact hclosed.never⟩
  · intro u hu hcloses
    rw [ht] at hu
    exact h.known_updated hkeep horders hu hcloses

theorem closeStatus_injective {a b : TxnType} {st : OrderStatus} (ha : closeStatus a = some st)
    (hb : closeStatus b = some st) : a = b := by
  cases a <;> cases ha <;> cases b <;> first | rfl | cases hb

/-- An open order that is closed by a new row. -/
theorem OrderInv.close {s₁ : CreditState ctx} {key : Option String} (h : OrderInv s)
    (mem : order ∈ s.orders.rows) (hopen : order.IsOpen) (hkeep : KeepsTerms fields)
    (hst : closeStatus ty = some (fields order).status) (hc : Created s s₁ key t)
    (row : Closes ctx ty order t) (hid : t.orderId? = some order.orderId)
    (ht : s'.transactions = s₁.transactions)
    (horders : s'.orders.rows = s.orders.rows.map fun o =>
      if o.orderId = order.orderId then fields o else o) : OrderInv s' := by
  have hrows : s'.transactions.rows = s.transactions.rows ++ [t] := by rw [ht, hc.rows]
  have hclosed : ¬ (fields order).IsOpen := fun ho => ho.closeStatus_ne ty hst
  refine ⟨?_, ?_, ?_⟩
  · have htarget : t.targetAccount ≠ some (systemAccountId .frozen) := by
      rw [row.target, closeTarget]
      split <;> simp
    rw [openAmount_updated mem hopen hkeep horders, if_neg hclosed, ← h.balance,
      creditBalance_of_rows hrows hc.posted, if_neg htarget, if_pos row.source, row.amount]
    omega
  · intro o ho ty'
    rw [horders] at ho
    rcases mem_updated mem ho with rfl | ⟨ho, hne⟩
    · have hbefore := (h.closed order mem ty').never (hopen.closeStatus_ne ty')
      refine ⟨fun hst' => ?_, fun hst' hty' => ?_⟩
      · obtain rfl := closeStatus_injective hst hst'
        refine ⟨t, ?_, row.transactionType, ?_, row.source, ?_⟩
        · rw [hkeep.orderId, closings_of_row hrows row.transactionType hc.posted hid,
            hbefore (by rw [hst]; rfl), List.nil_append]
        · rw [hkeep.creditAmount, row.amount]
        · rw [row.target, closeTarget, closeTarget, hkeep.member]
      · rw [hkeep.orderId, closings_of_other hrows, hbefore hty']
        intro heq
        rw [row.transactionType] at heq
        exact absurd (heq ▸ hst) hst'
    · have hother := h.closed o ho ty'
      have hsame : closings s' ty' o.orderId = closings s ty' o.orderId :=
        closings_of_other hrows fun _ heq => hne (Option.some.inj (heq.symm.trans hid))
      exact ⟨by rw [hsame]; exact hother.once, by rw [hsame]; exact hother.never⟩
  · intro u hu hcloses
    rw [hrows] at hu
    rcases List.mem_append.1 hu with hu | hu
    · exact h.known_updated hkeep horders hu hcloses
    · rw [List.mem_singleton.1 hu, horders]
      refine ⟨_, List.mem_map_of_mem mem, ?_⟩
      rw [if_pos rfl, hkeep.orderId, hid]

end

/-! ## Whole runs -/

/-- The calls of the services other than reversals. -/
def OrderCall : CreditCall → Prop
  | .reverse .. | .post .. => False
  | _ => True

/-- The row that closes the order under the key is not there yet. -/
def OwnClosing (s : CreditState ctx) (ty : TxnType) (kind orderId : String)
    (key : Option String) : Prop :=
  ∀ order ∈ s.orders.rows, order.orderId = orderId → order.IsOpen →
    ¬ Carried s (normaliseIdemKey (some (closingKey kind orderId key))) (Closes ctx ty order)

instance (s : CreditState ctx) (ty : TxnType) (kind orderId : String) (key : Option String) :
    Decidable (OwnClosing s ty kind orderId key) :=
  inferInstanceAs (Decidable (∀ order ∈ s.orders.rows, _ → order.IsOpen → ¬ Carried _ _ _))

/-- The call finds no row that moved the credits of another order: the key that closes an open
order is not carried by a row that would close it, and the id of a new order is free exactly when
the key that freezes its credits is. -/
def OwnRows (s : CreditState ctx) (env : CallEnv) : CreditCall → Prop
  | .cancelOrder orderId _ _ key => OwnClosing s .unfreeze "redemption-unfreeze:" orderId key
  | .fulfillOrder orderId _ _ key => OwnClosing s .burn "redemption-burn:" orderId key
  | .createOrder args =>
    let orderId := newOrderId ctx.rt env (normaliseIdemKey args.idempotencyKey)
    let key := freezeKey orderId args.idempotencyKey
    findCreatedOrder s (normaliseIdemKey args.idempotencyKey) = .ok none →
      (∀ o ∈ s.orders.rows, o.orderId = orderId → o.member = args.member →
        Carried s key fun _ => True) ∧
      ((∀ o ∈ s.orders.rows, o.orderId ≠ orderId) → ¬ Carried s key (FreezesFor ctx args))
  | _ => True

theorem keepsTerms_cancelFields (env : CallEnv) (reason : String) :
    KeepsTerms (cancelFields env reason) := ⟨fun _ => rfl, fun _ => rfl, fun _ => rfl⟩

theorem keepsTerms_fulfillFields (env : CallEnv) (reviewedBy : Option Nat) :
    KeepsTerms (fulfillFields env reviewedBy) := ⟨fun _ => rfl, fun _ => rfl, fun _ => rfl⟩

theorem keepsTerms_issueFields (env : CallEnv) (reason : String) :
    KeepsTerms (issueFields env reason) := ⟨fun _ => rfl, fun _ => rfl, fun _ => rfl⟩

theorem OrderInv.of_closed {fields : RedemptionOrder → RedemptionOrder} {target : String}
    {key : Option String} {name value : String} (h : OrderInv s) (mem : order ∈ s.orders.rows)
    (hc : Closed s s' order ty target key (orderMetadata order.orderId name value) fields)
    (hkeep : KeepsTerms fields) (hst : closeStatus ty = some (fields order).status)
    (htarget : target = closeTarget ctx ty order) (hown : ¬ Carried s key (Closes ctx ty order)) :
    OrderInv s' := by
  subst htarget
  obtain ⟨s₁, t, row, reused | ⟨created, metadata⟩, ht, -⟩ := hc.posted
  · exact absurd (reused.carried row) hown
  · exact h.close mem hc.isOpen hkeep hst created row (orderId?_of_metadata metadata) ht hc.orders

theorem OrderInv.of_ordered {args : CreateOrderArgs} {itemType : ItemType} (h : OrderInv s)
    (ho : Ordered env s s' args itemType order t) (hown : OwnRows s env (.createOrder args))
    (missing : findCreatedOrder s (normaliseIdemKey args.idempotencyKey) = .ok none) :
    OrderInv s' := by
  obtain ⟨htaken, hfree⟩ := hown missing
  rw [← ho.orderId] at htaken hfree
  obtain ⟨s₁, hplace, hwrite⟩ := ho.writes
  rcases hplace with ⟨grown, hmem⟩ | ⟨placed, snapshot, -, hnew⟩
  · rcases hwrite with reused | ⟨created, -⟩
    · exact h.of_tables (reused.grown.transactions.trans grown.transactions)
        (reused.grown.orders.trans grown.orders)
    · exact absurd (htaken order hmem rfl ho.member) (created.after grown).not_carried
  · have hrow : FreezesFor ctx args t := ho.row
    rcases hwrite with reused | ⟨created, -⟩
    · have hcarried : Carried s₁ (freezeKey order.orderId args.idempotencyKey)
        (FreezesFor ctx args) := reused.carried hrow
      rw [Carried, placed.transactions] at hcarried
      exact absurd hcarried (hfree placed.freshId)
    · have hamount : order.creditAmount = args.creditAmount := by rw [hnew]; rfl
      have hpending : order.status = .pending := by rw [hnew]; rfl
      refine h.placed placed hpending created ?_ (memberAccountId_ne_system ctx args.member _)
      rw [hamount]
      exact hrow

/-- **One call keeps orders and ledger in step.** -/
theorem OrderInv.step (h : OrderInv s) (hc : OrderCall c) (hown : OwnRows s env c)
    (he : Effect env s s' c) : OrderInv s' := by
  cases he with
  | idle grown => exact h.of_tables grown.transactions grown.orders
  | entered created entry ends =>
    obtain ⟨hsource, htarget, hty⟩ := entry.notFrozen
    exact h.enter created hsource htarget hty
  | posted type row created => exact hc.elim
  | reversed mem free row write linked => exact hc.elim
  | ordered item missing ordered => exact h.of_ordered ordered hown missing
  | @cancelled order reason reviewedBy key mem account closed =>
    exact h.of_closed mem closed (keepsTerms_cancelFields env reason) rfl rfl
      (hown order mem rfl closed.isOpen)
  | @fulfilled order reason reviewedBy key mem closed =>
    exact h.of_closed mem closed (keepsTerms_fulfillFields env reviewedBy) rfl rfl
      (hown order mem rfl closed.isOpen)
  | @reported order reason mem pending updated =>
    subst updated
    exact h.update mem (.inl pending) (keepsTerms_issueFields env reason) (.inr rfl) rfl rfl

theorem orderInv_fresh (accounts : AccountTable) :
    OrderInv { CreditState.fresh ctx with accounts := accounts } where
  balance := rfl
  closed := fun _ h => absurd h List.not_mem_nil
  known := fun _ h => absurd h List.not_mem_nil

/-- Orders and ledger are in step. -/
structure OrdersBacked (s : CreditState ctx) : Prop where
  /-- The frozen account holds the credits of the open orders. -/
  frozen : ∃ account, pool s .frozen = .ok account ∧
    creditBalance s account.accountId = openAmount s
  /-- A cancelled order has given its credits back to its member once. -/
  cancelled : ∀ o ∈ s.orders.rows, o.status = .cancelled →
    ∃ t, closings s .unfreeze o.orderId = [t] ∧ RowIs t .unfreeze o.creditAmount
      (some (systemAccountId .frozen)) (some (memberAccountId ctx o.member))
  /-- The credits of a fulfilled order are burned once. -/
  fulfilled : ∀ o ∈ s.orders.rows, o.status = .fulfilled →
    ∃ t, closings s .burn o.orderId = [t] ∧ RowIs t .burn o.creditAmount
      (some (systemAccountId .frozen)) (some (systemAccountId .burn))

/-- **Orders over runs.** After any run of the services without reversals in which no call takes
the row of another order for its own, orders and ledger are in step. -/
theorem creditRun_ordersBacked (ctx : Context) (cs : List (CallEnv × CreditCall))
    (hcs : EachCall creditStep (fun s c => OrderCall c.2 ∧ OwnRows s c.1 c.2) (initialState ctx)
      cs) : OrdersBacked (creditRun ctx cs) := by
  obtain ⟨hacc, hinv⟩ := creditRun_invariant (fun accounts _ => orderInv_fresh accounts)
    (fun s env c s' _ h hc he => h.step hc.1 hc.2 he) hcs
  refine ⟨⟨_, pool_eq hacc (show AccountType.frozen ≠ .member by decide), hinv.balance⟩, ?_, ?_⟩
  · intro o ho hst
    exact (hinv.closed o ho .unfreeze).once (by rw [hst]; rfl)
  · intro o ho hst
    exact (hinv.closed o ho .burn).once (by rw [hst]; rfl)

instance (s : CreditState ctx) (env : CallEnv) : ∀ c, Decidable (OwnRows s env c)
  | .cancelOrder _ _ _ _ | .fulfillOrder _ _ _ _ => inferInstanceAs (Decidable (OwnClosing ..))
  | .createOrder args => inferInstanceAs (Decidable
      (findCreatedOrder s (normaliseIdemKey args.idempotencyKey) = .ok none →
        (∀ o ∈ s.orders.rows, _ → _ → Carried _ _ _) ∧
        ((∀ o ∈ s.orders.rows, _ ≠ _) → ¬ Carried _ _ (FreezesFor ctx args))))
  | .issue .. | .lock .. | .unlock .. | .transfer .. | .deduct .. | .reverse .. | .reward ..
  | .reportIssue .. | .post .. => isTrue trivial

instance : ∀ c, Decidable (OrderCall c)
  | .reverse .. | .post .. => isFalse id
  | .issue .. | .lock .. | .unlock .. | .transfer .. | .deduct .. | .reward .. | .createOrder ..
  | .cancelOrder .. | .fulfillOrder .. | .reportIssue .. => isTrue trivial

/-- One order of 3 credits, placed and cancelled. -/
theorem creditRun_ordersBacked_cancelled : OrdersBacked (creditRun strokeContext
    [(strokeEnv 1, .reward "t" 0 6 ⟨"e", ""⟩ none "" true),
      (strokeEnv 2, .createOrder { member := 0, creditAmount := 3 }),
      (strokeEnv 3, .cancelOrder "ro-||" "" none (some "k"))]) :=
  creditRun_ordersBacked strokeContext _ (by decide +kernel)

/-- Two open orders of one member over the same amount, cancelled under one key. -/
def sharedKeyRun : List (CallEnv × CreditCall) :=
  [(strokeEnv 1, .reward "t" 0 6 ⟨"e", ""⟩ none "" true),
    (strokeEnv 2, .createOrder { member := 0, creditAmount := 3 }),
    (strokeEnv 3, .createOrder { member := 0, creditAmount := 3 }),
    (strokeEnv 4, .cancelOrder "ro-||" "" none (some "k")),
    (strokeEnv 5, .cancelOrder "ro-|||" "" none (some "k"))]

/-- The second cancellation returns the row of the first, and 3 credits stay frozen. -/
theorem sharedKeyRun_not_backed : (∀ c ∈ sharedKeyRun, OrderCall c.2) ∧
    ¬ OrdersBacked (creditRun strokeContext sharedKeyRun) := by
  refine ⟨by simp [sharedKeyRun, OrderCall], fun h => ?_⟩
  have hbalance : creditBalance (creditRun strokeContext sharedKeyRun) (systemAccountId .frozen) ≠
      openAmount (creditRun strokeContext sharedKeyRun) := by decide +kernel
  obtain ⟨account, hpool, heq⟩ := h.frozen
  rw [pool_eq (creditRun_accounts _ _) (by decide)] at hpool
  obtain rfl := Except.ok.inj hpool
  exact hbalance heq

end LiveOs.Credit
