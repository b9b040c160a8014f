import LiveOs.Credit.Redemption
import LiveOs.Credit.Verify.Services

/-!
# What the order services do

Creating an order puts its row in the order table and its amount on the frozen account; closing one
changes its status and takes the amount off again. Each of the two writes can turn out to be there
already, and these are the cases the theorems below keep apart.
-/

namespace LiveOs.Credit

open Lib EventLedger

variable {ctx : Context} {env : CallEnv} {s s' : CreditState ctx} {txn : CreditTransaction}
  {order order' : RedemptionOrder}

/-! ## Stored metadata -/

/-- The metadata of a row that belongs to an order. -/
def orderMetadata (orderId key value : String) : Json :=
  .obj [("order_id", .str orderId), (key, .str value)]

theorem jsonStore_orderMetadata (orderId value : String) {key : String} (hkey : key ≠ "order_id") :
    jsonStore (orEmptyDict (.dict [(.str "order_id", .str orderId), (.str key, .str value)])) =
      some (orderMetadata orderId key value) := by
  have hpairs : Json.ofPairs [("order_id", .str orderId), (key, .str value)] =
      [("order_id", .str orderId), (key, .str value)] :=
    Json.ofPairs_of_nodup (by simpa using hkey.symm)
  rw [orEmptyDict_dict, jsonStore_eq_some, PyVal.stored_dict]
  exact ⟨rfl, congrArg Json.obj hpairs⟩

/-- The order a row was written for. -/
def CreditTransaction.orderId? (t : CreditTransaction) : Option String :=
  match t.metadata with
  | .obj es => match Json.get? es "order_id" with
    | some (.str orderId) => some orderId
    | _ => none
  | _ => none

theorem orderId?_of_metadata {orderId key value : String}
    (h : txn.metadata = orderMetadata orderId key value) : txn.orderId? = some orderId := by
  rw [CreditTransaction.orderId?, h]
  rfl

/-! ## Closing an order -/

/-- The orders whose credits are on the frozen account. -/
def RedemptionOrder.IsOpen (o : RedemptionOrder) : Prop :=
  o.status = .pending ∨ o.status = .disputed

instance (o : RedemptionOrder) : Decidable o.IsOpen := inferInstanceAs (Decidable (_ ∨ _))

/-- An open order is closed: a row from the frozen account to `target` is posted or found, and the
order is updated. -/
structure Closed (s s' : CreditState ctx) (order : RedemptionOrder) (txnType : TxnType)
    (target : String) (key : Option String) (metadata : Json)
    (fields : RedemptionOrder → RedemptionOrder) : Prop where
  isOpen : order.IsOpen
  posted : ∃ s₁ txn, RowIs txn txnType order.creditAmount (some (systemAccountId .frozen))
      (some target) ∧ (Reused s s₁ key txn ∨ Created s s₁ key txn ∧ txn.metadata = metadata) ∧
    s'.transactions = s₁.transactions ∧ s'.accounts = s₁.accounts
  orders : s'.orders.rows = s.orders.rows.map fun o =>
    if o.orderId = order.orderId then fields o else o

variable {orderId reason : String} {reviewer : Option Nat} {key : Option String}

theorem getOrder_eq_ok (h : getOrder s orderId = .ok order) :
    order ∈ s.orders.rows ∧ order.orderId = orderId := by
  unfold getOrder at h
  split at h
  · rename_i o hget
    obtain rfl := Except.ok.inj h
    exact Table.get?_eq_some.1 hget
  · cases h

theorem cancelRedemptionOrder_ok (hacc : AccountsOk ctx s.accounts)
    (h : cancelRedemptionOrder env s orderId reason reviewer key = .ok (s', order')) :
    ∃ order ∈ s.orders.rows, order.orderId = orderId ∧
      (order.status = .cancelled ∧ s' = s ∨
        memberAccount ctx order.member ∈ s'.accounts.rows ∧
        Closed s s' order .unfreeze (memberAccountId ctx order.member)
          (normaliseIdemKey (some (closingKey "redemption-unfreeze:" order.orderId key)))
          (orderMetadata order.orderId "action" "cancel") (cancelFields env reason)) := by
  obtain ⟨order, hget, h⟩ := bind_eq_ok.1 h
  obtain ⟨hmem, hid⟩ := getOrder_eq_ok hget
  refine ⟨order, hmem, hid, ?_⟩
  cases hst : order.status with
  | cancelled =>
    rw [hst] at h
    exact .inl ⟨rfl, (Prod.mk.inj (pure_eq_ok.1 h)).1.symm⟩
  | fulfilled => rw [hst] at h; cases h
  | reversed => rw [hst] at h; cases h
  | pending | disputed =>
    rw [hst] at h
    obtain ⟨⟨s₁, account⟩, hmember, h⟩ := bind_eq_ok.1 h
    obtain ⟨rfl, hg, haccount⟩ := getOrCreateMember_inv hacc.known hmember
    simp only [pool_eq (hacc.grow hg.accounts) (show AccountType.frozen ≠ .member by decide),
      ok_bind] at h
    obtain ⟨⟨s₂, txn⟩, hpost, h⟩ := bind_eq_ok.1 h
    obtain ⟨rfl, -⟩ := Prod.mk.inj (pure_eq_ok.1 h)
    obtain ⟨-, hrow, -, -, hpost⟩ :=
      postCreditTransaction_ok hg.accounts.known (TxnType.ofValue?_value .unfreeze) hpost
    have hgrow : Grows ctx s₁.accounts s₂.accounts :=
      hpost.elim (fun hr => hr.grown.accounts) fun hc => hc.1.accounts
    have horders : s₂.orders = s.orders :=
      (hpost.elim (fun hr => hr.grown.orders) fun hc => hc.1.orders).trans hg.orders
    refine .inr ⟨hgrow.subset _ haccount, ?_, ⟨s₂, txn, hrow, ?_, rfl, rfl⟩, ?_⟩
    · simp [RedemptionOrder.IsOpen, hst]
    · refine hpost.imp (fun hr => hr.after hg) ?_
      rintro ⟨hc, metadata, hmeta, rfl⟩
      rw [jsonStore_orderMetadata _ _ (by decide)] at hmeta
      exact ⟨hc.after hg, (Option.some.inj hmeta).symm⟩
    · rw [← horders]
      rfl

theorem generateSettlementRecord_ok (h : generateSettlementRecord env s order = .ok s') :
    s'.accounts = s.accounts ∧ s'.transactions = s.transactions ∧ s'.orders = s.orders ∧
      s'.events = s.events := by
  unfold generateSettlementRecord at h
  split at h
  · obtain rfl := Except.ok.inj h
    exact ⟨rfl, rfl, rfl, rfl⟩
  · simp only at h
    split at h
    · obtain rfl := Except.ok.inj h
      exact ⟨rfl, rfl, rfl, rfl⟩
    · split at h
      · cases h
      · obtain ⟨⟨settlements, record, created⟩, -, h⟩ := bind_eq_ok.1 h
        obtain rfl := pure_eq_ok.1 h
        exact ⟨rfl, rfl, rfl, rfl⟩

theorem fulfillRedemptionOrder_ok (hacc : AccountsOk ctx s.accounts)
    (h : fulfillRedemptionOrder env s orderId reason reviewer key = .ok (s', order')) :
    ∃ order ∈ s.orders.rows, order.orderId = orderId ∧
      (order.status = .fulfilled ∧ s' = s ∨
        Closed s s' order .burn (systemAccountId .burn)
          (normaliseIdemKey (some (closingKey "redemption-burn:" order.orderId key)))
          (orderMetadata order.orderId "action" "fulfill") (fulfillFields env reviewer)) := by
  obtain ⟨order, hget, h⟩ := bind_eq_ok.1 h
  obtain ⟨hmem, hid⟩ := getOrder_eq_ok hget
  refine ⟨order, hmem, hid, ?_⟩
  cases hst : order.status with
  | fulfilled =>
    rw [hst] at h
    exact .inl ⟨rfl, (Prod.mk.inj (pure_eq_ok.1 h)).1.symm⟩
  | cancelled => rw [hst] at h; cases h
  | reversed => rw [hst] at h; cases h
  | pending | disputed =>
    rw [hst] at h
    simp only [pool_eq hacc (show AccountType.frozen ≠ .member by decide),
      pool_eq hacc (show AccountType.burn ≠ .member by decide), ok_bind] at h
    obtain ⟨⟨s₁, txn⟩, hpost, h⟩ := bind_eq_ok.1 h
    obtain ⟨s₂, hsettle, h⟩ := bind_eq_ok.1 h
    obtain ⟨rfl, -⟩ := Prod.mk.inj (pure_eq_ok.1 h)
    obtain ⟨haccounts, htransactions, horders, -⟩ := generateSettlementRecord_ok hsettle
    obtain ⟨-, hrow, -, -, hpost⟩ :=
      postCreditTransaction_ok hacc.known (TxnType.ofValue?_value .burn) hpost
    have horders₁ : s₁.orders = s.orders :=
      hpost.elim (fun hr => hr.grown.orders) fun hc => hc.1.orders
    refine .inr ⟨?_, ⟨s₁, txn, hrow, ?_, htransactions, haccounts⟩, ?_⟩
    · simp [RedemptionOrder.IsOpen, hst]
    · refine hpost.imp_right ?_
      rintro ⟨hc, metadata, hmeta, rfl⟩
      rw [jsonStore_orderMetadata _ _ (by decide)] at hmeta
      exact ⟨hc, (Option.some.inj hmeta).symm⟩
    · rw [horders, ← horders₁]
      rfl

theorem reportRedemptionOrderIssue_ok
    (h : reportRedemptionOrderIssue env s orderId reason = .ok (s', order')) :
    ∃ order ∈ s.orders.rows, order.orderId = orderId ∧ (s' = s ∨
      order.status = .pending ∧
        s' = updateOrder s order.orderId (issueFields env reason) (fun _ => rfl)) := by
  obtain ⟨order, hget, h⟩ := bind_eq_ok.1 h
  obtain ⟨hmem, hid⟩ := getOrder_eq_ok hget
  refine ⟨order, hmem, hid, ?_⟩
  cases hst : order.status with
  | cancelled | fulfilled | reversed => rw [hst] at h; cases h
  | disputed => rw [hst] at h; exact .inl (Prod.mk.inj (pure_eq_ok.1 h)).1.symm
  | pending => rw [hst] at h; exact .inr ⟨rfl, (Prod.mk.inj (pure_eq_ok.1 h)).1.symm⟩

/-! ## Creating an order -/

/-- The order has the terms of the call. -/
structure TermsAgree (args : CreateOrderArgs) (itemType : ItemType) (order : RedemptionOrder) :
    Prop where
  member : order.member = args.member
  creditAmount : order.creditAmount = args.creditAmount
  itemType : order.itemType = itemType
  relatedTask : order.relatedTask = args.relatedTask
  resourceId : order.resourceId = args.resourceId
  itemSnapshot : order.itemSnapshot.toPy.pyEq (orEmptyDict args.itemSnapshot) = true
  financeTreatmentRef : order.financeTreatmentRef = args.financeTreatmentRef
  merchant : args.merchant.map MerchantProfile.merchantId = order.merchant

/-- A row that freezes the credits of the call. -/
def FreezesFor (ctx : Context) (args : CreateOrderArgs) (txn : CreditTransaction) : Prop :=
  RowIs txn .consume args.creditAmount (some (memberAccountId ctx args.member))
    (some (systemAccountId .frozen))

instance (args : CreateOrderArgs) (t : CreditTransaction) : Decidable (FreezesFor ctx args t) :=
  inferInstanceAs (Decidable (RowIs ..))

theorem requireSameOrderField_checks (field : String) (same : Bool) :
    Checks (requireSameOrderField field same) (same = true) () :=
  (Checks.rejectIf _ _).of_iff (by simp)

/-- The comparison of a retried call passes exactly when the row and the order agree with it. -/
theorem assertSameOrder_checks {args : CreateOrderArgs} (hacc : AccountsOk ctx s.accounts)
    (itemType : ItemType) (order : RedemptionOrder) (existing : CreditTransaction) :
    ∃ s', Grown s s' ∧ memberAccount ctx args.member ∈ s'.accounts.rows ∧
      Checks (assertSameOrder s args itemType order existing)
        (FreezesFor ctx args existing ∧ TermsAgree args itemType order) s' := by
  obtain ⟨accounts, hmember, hgrows, hmem⟩ := getOrCreateMember_ok hacc.known args.member
  refine ⟨{ s with accounts := accounts }, ⟨hgrows, rfl, rfl, rfl, rfl⟩, hmem, ?_⟩
  unfold assertSameOrder
  simp only [hmember, ok_bind, pool_eq (s := { s with accounts := accounts }) (hacc.grow hgrows)
    (show AccountType.frozen ≠ .member by decide)]
  refine ((assertIdempotentMatch_checks _).bind <| (requireSameOrderField_checks _ _).bind <|
    (requireSameOrderField_checks _ _).bind <| (requireSameOrderField_checks _ _).bind <|
    (requireSameOrderField_checks _ _).bind <| (requireSameOrderField_checks _ _).bind <|
    (requireSameOrderField_checks _ _).bind <| (requireSameOrderField_checks _ _).bind <|
    (requireSameOrderField_checks _ _).bind (Checks.ok { s with accounts := accounts })).of_iff ?_
  simp only [List.forall_mem_cons, List.not_mem_nil, false_imp_iff, implies_true, and_true,
    decide_eq_true_eq]
  constructor
  · rintro ⟨⟨h₁, h₂, h₃, h₄⟩, t₁, t₂, t₃, t₄, t₅, t₆, t₇, t₈⟩
    exact ⟨⟨h₁, h₂, h₃, h₄⟩, t₁, t₂, t₃, t₄, t₅, t₆, t₇, t₈⟩
  · rintro ⟨⟨h₁, h₂, h₃, h₄⟩, t₁, t₂, t₃, t₄, t₅, t₆, t₇, t₈⟩
    exact ⟨⟨h₁, h₂, h₃, h₄⟩, t₁, t₂, t₃, t₄, t₅, t₆, t₇, t₈⟩

/-- The order is new: its row is appended under a free id. -/
structure OrderPlaced (s s' : CreditState ctx) (order : RedemptionOrder) : Prop where
  accounts : Grows ctx s.accounts s'.accounts
  orders : s'.orders.rows = s.orders.rows ++ [order]
  freshId : ∀ o ∈ s.orders.rows, o.orderId ≠ order.orderId
  transactions : s'.transactions = s.transactions
  settlements : s'.settlements = s.settlements
  events : s'.events = s.events

theorem getOrCreateOrder_ok {args : CreateOrderArgs} {itemType : ItemType}
    (hacc : AccountsOf ctx s.accounts)
    (h : getOrCreateOrder env s args itemType orderId = .ok (s', order)) :
    order.orderId = orderId ∧ order.member = args.member ∧ s'.accounts = s.accounts ∧
      (s' = s ∧ order ∈ s.orders.rows ∨ OrderPlaced s s' order ∧
        ∃ snapshot, jsonStore (orEmptyDict args.itemSnapshot) = some snapshot ∧
          order = newOrder env args itemType orderId snapshot) := by
  unfold getOrCreateOrder at h
  split at h
  · rename_i found hget
    obtain ⟨hmember, h⟩ := rejectIf_bind_eq_ok.1 h
    obtain ⟨rfl, rfl⟩ := Prod.mk.inj (pure_eq_ok.1 h)
    obtain ⟨hmem, hid⟩ := Table.get?_eq_some.1 hget
    exact ⟨hid, not_not.1 hmember, rfl, .inl ⟨rfl, hmem⟩⟩
  · split at h
    · cases h
    · rename_i snapshot hsnapshot
      obtain ⟨orders, hins, h⟩ := bind_eq_ok.1 h
      obtain ⟨rfl, rfl⟩ := Prod.mk.inj (pure_eq_ok.1 h)
      obtain ⟨hrows, hid, -⟩ := Table.insert_ok hins
      exact ⟨rfl, rfl, rfl, .inr ⟨⟨⟨hacc, fun _ ha => ha⟩, hrows, hid, rfl, rfl, rfl⟩, snapshot,
        hsnapshot, rfl⟩⟩

/-- The key under which the credits of a new order are frozen. -/
def freezeKey (orderId : String) (idempotencyKey : Option String) : Option String :=
  normaliseIdemKey (some ((normaliseIdemKey idempotencyKey).getD ("redemption-freeze:" ++ orderId)))

/-- The order of the call is found or placed, then the row that freezes its credits is. -/
structure Ordered (env : CallEnv) (s s' : CreditState ctx) (args : CreateOrderArgs)
    (itemType : ItemType) (order : RedemptionOrder) (txn : CreditTransaction) : Prop where
  orderId : order.orderId = newOrderId ctx.rt env (normaliseIdemKey args.idempotencyKey)
  member : order.member = args.member
  row : FreezesFor ctx args txn
  writes : ∃ s₁, (Grown s s₁ ∧ order ∈ s.orders.rows ∨ OrderPlaced s s₁ order ∧
        ∃ snapshot, jsonStore (orEmptyDict args.itemSnapshot) = some snapshot ∧
          order = newOrder env args itemType order.orderId snapshot) ∧
    (Reused s₁ s' (freezeKey order.orderId args.idempotencyKey) txn ∨
      Created s₁ s' (freezeKey order.orderId args.idempotencyKey) txn ∧
        txn.metadata = orderMetadata order.orderId "item_type" itemType.value)
  account : memberAccount ctx args.member ∈ s'.accounts.rows

theorem freezeForNewOrder_ok {args : CreateOrderArgs} {itemType : ItemType}
    (hacc : AccountsOk ctx s.accounts)
    (h : freezeForNewOrder env s args itemType = .ok (s', order, txn)) :
    Ordered env s s' args itemType order txn := by
  obtain ⟨_, -, h⟩ := bind_eq_ok.1 h
  obtain ⟨⟨s₁, account⟩, hmember, h⟩ := bind_eq_ok.1 h
  obtain ⟨rfl, hg, hmem⟩ := getOrCreateMember_inv hacc.known hmember
  obtain ⟨-, h⟩ := rejectIf_bind_eq_ok.1 h
  obtain ⟨-, h⟩ := rejectIf_bind_eq_ok.1 h
  simp only [pool_eq (hacc.grow hg.accounts) (show AccountType.frozen ≠ .member by decide),
    ok_bind] at h
  obtain ⟨⟨s₂, found⟩, horder, h⟩ := bind_eq_ok.1 h
  obtain ⟨⟨s₃, txn'⟩, hpost, h⟩ := bind_eq_ok.1 h
  obtain ⟨rfl, heq⟩ := Prod.mk.inj (pure_eq_ok.1 h)
  obtain ⟨rfl, rfl⟩ := Prod.mk.inj heq
  obtain ⟨hid, hordermember, haccounts, hplace⟩ := getOrCreateOrder_ok hg.accounts.known horder
  have hknown : AccountsOf ctx s₂.accounts := by rw [haccounts]; exact hg.accounts.known
  obtain ⟨-, hrow, -, -, hpost⟩ :=
    postCreditTransaction_ok hknown (TxnType.ofValue?_value .consume) hpost
  refine ⟨hid, hordermember, hrow, ⟨s₂, ?_, ?_⟩, ?_⟩
  · rcases hplace with ⟨rfl, hfound⟩ | ⟨hplaced, snapshot, hsnapshot, hnew⟩
    · exact .inl ⟨hg, by rw [← hg.orders]; exact hfound⟩
    · refine .inr ⟨⟨⟨hknown, fun a ha => ?_⟩, ?_, ?_, ?_, ?_, ?_⟩, snapshot, hsnapshot, ?_⟩
      · rw [haccounts]; exact hg.accounts.subset a ha
      · rw [hplaced.orders, hg.orders]
      · rw [← hg.orders]; exact hplaced.freshId
      · exact hplaced.transactions.trans hg.transactions
      · exact hplaced.settlements.trans hg.settlements
      · exact hplaced.events.trans hg.events
      · rw [hid]; exact hnew
  · rw [freezeKey, hid]
    refine hpost.imp_right ?_
    rintro ⟨hc, metadata, hmeta, rfl⟩
    rw [jsonStore_orderMetadata _ _ (by decide)] at hmeta
    exact ⟨hc, (Option.some.inj hmeta).symm⟩
  · have hgrow : Grows ctx s₂.accounts s₃.accounts :=
      hpost.elim (fun hr => hr.grown.accounts) fun hc => hc.1.accounts
    exact hgrow.subset _ (by rw [haccounts]; exact hmem)

/-- **Creating an order.** A call whose key leads to an order returns it when everything agrees;
every other call finds or places its order and its row. -/
theorem createRedemptionOrder_ok {args : CreateOrderArgs} (hacc : AccountsOk ctx s.accounts)
    (h : createRedemptionOrder env s args = .ok (s', order, txn)) :
    0 < args.creditAmount ∧ ∃ itemType, ItemType.ofValue? args.itemType = some itemType ∧
      checkMerchant args.merchant = .ok () ∧
      (findCreatedOrder s (normaliseIdemKey args.idempotencyKey) = .ok (some (order, txn)) ∧
          FreezesFor ctx args txn ∧ TermsAgree args itemType order ∧ Grown s s' ∨
        findCreatedOrder s (normaliseIdemKey args.idempotencyKey) = .ok none ∧
          Ordered env s s' args itemType order txn) := by
  obtain ⟨hamount, h⟩ := rejectIf_bind_eq_ok.1 h
  refine ⟨not_le.1 hamount, ?_⟩
  cases hitem : ItemType.ofValue? args.itemType with
  | none => rw [hitem] at h; cases h
  | some itemType =>
    simp only [hitem] at h
    obtain ⟨_, hmerchant, h⟩ := bind_eq_ok.1 h
    obtain ⟨found, hfind, h⟩ := bind_eq_ok.1 h
    refine ⟨itemType, rfl, hmerchant, ?_⟩
    cases found with
    | none => exact .inr ⟨hfind, freezeForNewOrder_ok hacc h⟩
    | some found =>
      obtain ⟨found, existing⟩ := found
      obtain ⟨s₁, hsame, h⟩ := bind_eq_ok.1 h
      obtain ⟨rfl, heq⟩ := Prod.mk.inj (pure_eq_ok.1 h)
      obtain ⟨rfl, rfl⟩ := Prod.mk.inj heq
      obtain ⟨s₂, hg, -, hcheck⟩ := assertSameOrder_checks hacc itemType found existing
      obtain ⟨⟨hrow, hterms⟩, rfl⟩ := hcheck.eq_ok hsame
      exact .inl ⟨hfind, hrow, hterms, hg⟩

end LiveOs.Credit
