import LiveOs.Credit.Verify.Keys

/-!
# Retries

Repeating a keyed call returns the row of the first one whenever the call can recognise that row,
and a call that asks for another movement under the key is refused. `reverse` looks for a posted
reversal before it looks for its key, so its retries fail; a retried `create` also compares the
order, whose snapshot was stored as JSON in the meantime.
-/

namespace LiveOs.Credit

open Lib EventLedger

variable {ctx : Context} {env : CallEnv} {s s' : CreditState ctx} {c : CreditCall}
  {T : CreditTransaction} {k : String}

/-! ## Keys and movements -/

/-- The idempotency key of a keyed call. -/
def CreditCall.key : CreditCall → Option String
  | .issue _ _ _ _ key | .lock _ _ _ _ key | .unlock _ _ _ _ key | .transfer _ _ _ _ _ key
  | .deduct _ _ _ _ key | .reverse _ _ _ key => key
  | .createOrder args => args.idempotencyKey
  | .reward .. | .cancelOrder .. | .fulfillOrder .. | .reportIssue .. | .post .. => none

/-- Type, amount, endpoints and task of the movement a call asks for. -/
@[ext]
structure Movement where
  txnType : TxnType
  amount : Int
  source : Option String
  target : Option String
  task : Option String
deriving DecidableEq

/-- The movement a keyed call asks for; the original of a reversal has to exist. -/
def movement (s : CreditState ctx) : CreditCall → Option Movement
  | .issue amount _ _ _ _ =>
    some ⟨.issuance, amount, none, some (systemAccountId .issuancePool), none⟩
  | .lock task amount _ _ _ => some ⟨.lock, amount, some (systemAccountId .issuancePool),
      some (systemAccountId .taskLocked), some task⟩
  | .unlock task amount _ _ _ => some ⟨.unlock, amount, some (systemAccountId .taskLocked),
      some (systemAccountId .issuancePool), some task⟩
  | .transfer fromMember toMember amount _ _ _ => some ⟨.transfer, amount,
      some (memberAccountId ctx fromMember), some (memberAccountId ctx toMember), none⟩
  | .deduct member amount _ _ _ => some ⟨.correction, amount, some (memberAccountId ctx member),
      some (systemAccountId .burn), none⟩
  | .reverse originalId _ _ _ => (s.transactions.get? originalId).map fun original =>
      ⟨.reversal, original.amount, original.targetAccount, original.sourceAccount, none⟩
  | .createOrder args => some ⟨.consume, args.creditAmount,
      some (memberAccountId ctx args.member), some (systemAccountId .frozen), args.relatedTask⟩
  | .reward .. | .cancelOrder .. | .fulfillOrder .. | .reportIssue .. | .post .. => none

/-- The snapshot of a new order can be written as JSON. -/
def Storable : CreditCall → Prop
  | .createOrder args => (jsonStore (orEmptyDict args.itemSnapshot)).isSome
  | _ => True

/-- The row is the one the call asks for. -/
def Asked (s : CreditState ctx) (T : CreditTransaction) : CreditCall → Prop
  | .issue amount _ _ _ _ => 0 < amount ∧
      RowIs T .issuance amount none (some (systemAccountId .issuancePool)) ∧
      T.relatedTask = none ∧ T.relatedLedgerEntry = none
  | .lock task amount _ _ _ => RowIs T .lock amount (some (systemAccountId .issuancePool))
      (some (systemAccountId .taskLocked)) ∧ T.relatedTask = some task
  | .unlock task amount _ _ _ => RowIs T .unlock amount (some (systemAccountId .taskLocked))
      (some (systemAccountId .issuancePool)) ∧ T.relatedTask = some task
  | .transfer fromMember toMember amount _ _ _ => (0 < amount ∧ fromMember ≠ toMember) ∧
      RowIs T .transfer amount (some (memberAccountId ctx fromMember))
        (some (memberAccountId ctx toMember))
  | .deduct member amount _ _ _ => 0 < amount ∧
      RowIs T .correction amount (some (memberAccountId ctx member))
        (some (systemAccountId .burn)) ∧ T.relatedTask = none ∧ T.relatedLedgerEntry = none
  | .createOrder args => T.transactionType = .consume ∧
      ∃ order ∈ s.orders.rows, LeadsTo T order ∧ AsksFor ctx args order T
  | .reverse .. | .reward .. | .cancelOrder .. | .fulfillOrder .. | .reportIssue ..
  | .post .. => False

/-- Every row that freezes credits leads to an order. -/
def FreezesLead (s : CreditState ctx) : Prop :=
  ∀ t ∈ s.transactions.rows, t.transactionType = .consume → ∃ o ∈ s.orders.rows, LeadsTo t o

theorem LeadsTo.unique {o o' : RedemptionOrder} (ho : o ∈ s.orders.rows) (ho' : o' ∈ s.orders.rows)
    (h : LeadsTo T o) (h' : LeadsTo T o') : o = o' := by
  obtain ⟨-, v, hm⟩ := h
  obtain ⟨-, v', hm'⟩ := h'
  exact s.orders.eq_of_pk ho ho' (Option.some.inj
    ((orderId?_of_metadata hm).symm.trans (orderId?_of_metadata hm')))

/-! ## A call under a used key -/

/-- **Used keys.** Under the key of a posted row a call returns that row, exactly if the row is the
one it asks for, and raises `DomainError` otherwise. -/
theorem call_checks (env : CallEnv) (hacc : AccountsOk ctx s.accounts) (hlead : FreezesLead s)
    (h : Keyed s k T) (hreversal : T.transactionType ≠ .reversal)
    (hkey : normaliseIdemKey c.key = some k) (hasked : (movement s c).isSome)
    (hstore : T.transactionType = .consume ∨ Storable c) :
    ∃ s' result, Grown s s' ∧ result.transaction = some T ∧
      Checks (runCall env s c) (Asked s T c) (s', result) := by
  have hrefl := Grown.refl hacc.known
  cases c with
  | issue amount reason initiatedBy reviewedBy key =>
    exact ⟨s, ⟨some T, none⟩, hrefl, rfl,
      (issue_checks hacc h hkey).bind_ok rfl⟩
  | lock task amount reason initiatedBy key =>
    exact ⟨s, ⟨some T, none⟩, hrefl, rfl,
      (lock_checks hacc h hkey).bind_ok rfl⟩
  | unlock task amount reason initiatedBy key =>
    exact ⟨s, ⟨some T, none⟩, hrefl, rfl,
      (unlock_checks hacc h hkey).bind_ok rfl⟩
  | transfer fromMember toMember amount reason initiatedBy key =>
    obtain ⟨s', grown, hcheck⟩ := transfer_checks hacc h hkey
    exact ⟨s', ⟨some T, none⟩, grown, rfl, hcheck.bind_ok rfl⟩
  | deduct member amount reason initiatedBy key =>
    obtain ⟨s', grown, hcheck⟩ := deduct_checks hacc h hkey
    exact ⟨s', ⟨some T, none⟩, grown, rfl, hcheck.bind_ok rfl⟩
  | reverse originalId reason initiatedBy key =>
    obtain ⟨original, hget⟩ := Option.isSome_iff_exists.1 (Option.isSome_map.symm.trans hasked)
    obtain ⟨mem, rfl⟩ := Table.get?_eq_some.1 hget
    have hraises : Raises (reverseCreditTransaction env s original.transactionId reason
        initiatedBy key) := reverse_raises h hkey mem fun row => hreversal row.transactionType
    exact ⟨s, ⟨some T, none⟩, hrefl, rfl, .inr ⟨id, hraises.bind⟩⟩
  | createOrder args =>
    by_cases hty : T.transactionType = .consume
    · obtain ⟨order, mem, hl⟩ := hlead T h.mem hty
      obtain ⟨s', grown, hcheck⟩ := create_checks hacc h hkey hty mem hl
      have hiff : AsksFor ctx args order T ↔ Asked s T (.createOrder args) := by
        constructor
        · intro hasks
          exact ⟨hty, order, mem, hl, hasks⟩
        · rintro ⟨-, order', mem', hl', hasks⟩
          rwa [LeadsTo.unique mem mem' hl hl']
      exact ⟨s', ⟨some T, some order⟩, grown, rfl, (hcheck.of_iff hiff).bind_ok rfl⟩
    · have hraises : Raises (createRedemptionOrder env s args) :=
        create_raises hacc h hkey hty (hstore.resolve_left hty)
      exact ⟨s, ⟨some T, none⟩, hrefl, rfl, .inr ⟨fun hp => hty hp.1, hraises.bind⟩⟩
  | reward task member amount entry reviewedBy reason genesis => cases hkey
  | cancelOrder order reason cancelledBy key => cases hkey
  | fulfillOrder order reason reviewedBy key => cases hkey
  | reportIssue order reason => cases hkey
  | post args => cases hkey

/-- What a row moved, as the calls describe it. -/
structure Moved (s : CreditState ctx) (T : CreditTransaction) (m : Movement) : Prop where
  row : RowIs T m.txnType m.amount m.source m.target
  task : match T.transactionType with
    | .lock | .unlock => m.task = T.relatedTask
    | .consume => ∃ order ∈ s.orders.rows, LeadsTo T order ∧ m.task = order.relatedTask
    | _ => m.task = none

/-- A row is one movement only. -/
theorem Moved.unique {m m' : Movement} (h : Moved s T m) (h' : Moved s T m') : m = m' := by
  refine Movement.ext (h.row.transactionType.symm.trans h'.row.transactionType)
    (h.row.amount.symm.trans h'.row.amount) (h.row.source.symm.trans h'.row.source)
    (h.row.target.symm.trans h'.row.target) ?_
  have htask := h.task
  have htask' := h'.task
  cases hty : T.transactionType with
  | lock | unlock =>
    rw [hty] at htask htask'
    exact htask.trans htask'.symm
  | consume =>
    rw [hty] at htask htask'
    obtain ⟨order, mem, hl, htask⟩ := htask
    obtain ⟨order', mem', hl', htask'⟩ := htask'
    rw [htask, htask', LeadsTo.unique mem mem' hl hl']
  | issuance | taskReward | transfer | burn | freeze | unfreeze | correction | reversal =>
    rw [hty] at htask htask'
    exact htask.trans htask'.symm

/-- A row that a call asks for is its movement. -/
theorem Asked.moved {m : Movement} (h : Asked s T c) (hm : movement s c = some m) :
    Moved s T m := by
  cases c with
  | issue | deduct =>
    obtain ⟨-, row, -, -⟩ := h
    obtain rfl := Option.some.inj hm
    exact ⟨row, by rw [row.transactionType]⟩
  | lock | unlock =>
    obtain ⟨row, related⟩ := h
    obtain rfl := Option.some.inj hm
    exact ⟨row, by rw [row.transactionType]; exact related.symm⟩
  | transfer =>
    obtain ⟨-, row⟩ := h
    obtain rfl := Option.some.inj hm
    exact ⟨row, by rw [row.transactionType]⟩
  | createOrder args =>
    obtain ⟨hty, order, mem, hl, -, itemType, -, -, row, terms⟩ := h
    obtain rfl := Option.some.inj hm
    exact ⟨row, by rw [hty]; exact ⟨order, mem, hl, terms.relatedTask.symm⟩⟩
  | reverse | reward | cancelOrder | fulfillOrder | reportIssue | post => exact h.elim

/-! ## Rows that freeze credits -/

/-- Any call but a raw posting of a row that freezes credits. -/
def NoRawFreeze : CreditCall → Prop
  | .post args => TxnType.ofValue? args.transactionType ≠ some .consume
  | _ => True

theorem SameTerms.leadsTo {o o' : RedemptionOrder} (h : SameTerms o o') (hl : LeadsTo T o) :
    LeadsTo T o' := by
  unfold LeadsTo
  rw [h.orderId]
  exact hl

/-- It is enough to look at the rows that are not there before. -/
theorem FreezesLead.step (h : FreezesLead s) (hk : Keeps s s')
    (hnew : ∀ t ∈ s'.transactions.rows, t.transactionType = .consume →
      t ∉ s.transactions.rows → ∃ o ∈ s'.orders.rows, LeadsTo t o) : FreezesLead s' := by
  intro t ht hty
  by_cases hold : t ∈ s.transactions.rows
  · obtain ⟨o, ho, hl⟩ := h t hold hty
    obtain ⟨o', ho', hsame⟩ := hk.orders o ho
    exact ⟨o', ho', hsame.leadsTo hl⟩
  · exact hnew t ht hty hold

theorem newOrderId_ne_empty (rt : Runtime) (env : CallEnv) (key : Option String) :
    newOrderId rt env key ≠ "" := by
  cases key with
  | none => simp [newOrderId, newId]
  | some key => simp [newOrderId]

theorem Ordered.mem {args : CreateOrderArgs} {itemType : ItemType} {order : RedemptionOrder}
    (h : Ordered env s s' args itemType order T) : order ∈ s'.orders.rows := by
  obtain ⟨s₁, hplace, hwrite⟩ := h.writes
  have horders : s'.orders = s₁.orders :=
    hwrite.elim (fun hr => hr.grown.orders) fun hc => hc.1.orders
  rw [horders]
  rcases hplace with ⟨grown, mem⟩ | ⟨placed, -⟩
  · rw [grown.orders]
    exact mem
  · rw [placed.orders]
    simp

theorem Ordered.leadsTo {args : CreateOrderArgs} {itemType : ItemType} {order : RedemptionOrder}
    (h : Ordered env s s' args itemType order T)
    (hm : T.metadata = orderMetadata order.orderId "item_type" itemType.value) :
    LeadsTo T order :=
  ⟨by rw [h.orderId]; exact newOrderId_ne_empty _ _ _, _, hm⟩

theorem Effect.freezesLead (h : FreezesLead s) (hc : NoRawFreeze c) (he : Effect env s s' c) :
    FreezesLead s' := by
  refine h.step he.keeps ?_
  intro t ht hty hnew
  cases he with
  | idle grown => exact absurd (grown.transactions ▸ ht) hnew
  | @entered _ u created entry ends =>
    rw [created.rows, List.mem_append, List.mem_singleton] at ht
    obtain rfl := ht.resolve_left hnew
    cases entry with
    | issue row | lock row | unlock row | reward row | transfer row | deduct row =>
      rw [row.transactionType] at hty
      cases hty
  | posted type row created =>
    rw [created.rows, List.mem_append, List.mem_singleton] at ht
    obtain rfl := ht.resolve_left hnew
    rw [row.transactionType] at hty
    exact absurd (hty ▸ type) hc
  | @reversed original reversal s₁ _ _ key mem free row write linked =>
    have hmem : reversal ∈ s₁.transactions.rows := write_mem write
    rw [linked, linkReversal, Table.modify_rows] at ht
    obtain ⟨u, hu, rfl⟩ := List.mem_map.1 ht
    by_cases hid : u.transactionId = reversal.transactionId
    · -- the linked row is a reversal and freezes nothing
      rw [if_pos hid, s₁.transactions.eq_of_pk hu hmem hid] at hty
      exact absurd (row.transactionType.symm.trans hty) (by decide)
    · rw [if_neg hid] at hnew hty
      rcases write with hr | hc
      · exact absurd (hr.grown.transactions ▸ hu) hnew
      · rw [hc.rows, List.mem_append, List.mem_singleton] at hu
        exact absurd (hu.resolve_left hnew ▸ rfl) hid
  | @ordered args itemType order u item missing ordered =>
    obtain ⟨s₁, hplace, hwrite⟩ := ordered.writes
    have h₁ : s₁.transactions = s.transactions :=
      hplace.elim (fun h => h.1.transactions) fun h => h.1.transactions
    rcases hwrite with hr | ⟨hc, hm⟩
    · rw [hr.grown.transactions, h₁] at ht
      exact absurd ht hnew
    · rw [hc.rows, h₁, List.mem_append, List.mem_singleton] at ht
      obtain rfl := ht.resolve_left hnew
      exact ⟨order, ordered.mem, ordered.leadsTo hm⟩
  | cancelled mem account closed =>
    exact absurd (closed.type_of_new ht hnew ▸ hty) (by decide)
  | fulfilled mem closed =>
    exact absurd (closed.type_of_new ht hnew ▸ hty) (by decide)
  | reported mem pending updated =>
    rw [updated] at ht
    exact absurd ht hnew

/-! ## The first call -/

/-- The order that `create` works on has the terms of the call once it is stored. -/
def OrderAgrees (s : CreditState ctx) (args : CreateOrderArgs) (orderId : String) : Prop :=
  match s.orders.get? orderId with
  | some order => ∃ itemType, ItemType.ofValue? args.itemType = some itemType ∧
      TermsAgree args itemType order
  | none => ∀ snapshot, jsonStore (orEmptyDict args.itemSnapshot) = some snapshot →
      snapshot.toPy.pyEq (orEmptyDict args.itemSnapshot) = true

/-- The call recognises its own row when it is repeated: it is no reversal, and a new order under
its key reads back with the terms of the call. -/
def Retryable (s : CreditState ctx) (env : CallEnv) : CreditCall → Prop
  | .reverse .. => False
  | .createOrder args =>
    (findPostedOfType s (normaliseIdemKey args.idempotencyKey) .consume).isSome ∨
      OrderAgrees s args (newOrderId ctx.rt env (normaliseIdemKey args.idempotencyKey))
  | _ => True

def CreditCall.IsReversal : CreditCall → Prop
  | .reverse .. => True
  | _ => False

/-- A new order agrees exactly when its snapshot reads back. -/
theorem termsAgree_newOrder {args : CreateOrderArgs} {itemType : ItemType} {orderId : String}
    {snapshot : Json} : TermsAgree args itemType (newOrder env args itemType orderId snapshot) ↔
      snapshot.toPy.pyEq (orEmptyDict args.itemSnapshot) = true :=
  ⟨fun h => h.itemSnapshot, fun h => ⟨rfl, rfl, rfl, rfl, rfl, h, rfl, rfl⟩⟩

theorem Ordered.orderAgrees_iff {args : CreateOrderArgs} {itemType : ItemType}
    {order : RedemptionOrder} (item : ItemType.ofValue? args.itemType = some itemType)
    (h : Ordered env s s' args itemType order T) :
    OrderAgrees s args (newOrderId ctx.rt env (normaliseIdemKey args.idempotencyKey)) ↔
      TermsAgree args itemType order := by
  obtain ⟨s₁, hplace, -⟩ := h.writes
  rw [← h.orderId, OrderAgrees]
  rcases hplace with ⟨-, mem⟩ | ⟨placed, snapshot, hsnapshot, hnew⟩
  · rw [Table.get?_eq_some.2 ⟨mem, rfl⟩]
    simp only [item, Option.some.injEq, exists_eq_left']
  · rw [Table.get?_eq_none.2 placed.freshId, hnew, termsAgree_newOrder]
    simp only [hsnapshot, Option.some.injEq, forall_eq']

/-- A row of a created order, and when a retry would recognise it. -/
theorem create_first {args : CreateOrderArgs} {order : RedemptionOrder}
    (hacc : AccountsOk ctx s.accounts) (hlead : FreezesLead s)
    (hkey : normaliseIdemKey args.idempotencyKey = some k)
    (h : createRedemptionOrder env s args = .ok (s', order, T)) :
    Keyed s' k T ∧ T.transactionType = .consume ∧
      (Asked s' T (.createOrder args) ↔ Retryable s env (.createOrder args)) := by
  obtain ⟨hpos, itemType, item, hmerchant, hcases⟩ := createRedemptionOrder_ok hacc h
  have hasks : ∀ {o : RedemptionOrder}, FreezesFor ctx args T →
      (AsksFor ctx args o T ↔ TermsAgree args itemType o) := by
    intro o row
    constructor
    · rintro ⟨-, itemType', item', -, -, terms⟩
      rwa [Option.some.inj (item.symm.trans item')]
    · intro terms
      exact ⟨hpos, itemType, item, hmerchant, row, terms⟩
  -- a freezing row under the key would have led to its order
  have hfound : ∀ {t : CreditTransaction}, Keyed s k t → t.transactionType = .consume →
      ∃ o ∈ s.orders.rows, LeadsTo t o ∧
        findCreatedOrder s (normaliseIdemKey args.idempotencyKey) = .ok (some (o, t)) := by
    intro t hkeyed hty
    obtain ⟨o, ho, hl⟩ := hlead t hkeyed.mem hty
    exact ⟨o, ho, hl, hkey ▸ findCreatedOrder_eq hkeyed hty ho hl⟩
  have hlookup : ∀ {t : CreditTransaction},
      findPostedOfType s (normaliseIdemKey args.idempotencyKey) .consume = some t →
      Keyed s k t ∧ t.transactionType = .consume := by
    intro t ht
    obtain ⟨hmem, hposted, hty, k', hk', hcarries⟩ := findPostedOfType_mem ht
    rw [hkey] at hk'
    exact ⟨⟨hmem, hposted, hcarries.trans hk'.symm⟩, hty⟩
  rcases hcases with ⟨hfind, row, terms, grown⟩ | ⟨missing, ordered⟩
  · have hsome : (findPostedOfType s (normaliseIdemKey args.idempotencyKey) .consume).isSome := by
      rw [Option.isSome_iff_ne_none]
      intro hnone
      rw [findCreatedOrder, hnone] at hfind
      cases hfind
    obtain ⟨t, ht⟩ := Option.isSome_iff_exists.1 hsome
    obtain ⟨hkeyed, hty⟩ := hlookup ht
    obtain ⟨o, ho, hl, hfind'⟩ := hfound hkeyed hty
    obtain ⟨rfl, rfl⟩ := Prod.mk.inj (Option.some.inj (Except.ok.inj (hfind'.symm.trans hfind)))
    refine ⟨hkeyed.of_transactions grown.transactions, hty, iff_of_true ?_ (.inl hsome)⟩
    exact ⟨hty, o, by rw [grown.orders]; exact ho, hl, (hasks row).2 terms⟩
  · obtain ⟨s₁, hplace, hwrite⟩ := ordered.writes
    have h₁ : s₁.transactions = s.transactions :=
      hplace.elim (fun h => h.1.transactions) fun h => h.1.transactions
    have hfreeze : freezeKey order.orderId args.idempotencyKey = some k := by
      rw [freezeKey, hkey]
      exact normaliseIdemKey_some hkey
    have hmissing : ∀ {t : CreditTransaction}, Keyed s k t → t.transactionType ≠ .consume := by
      intro t hkeyed hty
      obtain ⟨o, -, -, hfind⟩ := hfound hkeyed hty
      cases missing.symm.trans hfind
    have hkeyed : Keyed s' k T := .of_write hfreeze (hwrite.imp_right And.left)
    rcases hwrite with hr | ⟨hc, hm⟩
    · have hT : T ∈ s.transactions.rows := h₁ ▸ hr.mem
      exact absurd ordered.row.transactionType (hmissing ⟨hT, hkeyed.posted, hkeyed.carries⟩)
    refine ⟨hkeyed, ordered.row.transactionType, ?_⟩
    have hnone : ¬ (findPostedOfType s (normaliseIdemKey args.idempotencyKey) .consume).isSome := by
      intro hsome
      obtain ⟨t, ht⟩ := Option.isSome_iff_exists.1 hsome
      obtain ⟨hkeyed, hty⟩ := hlookup ht
      exact hmissing hkeyed hty
    rw [Retryable, or_iff_right hnone, ordered.orderAgrees_iff item, ← hasks ordered.row]
    constructor
    · rintro ⟨-, o, ho, hl, hasks'⟩
      rwa [LeadsTo.unique ordered.mem ho (ordered.leadsTo hm) hl]
    · intro hasks'
      exact ⟨ordered.row.transactionType, order, ordered.mem, ordered.leadsTo hm, hasks'⟩

/-- **First calls.** A successful keyed call other than a reversal returns a row that carries its
key, and the call would recognise it exactly if it is retryable. -/
theorem first_call {result : CallResult} (hacc : AccountsOk ctx s.accounts)
    (hlead : FreezesLead s) (hkey : normaliseIdemKey c.key = some k) (hc : ¬ c.IsReversal)
    (h : runCall env s c = .ok (s', result)) :
    ∃ T, result.transaction = some T ∧ Keyed s' k T ∧ T.transactionType ≠ .reversal ∧
      (T.transactionType = .consume ∨ Storable c) ∧ (Asked s' T c ↔ Retryable s env c) := by
  cases c with
  | issue amount reason initiatedBy reviewedBy key =>
    obtain ⟨⟨s₁, txn⟩, hcall, h⟩ := bind_eq_ok.1 h
    obtain ⟨rfl, rfl⟩ := Prod.mk.inj (pure_eq_ok.1 h)
    obtain ⟨⟨hpos, htask, hentry⟩, row, write⟩ := issueCreditsToPool_ok hacc hcall
    exact ⟨txn, rfl, .of_write hkey write, by simp [row.transactionType],
      .inr trivial, iff_of_true ⟨hpos, row, htask, hentry⟩ trivial⟩
  | lock task amount reason initiatedBy key =>
    obtain ⟨⟨s₁, txn⟩, hcall, h⟩ := bind_eq_ok.1 h
    obtain ⟨rfl, rfl⟩ := Prod.mk.inj (pure_eq_ok.1 h)
    obtain ⟨row, related, write⟩ := lockTaskCreditBudget_ok hacc hcall
    exact ⟨txn, rfl, .of_write hkey (write.imp_right And.left), by simp [row.transactionType],
      .inr trivial, iff_of_true ⟨row, related⟩ trivial⟩
  | unlock task amount reason initiatedBy key =>
    obtain ⟨⟨s₁, txn⟩, hcall, h⟩ := bind_eq_ok.1 h
    obtain ⟨rfl, rfl⟩ := Prod.mk.inj (pure_eq_ok.1 h)
    obtain ⟨row, related, write⟩ := unlockUnusedTaskCreditBudget_ok hacc hcall
    exact ⟨txn, rfl, .of_write hkey (write.imp_right And.left), by simp [row.transactionType],
      .inr trivial, iff_of_true ⟨row, related⟩ trivial⟩
  | transfer fromMember toMember amount reason initiatedBy key =>
    obtain ⟨⟨s₁, txn⟩, hcall, h⟩ := bind_eq_ok.1 h
    obtain ⟨rfl, rfl⟩ := Prod.mk.inj (pure_eq_ok.1 h)
    obtain ⟨hargs, row, write, -⟩ := transferMemberCredits_ok hacc hcall
    exact ⟨txn, rfl, .of_write hkey write, by simp [row.transactionType],
      .inr trivial, iff_of_true ⟨hargs, row⟩ trivial⟩
  | deduct member amount reason initiatedBy key =>
    obtain ⟨⟨s₁, txn⟩, hcall, h⟩ := bind_eq_ok.1 h
    obtain ⟨rfl, rfl⟩ := Prod.mk.inj (pure_eq_ok.1 h)
    obtain ⟨⟨hpos, htask, hentry⟩, row, write, -⟩ := passiveDeductMemberCredits_ok hacc hcall
    exact ⟨txn, rfl, .of_write hkey write, by simp [row.transactionType],
      .inr trivial, iff_of_true ⟨hpos, row, htask, hentry⟩ trivial⟩
  | createOrder args =>
    obtain ⟨⟨s₁, order, txn⟩, hcall, h⟩ := bind_eq_ok.1 h
    obtain ⟨rfl, rfl⟩ := Prod.mk.inj (pure_eq_ok.1 h)
    obtain ⟨hkeyed, hty, hiff⟩ := create_first hacc hlead hkey hcall
    exact ⟨txn, rfl, hkeyed, by simp [hty], .inl hty, hiff⟩
  | reverse => exact absurd trivial hc
  | reward | cancelOrder | fulfillOrder | reportIssue | post => cases hkey

/-! ## Retries -/

/-- What a retry of the call, and another use of its key, come to. -/
structure RetrySafe (s : CreditState ctx) (env : CallEnv) (c : CreditCall) (result : CallResult) :
    Prop where
  /-- The same call returns the same transaction and writes nothing. -/
  again : ∃ s' result', runCall env s c = .ok (s', result') ∧
    result'.transaction = result.transaction ∧ s'.transactions = s.transactions ∧
    s'.orders = s.orders ∧ s'.events = s.events
  /-- A call that asks for another movement under the key raises `DomainError`. -/
  other : ∀ c', normaliseIdemKey c'.key = normaliseIdemKey c.key → (movement s c').isSome →
    Storable c' → movement s c' ≠ movement s c → ∃ message, runCall env s c' = .error (.domain message)

/-- A repeated reversal finds its original reversed, or links the row anew. -/
theorem reverse_not_again {originalId reason : String} {initiatedBy : Option Nat}
    {key : Option String} {result : CallResult} (hacc : AccountsOk ctx s.accounts)
    (h : runCall env s (.reverse originalId reason initiatedBy key) = .ok (s', result)) :
    s'.transactions ≠ s.transactions := by
  intro ht
  obtain ⟨⟨s₁, txn⟩, hcall, h⟩ := bind_eq_ok.1 h
  obtain ⟨rfl, -⟩ := Prod.mk.inj (pure_eq_ok.1 h)
  obtain ⟨original, mem, rfl, free, s₁, reversal, rfl, -, row, write⟩ :=
    reverseCreditTransaction_ok hacc hcall
  have hlinked : { reversal with reversesTransaction := some original.transactionId } ∈
      s.transactions.rows := by
    rw [← ht, linkReversal, Table.modify_rows]
    exact List.mem_map.2 ⟨reversal, write_mem write, if_pos rfl⟩
  exact free _ hlinked (write.elim (fun hr => hr.posted) fun hc => hc.posted) rfl

/-- What a call asks for does not change while rows and terms are kept. -/
theorem Asked.keeps_iff (hk : Keeps s s') (hlead : FreezesLead s)
    (hT : T ∈ s.transactions.rows) : Asked s T c ↔ Asked s' T c := by
  cases c with
  | createOrder args =>
    have hasks : ∀ {o o' : RedemptionOrder}, SameTerms o o' →
        (AsksFor ctx args o T ↔ AsksFor ctx args o' T) := by
      intro o o' hsame
      unfold AsksFor
      simp only [hsame.termsAgree]
    constructor
    · rintro ⟨hty, o, ho, hl, h⟩
      obtain ⟨o', ho', hsame⟩ := hk.orders o ho
      exact ⟨hty, o', ho', hsame.leadsTo hl, (hasks hsame).1 h⟩
    · rintro ⟨hty, o', ho', hl', h⟩
      obtain ⟨o, ho, hl⟩ := hlead T hT hty
      obtain ⟨o'', ho'', hsame⟩ := hk.orders o ho
      obtain rfl := LeadsTo.unique ho' ho'' hl' (hsame.leadsTo hl)
      exact ⟨hty, o, ho, hl, (hasks hsame).2 h⟩
  | _ => exact Iff.rfl

theorem movement_isSome (hkey : normaliseIdemKey c.key = some k) (hc : ¬ c.IsReversal) :
    (movement s c).isSome := by
  cases c with
  | issue | lock | unlock | transfer | deduct | createOrder => rfl
  | reverse => exact absurd trivial hc
  | reward | cancelOrder | fulfillOrder | reportIssue | post => cases hkey

/-- Under the key of its row a call is safe to retry exactly if it asks for the row. -/
theorem retrySafe_iff_asked {result : CallResult} (hacc : AccountsOk ctx s.accounts)
    (hlead : FreezesLead s) (h : Keyed s k T) (hreversal : T.transactionType ≠ .reversal)
    (hkey : normaliseIdemKey c.key = some k) (hc : ¬ c.IsReversal)
    (hstore : T.transactionType = .consume ∨ Storable c) (hresult : result.transaction = some T) :
    RetrySafe s env c result ↔ Asked s T c := by
  have hmove := movement_isSome (s := s) hkey hc
  obtain ⟨s', result', grown, hresult', hcheck⟩ :=
    call_checks env hacc hlead h hreversal hkey hmove hstore
  constructor
  · rintro ⟨⟨s'', result'', hrun, -⟩, -⟩
    exact (hcheck.eq_ok hrun).1
  · intro hasked
    refine ⟨⟨s', result', ?_, hresult'.trans hresult.symm, grown.transactions, grown.orders,
      grown.events⟩, ?_⟩
    · rcases hcheck with ⟨-, hrun⟩ | ⟨hno, -⟩
      · exact hrun
      · exact absurd hasked hno
    · intro c' hkey' hmove' hstore' hne
      obtain ⟨s'', result'', -, -, hcheck'⟩ :=
        call_checks env hacc hlead h hreversal (hkey'.trans hkey) hmove' (.inr hstore')
      refine hcheck'.raises fun hasked' => hne ?_
      obtain ⟨m, hm⟩ := Option.isSome_iff_exists.1 hmove
      obtain ⟨m', hm'⟩ := Option.isSome_iff_exists.1 hmove'
      rw [hm, hm', (hasked'.moved hm').unique (hasked.moved hm)]

/-- **Retry safety.** A successful keyed call can be repeated after any other calls, and its key
is refused to other movements, exactly if the call is retryable in the state it was made in. -/
theorem retrySafe_iff (ctx : Context) (before after : List (CallEnv × CreditCall))
    (hbefore : ∀ d ∈ before, NoRawFreeze d.2) (hafter : ∀ d ∈ after, NoRawFreeze d.2)
    (env env' : CallEnv) (c : CreditCall) (k : String) (hkey : normaliseIdemKey c.key = some k)
    (s₁ : CreditState ctx) (result : CallResult)
    (hcall : runCall env (creditRun ctx before) c = .ok (s₁, result)) :
    RetrySafe (runCalls creditStep s₁ after) env' c result ↔
      Retryable (creditRun ctx before) env c := by
  have hstep : ∀ (s : CreditState ctx) env c s', AccountsOk ctx s.accounts → FreezesLead s →
      NoRawFreeze c → Effect env s s' c → FreezesLead s' :=
    fun s env c s' _ hlead hc he => he.freezesLead hlead hc
  have heach : ∀ (s : CreditState ctx) cs, (∀ d ∈ cs, NoRawFreeze d.2) →
      EachCall creditStep (fun _ (d : CallEnv × CreditCall) => NoRawFreeze d.2) s cs :=
    fun s cs hcs => EachCall.of_forall s fun d hd _ => hcs d hd
  obtain ⟨hacc, hlead⟩ := creditRun_invariant (fun _ _ _ h => absurd h List.not_mem_nil)
    hstep (heach _ before hbefore)
  have heffect := runCall_effect hacc hcall
  have hacc₁ := hacc.grow (heffect.accounts hacc)
  by_cases hc : c.IsReversal
  · -- a reversal is not retryable, whatever happens in between
    cases c with
    | reverse originalId reason initiatedBy key =>
      refine iff_of_false ?_ id
      rintro ⟨⟨s', result', hrun, -, ht, -⟩, -⟩
      exact reverse_not_again (runCalls_accounts hacc₁ after) hrun ht
    | _ => exact hc.elim
  · have hraw : NoRawFreeze c := by
      cases c with
      | post => cases hkey
      | _ => trivial
    have hlead₁ := heffect.freezesLead hlead hraw
    obtain ⟨hacc₂, hlead₂⟩ := runCalls_credit hstep hacc₁ hlead₁ (heach s₁ after hafter)
    have hkeeps : Keeps s₁ (runCalls creditStep s₁ after) :=
      creditRun_rel Keeps.refl (fun _ _ _ => Keeps.trans)
        (fun s env c s' _ _ he => he.keeps) hacc₁ (heach s₁ after hafter)
    obtain ⟨T, hresult, hkeyed, hreversal, hstore, hiff⟩ :=
      first_call hacc hlead hkey hc hcall
    have hkeyed₂ : Keyed (runCalls creditStep s₁ after) k T :=
      ⟨hkeeps.rows T hkeyed.mem hreversal, hkeyed.posted, hkeyed.carries⟩
    rw [retrySafe_iff_asked hacc₂ hlead₂ hkeyed₂ hreversal hkey hc hstore hresult, ← hiff]
    exact (Asked.keeps_iff hkeeps hlead₁ hkeyed.mem).symm

/-- An issuance under a key, retried after another one. -/
theorem retrySafe_iff_issue : ∃ s₁ result,
    runCall (strokeEnv 1) (creditRun strokeContext []) (.issue 5 "" 0 0 (some "k")) =
      .ok (s₁, result) ∧
    RetrySafe (runCalls creditStep s₁ [(strokeEnv 2, .issue 7 "" 0 0 none)]) (strokeEnv 3)
      (.issue 5 "" 0 0 (some "k")) result := by
  have hok : (runCall (strokeEnv 1) (creditRun strokeContext [])
      (.issue 5 "" 0 0 (some "k"))).isOk = true := by
    decide +kernel
  cases hcall : runCall (strokeEnv 1) (creditRun strokeContext []) (.issue 5 "" 0 0 (some "k")) with
  | error e =>
    rw [hcall] at hok
    cases hok
  | ok r =>
    obtain ⟨s₁, result⟩ := r
    have hiff := retrySafe_iff strokeContext [] [(strokeEnv 2, .issue 7 "" 0 0 none)]
      (fun _ h => absurd h List.not_mem_nil) (by simp [NoRawFreeze]) (strokeEnv 1) (strokeEnv 3)
      (.issue 5 "" 0 0 (some "k")) "k" (by decide) s₁ result hcall
    exact ⟨s₁, result, rfl, hiff.2 trivial⟩

/-- A reward is reversed under a key, and the same reversal fails at once when it is repeated. -/
theorem reverse_not_retrySafe : ∃ s₁ result,
    runCall (strokeEnv 2)
      (creditRun strokeContext [(strokeEnv 1, .reward "t" 0 6 ⟨"e", ""⟩ none "" true)])
      (.reverse "ct-|" "" none (some "k")) = .ok (s₁, result) ∧
    ¬ RetrySafe s₁ (strokeEnv 3) (.reverse "ct-|" "" none (some "k")) result := by
  have hruns : (match runCall (strokeEnv 2)
      (creditRun strokeContext [(strokeEnv 1, .reward "t" 0 6 ⟨"e", ""⟩ none "" true)])
      (.reverse "ct-|" "" none (some "k")) with
    | .ok (s₁, _) => !(runCall (strokeEnv 3) s₁ (.reverse "ct-|" "" none (some "k"))).isOk
    | .error _ => false) = true := by
    decide +kernel
  cases hcall : runCall (strokeEnv 2)
      (creditRun strokeContext [(strokeEnv 1, .reward "t" 0 6 ⟨"e", ""⟩ none "" true)])
      (.reverse "ct-|" "" none (some "k")) with
  | error e =>
    rw [hcall] at hruns
    cases hruns
  | ok r =>
    rw [hcall] at hruns
    obtain ⟨s₁, result⟩ := r
    refine ⟨s₁, result, rfl, fun h => ?_⟩
    obtain ⟨s', result', hagain, -⟩ := h.again
    simp only [hagain] at hruns
    cases hruns

end LiveOs.Credit
