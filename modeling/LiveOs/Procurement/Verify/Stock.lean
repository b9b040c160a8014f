import LiveOs.Lib.RunningBalance
import LiveOs.Procurement.Verify.Rejections

/-!
# The stock ledger

The stock of a resource is written in two places, the row of the resource and the transactions on
it, by adjustments and by receipts. Both go through `record_resource_adjustment`, which reads the
row, adds the delta and appends one transaction, so the transactions of a resource lead from the
stock it began with to the stock it has.
-/

namespace LiveOs.Procurement

open Lib EventLedger Roles

variable {rt : Runtime} {env : ProcurementEnv} {s s' s₀ : ProcurementState rt}

/-! ## Decimals with three places -/

namespace PyDecimal

variable {a d : PyDecimal}

/-- At most three decimals. -/
def AtMostThree (d : PyDecimal) : Prop := -3 ≤ d.exponent

instance (d : PyDecimal) : Decidable d.AtMostThree := inferInstanceAs (Decidable (_ ≤ _))

/-- Exactly three decimals, as the columns have them. -/
def Three (d : PyDecimal) : Prop := d.exponent = -3

theorem Three.atMostThree (h : d.Three) : d.AtMostThree := h.symm.le

theorem quantize_three (d : PyDecimal) : (d.quantize 3).Three := by
  unfold quantize Three
  dsimp only
  split <;> rfl

/-- A column keeps a decimal that has its places. -/
theorem Three.quantize (h : d.Three) : d.quantize 3 = d := by
  obtain ⟨c, e⟩ := d
  obtain rfl : e = -3 := h
  simp [PyDecimal.quantize]

theorem quantize_of_atMostThree (h : d.AtMostThree) :
    d.quantize 3 = ⟨d.coefficient * 10 ^ (d.exponent + 3).toNat, -3⟩ := by
  have hshift : 0 ≤ d.exponent + (3 : Nat) := by
    have := h
    unfold AtMostThree at this
    omega
  unfold PyDecimal.quantize
  dsimp only
  rw [if_pos hshift]
  rfl

theorem three_add (ha : a.Three) (hd : d.AtMostThree) : (a.add d).Three := by
  have hmin : min a.exponent d.exponent = -3 := by
    rw [ha]
    exact min_eq_left hd
  exact hmin

/-- Adding a delta is adding what its column keeps of it. -/
theorem add_quantize (ha : a.Three) (hd : d.AtMostThree) : a.add (d.quantize 3) = a.add d := by
  have hmin : min a.exponent d.exponent = -3 := three_add ha hd
  have hsub : d.exponent - -3 = d.exponent + 3 := by omega
  have hkept := quantize_of_atMostThree hd
  have hmin' : min a.exponent (d.quantize 3).exponent = -3 := three_add ha (quantize_three d).atMostThree
  unfold PyDecimal.add PyDecimal.aligned
  dsimp only
  rw [hmin, hmin', hkept, hsub]
  simp

end PyDecimal

open PyDecimal

/-! ## Transactions as a log -/

/-- What a stock row records. -/
def stockFormat : BalanceFormat PyDecimal PyDecimal ResourceTransaction where
  add := PyDecimal.add
  before := ResourceTransaction.stockBefore
  amount := ResourceTransaction.quantityDelta
  after := ResourceTransaction.stockAfter

/-- The transactions on a resource, in the order they were recorded. -/
def movements (rows : List ResourceTransaction) (resourceId : String) : List ResourceTransaction :=
  rows.filter fun t => t.resource = resourceId

/-- A change that keeps the resource of a row. -/
theorem movements_map {f : ResourceTransaction → ResourceTransaction}
    (hf : ∀ t, (f t).resource = t.resource)
    (rows : List ResourceTransaction) (resourceId : String) :
    movements (rows.map f) resourceId = (movements rows resourceId).map f := by
  unfold movements
  rw [List.filter_map]
  congr 1
  exact List.filter_congr fun t _ => by simp [hf]

/-- The row of an adjustment goes on from the stock of the resource. -/
theorem stored_entry {args : AdjustArgs} {cleanedReason transactionId : String}
    {resource : Resource} (hstock : resource.currentStock.Three) (hdelta : args.delta.AtMostThree)
    {t : ResourceTransaction}
    (ht : t = (adjustmentTransaction env args cleanedReason resource transactionId).stored) :
    t.stockBefore = resource.currentStock ∧
      t.stockAfter = resource.currentStock.add t.quantityDelta ∧
      t.stockAfter = (resource.currentStock.add args.delta).quantize 3 := by
  obtain rfl := ht
  have hafter : ((resource.currentStock.add args.delta).quantize 3) =
      resource.currentStock.add args.delta := (three_add hstock hdelta).quantize
  refine ⟨hstock.quantize, ?_, rfl⟩
  exact hafter.trans (add_quantize hstock hdelta).symm

/-! ## Successful calls -/

/-- What an adjustment writes. -/
structure Adjusted (env : ProcurementEnv) (args : AdjustArgs) (s s' : ProcurementState rt)
    (txn : ResourceTransaction) : Prop where
  entry : ∃ resource ∈ s.resources.rows, ∃ cleanedReason transactionId,
    0 ≤ (resource.currentStock.add args.delta).coefficient ∧
    txn = adjustmentTransaction env args cleanedReason resource transactionId ∧
    s'.resources = saveResource s.resources (adjustedResource env args cleanedReason resource)
  stock : s'.stock.rows = s.stock.rows ++ [txn.stored]
  quotes : s'.quotes = s.quotes

theorem recordResourceAdjustment_ok {resourceId : String} {args : AdjustArgs}
    {txn : ResourceTransaction}
    (h : recordResourceAdjustment env s resourceId args = .ok (s', txn)) :
    Adjusted env args s s' txn := by
  obtain ⟨-, h⟩ := rejectIf_bind_eq_ok.1 h
  obtain ⟨-, h⟩ := rejectIf_bind_eq_ok.1 h
  obtain ⟨resource, hresource, h⟩ := bind_eq_ok.1 h
  obtain ⟨hnonneg, h⟩ := rejectIf_bind_eq_ok.1 h
  obtain ⟨transactionId, -, h⟩ := bind_eq_ok.1 h
  obtain ⟨stock, hstock, h⟩ := bind_eq_ok.1 h
  obtain ⟨eventId, -, h⟩ := bind_eq_ok.1 h
  obtain ⟨resourceEvents, -, h⟩ := bind_eq_ok.1 h
  obtain ⟨s₁, happend, h⟩ := bind_eq_ok.1 h
  obtain ⟨events, -, happend⟩ := bind_eq_ok.1 happend
  obtain ⟨rfl, rfl⟩ := Prod.mk.inj (pure_eq_ok.1 h)
  obtain rfl := pure_eq_ok.1 happend
  obtain ⟨hrow, -⟩ := Table.get?_eq_some.1 (related_eq_ok.1 hresource)
  exact ⟨⟨resource, hrow, _, transactionId, not_lt.1 hnonneg, rfl, rfl⟩, (Table.insert_ok hstock).1,
    rfl⟩

/-- What a receipt writes: the stock of an accepted one, with the offer entered in its row, and the
receipt fields of the offer. -/
structure Received (env : ProcurementEnv) (s s' : ProcurementState rt) (quote : SupplierQuote)
    (mid : ProcurementState rt) : Prop where
  offer : quote ∈ s.quotes.rows
  stock : mid = s ∨ ∃ args s₁ txn, args.delta = quote.availableQuantity ∧
    Adjusted env args s s₁ txn ∧ mid.resources = s₁.resources ∧ mid.quotes = s₁.quotes ∧
    mid.stock.rows = s₁.stock.rows.map fun t => if t.transactionId = txn.transactionId
      then { t with relatedSupplierQuote := some quote.quoteId } else t
  saved : ∃ changed, s'.quotes = (saveQuote mid changed).quotes
  rest : s'.resources = mid.resources ∧ s'.stock = mid.stock

theorem appendTo_ok {req : AppendRequest} (h : appendTo s req = .ok s') :
    s'.resources = s.resources ∧ s'.stock = s.stock ∧ s'.quotes = s.quotes := by
  obtain ⟨events, -, h⟩ := bind_eq_ok.1 h
  obtain rfl := pure_eq_ok.1 h
  exact ⟨rfl, rfl, rfl⟩

theorem appendOfferEvent_ok {now : Nat} {quote : SupplierQuote} {eventType action : String}
    {actor : Member} {occurredAt : Option Nat}
    (h : appendOfferEvent s now quote eventType action actor occurredAt = .ok s') :
    s'.resources = s.resources ∧ s'.stock = s.stock ∧ s'.quotes = s.quotes := by
  obtain ⟨payload, -, h⟩ := bind_eq_ok.1 h
  exact appendTo_ok h

theorem lockQuote_ok {quoteId : String} {quote : SupplierQuote}
    (h : lockQuote s quoteId = .ok quote) : quote ∈ s.quotes.rows := by
  unfold lockQuote at h
  split at h
  · cases h
  · rename_i q hget
    obtain rfl := Except.ok.inj h
    exact (Table.get?_eq_some.1 hget).1

theorem recordOfferReceipt_ok {quoteId receiptStatus receiptNotes : String} {receivedBy : Member}
    {simulationDay : Int} (h : recordOfferReceipt env s quoteId receivedBy receiptStatus
      receiptNotes simulationDay = .ok s') : ∃ quote mid, Received env s s' quote mid := by
  obtain ⟨quote, hlock, h⟩ := bind_eq_ok.1 h
  obtain ⟨status, -, h⟩ := bind_eq_ok.1 h
  dsimp only at h
  by_cases haccepted : status = .accepted
  · rw [if_pos haccepted] at h
    obtain ⟨mid, hmid, h⟩ := bind_eq_ok.1 h
    obtain ⟨⟨s₁, txn⟩, hadjust, hmid⟩ := bind_eq_ok.1 hmid
    replace hmid := pure_eq_ok.1 hmid
    obtain ⟨hresources, hstock, hquotes⟩ := appendOfferEvent_ok h
    refine ⟨quote, mid, lockQuote_ok hlock, .inr ⟨_, s₁, txn, rfl,
      recordResourceAdjustment_ok hadjust, ?_, ?_, ?_⟩, ⟨_, hquotes⟩, hresources, hstock⟩
    · rw [← hmid]
    · rw [← hmid]
    · rw [← hmid]
      rfl
  · rw [if_neg haccepted] at h
    obtain ⟨mid, hmid, h⟩ := bind_eq_ok.1 h
    obtain rfl := Except.ok.inj hmid
    obtain ⟨hresources, hstock, hquotes⟩ := appendOfferEvent_ok h
    exact ⟨quote, _, lockQuote_ok hlock, .inl rfl, ⟨_, hquotes⟩, hresources, hstock⟩

/-! ## The books -/

/-- Resources and transactions agree on the way from the stock at the start. -/
structure Books (s₀ s : ProcurementState rt) : Prop where
  resources : s.resources.rows.map Resource.resourceId = s₀.resources.rows.map Resource.resourceId
  stock : ∀ r ∈ s.resources.rows, ∃ r₀ ∈ s₀.resources.rows, r₀.resourceId = r.resourceId ∧
    r.currentStock.Three ∧ 0 ≤ r.currentStock.coefficient ∧
    stockFormat.Chained r₀.currentStock (movements s.stock.rows r.resourceId) r.currentStock
  quotes : ∀ q ∈ s.quotes.rows, q.availableQuantity.AtMostThree

/-- A state with the same stock and other offers of the same quantities. -/
theorem Books.congr (h : Books s₀ s) (hresources : s'.resources = s.resources)
    (hstock : ∀ resourceId start stop,
      stockFormat.Chained start (movements s.stock.rows resourceId) stop →
      stockFormat.Chained start (movements s'.stock.rows resourceId) stop)
    (hquotes : ∀ q' ∈ s'.quotes.rows, ∃ q ∈ s.quotes.rows,
      q'.availableQuantity = q.availableQuantity) : Books s₀ s' := by
  refine ⟨by rw [hresources]; exact h.resources, ?_, ?_⟩
  · intro r hr
    rw [hresources] at hr
    obtain ⟨r₀, hr₀, hid, hthree, hnonneg, hchained⟩ := h.stock r hr
    exact ⟨r₀, hr₀, hid, hthree, hnonneg, hstock _ _ _ hchained⟩
  · intro q' hq'
    obtain ⟨q, hq, hquantity⟩ := hquotes q' hq'
    rw [hquantity]
    exact h.quotes q hq

/-- An adjustment keeps the books. -/
theorem Adjusted.books {args : AdjustArgs} {txn : ResourceTransaction}
    (h : Adjusted env args s s' txn) (hdelta : args.delta.AtMostThree) (hbooks : Books s₀ s) :
    Books s₀ s' := by
  obtain ⟨resource, hresource, cleanedReason, transactionId, hnonneg, htxn, hsaved⟩ := h.entry
  have hrows : s'.resources.rows = s.resources.rows.map fun r =>
      if r.resourceId = resource.resourceId then { r with
        currentStock := (resource.currentStock.add args.delta).quantize 3
        replenishmentMethod := (adjustedResource env args cleanedReason resource).replenishmentMethod
        metadata := (adjustedResource env args cleanedReason resource).metadata } else r := by
    rw [hsaved]
    rfl
  obtain ⟨r₀, hr₀, hid₀, hthree, -, hchained⟩ := hbooks.stock resource hresource
  obtain ⟨hbefore, hafter, hstored⟩ := stored_entry (t := txn.stored) hthree hdelta
    (congrArg ResourceTransaction.stored htxn)
  have hresource_txn : txn.stored.resource = resource.resourceId := by
    rw [htxn]
    rfl
  refine ⟨?_, ?_, by rw [h.quotes]; exact hbooks.quotes⟩
  · rw [hrows, List.map_map, ← hbooks.resources]
    refine List.map_congr_left fun r _ => ?_
    simp only [Function.comp_apply]
    split <;> rfl
  · intro r' hr'
    rw [hrows] at hr'
    obtain ⟨r, hr, rfl⟩ := List.mem_map.1 hr'
    by_cases hsame : r.resourceId = resource.resourceId
    · -- the adjusted row: its transactions end with the new one
      rw [if_pos hsame]
      have hmoves : movements s'.stock.rows resource.resourceId =
          movements s.stock.rows resource.resourceId ++ [txn.stored] := by
        rw [movements, h.stock, List.filter_append, movements]
        simp [hresource_txn]
      refine ⟨r₀, hr₀, hid₀.trans hsame.symm, quantize_three _, ?_, ?_⟩
      · rw [(three_add hthree hdelta).quantize]
        exact hnonneg
      · rw [show r.resourceId = resource.resourceId from hsame, hmoves, ← hstored]
        exact hchained.concat hbefore hafter
    · rw [if_neg hsame]
      obtain ⟨r₁, hr₁, hid₁, hthree₁, hnonneg₁, hchained₁⟩ := hbooks.stock r hr
      have hmoves : movements s'.stock.rows r.resourceId = movements s.stock.rows r.resourceId := by
        rw [movements, h.stock, List.filter_append, movements]
        simp [hresource_txn, Ne.symm hsame]
      exact ⟨r₁, hr₁, hid₁, hthree₁, hnonneg₁, by rw [hmoves]; exact hchained₁⟩

/-- So does a receipt. -/
theorem Received.books {quote : SupplierQuote} {mid : ProcurementState rt}
    (h : Received env s s' quote mid) (hbooks : Books s₀ s) : Books s₀ mid ∧ Books s₀ s' := by
  have hmid : Books s₀ mid := by
    rcases h.stock with rfl | ⟨args, s₁, txn, hdelta, hadjusted, hresources, hquotes, hstock⟩
    · exact hbooks
    · have hthree : args.delta.AtMostThree := by
        rw [hdelta]
        exact hbooks.quotes quote h.offer
      refine (hadjusted.books hthree hbooks).congr hresources ?_ ?_
      · intro resourceId start stop hchained
        rw [hstock, movements_map fun t => by split <;> rfl]
        exact (BalanceFormat.chained_map (fun t _ => by split <;> rfl)
          (fun t _ => by split <;> rfl) fun t _ => by split <;> rfl).2 hchained
      · intro q hq
        exact ⟨q, hquotes ▸ hq, rfl⟩
  refine ⟨hmid, hmid.congr h.rest.1 ?_ ?_⟩
  · intro resourceId start stop hchained
    rw [h.rest.2]
    exact hchained
  · obtain ⟨changed, hchanged⟩ := h.saved
    intro q' hq'
    rw [hchanged] at hq'
    obtain ⟨q, hq, rfl⟩ := List.mem_map.1 hq'
    refine ⟨q, hq, ?_⟩
    split <;> rfl

/-! ## Runs -/

/-- A call that moves stock. -/
inductive StockCall where
  | adjust (resourceId : String) (args : AdjustArgs)
  | receive (quoteId : String) (receivedBy : Member) (receiptStatus receiptNotes : String)
    (simulationDay : Int)

/-- The state after a call that succeeds. -/
def stockStep (s : ProcurementState rt) (c : ProcurementEnv × StockCall) :
    Except Error (ProcurementState rt) :=
  match c.2 with
  | .adjust resourceId args => do
    let (s, _) ← recordResourceAdjustment c.1 s resourceId args
    return s
  | .receive quoteId receivedBy receiptStatus receiptNotes simulationDay =>
    recordOfferReceipt c.1 s quoteId receivedBy receiptStatus receiptNotes simulationDay

/-- The delta of an adjustment has at most three decimals. -/
def StockCall.DeltaOk : StockCall → Prop
  | .adjust _ args => args.delta.AtMostThree
  | .receive .. => True

/-- A database in which no stock has moved: the columns have three decimals, and no resource has
less than nothing. -/
structure Unmoved (s₀ : ProcurementState rt) : Prop where
  stock : s₀.stock.rows = []
  resources : ∀ r ∈ s₀.resources.rows, r.currentStock.Three ∧ 0 ≤ r.currentStock.coefficient
  quotes : ∀ q ∈ s₀.quotes.rows, q.availableQuantity.Three

theorem Unmoved.books (h : Unmoved s₀) : Books s₀ s₀ := by
  refine ⟨rfl, ?_, fun q hq => (h.quotes q hq).atMostThree⟩
  intro r hr
  obtain ⟨hthree, hnonneg⟩ := h.resources r hr
  refine ⟨r, hr, rfl, hthree, hnonneg, ?_⟩
  rw [h.stock]
  rfl

theorem stockStep_books {c : ProcurementEnv × StockCall} (hbooks : Books s₀ s) (hdelta : c.2.DeltaOk)
    (h : stockStep s c = .ok s') : Books s₀ s' := by
  obtain ⟨env, c⟩ := c
  cases c with
  | adjust resourceId args =>
    obtain ⟨⟨s₁, txn⟩, hadjust, h⟩ := bind_eq_ok.1 h
    obtain rfl := pure_eq_ok.1 h
    exact (recordResourceAdjustment_ok hadjust).books hdelta hbooks
  | receive quoteId receivedBy receiptStatus receiptNotes simulationDay =>
    obtain ⟨quote, mid, hreceived⟩ := recordOfferReceipt_ok h
    exact (hreceived.books hbooks).2

/-- What the stock ledger says after a run. -/
structure StockLedger (s₀ : ProcurementState rt) (cs : List (ProcurementEnv × StockCall)) :
    Prop where
  /-- No resource appears or goes. -/
  resources : (runCalls stockStep s₀ cs).resources.rows.map Resource.resourceId =
    s₀.resources.rows.map Resource.resourceId
  /-- The stock is the first one with the deltas of all transactions added. -/
  balance : ∀ r ∈ (runCalls stockStep s₀ cs).resources.rows, ∃ r₀ ∈ s₀.resources.rows,
    r₀.resourceId = r.resourceId ∧ r.currentStock =
      ((movements (runCalls stockStep s₀ cs).stock.rows r.resourceId).map
        ResourceTransaction.quantityDelta).foldl PyDecimal.add r₀.currentStock
  nonneg : ∀ r ∈ (runCalls stockStep s₀ cs).resources.rows, 0 ≤ r.currentStock.coefficient
  /-- The transactions lead from the first stock to the present one. -/
  chained : ∀ r ∈ (runCalls stockStep s₀ cs).resources.rows, ∃ r₀ ∈ s₀.resources.rows,
    r₀.resourceId = r.resourceId ∧ stockFormat.Chained r₀.currentStock
      (movements (runCalls stockStep s₀ cs).stock.rows r.resourceId) r.currentStock
  /-- Each begins where the one before it ended. -/
  neighbours : ∀ r ∈ (runCalls stockStep s₀ cs).resources.rows, ∀ xs t u ys,
    movements (runCalls stockStep s₀ cs).stock.rows r.resourceId = xs ++ t :: u :: ys →
    u.stockBefore = t.stockAfter
  /-- A call that raises leaves the whole state as it was. -/
  failing : ∀ before c after, cs = before ++ c :: after → ∀ e,
    stockStep (runCalls stockStep s₀ before) c = .error e →
    runCalls stockStep s₀ (before ++ [c]) = runCalls stockStep s₀ before

/-- **The stock ledger.** -/
theorem stockRun_ledger (s₀ : ProcurementState rt) (h₀ : Unmoved s₀)
    (cs : List (ProcurementEnv × StockCall)) (hcs : ∀ c ∈ cs, c.2.DeltaOk) : StockLedger s₀ cs := by
  have hbooks : Books s₀ (runCalls stockStep s₀ cs) :=
    EachCall.invariant (fun _ _ _ hbooks hdelta hstep => stockStep_books hbooks hdelta hstep)
      h₀.books (@EachCall.of_forall _ _ _ _ (fun _ c => c.2.DeltaOk) _ _ fun c hc _ => hcs c hc)
  refine ⟨hbooks.resources, ?_, ?_, ?_, ?_, ?_⟩
  · intro r hr
    obtain ⟨r₀, hr₀, hid, -, -, hchained⟩ := hbooks.stock r hr
    exact ⟨r₀, hr₀, hid, hchained.stop_eq⟩
  · intro r hr
    obtain ⟨-, -, -, -, hnonneg, -⟩ := hbooks.stock r hr
    exact hnonneg
  · intro r hr
    obtain ⟨r₀, hr₀, hid, -, -, hchained⟩ := hbooks.stock r hr
    exact ⟨r₀, hr₀, hid, hchained⟩
  · intro r hr xs t u ys hlog
    obtain ⟨_, _, -, -, -, hchained⟩ := hbooks.stock r hr
    exact hchained.neighbours hlog
  · intro before c after _ e herror
    rw [runCalls_append, runCalls_cons, runCalls_nil, afterCall_error herror]

/-- A delivery of 2.5 kg, and a withdrawal of 5 kg that fails. -/
def storeDay : List (ProcurementEnv × StockCall) := [
  (officeEnv 1 "a", .adjust "r" ⟨⟨25, -1⟩, [], "in", "donation", 1⟩),
  (officeEnv 2 "b", .adjust "r" ⟨⟨-5, 0⟩, [], "out", "reuse", 1⟩)]

theorem stockRun_ledger_storeDay : StockLedger openStore storeDay ∧
    (runCalls stockStep openStore storeDay).resources.rows.map Resource.currentStock =
      [⟨2500, -3⟩] := by
  have hunmoved : Unmoved openStore := by
    refine ⟨rfl, ?_, fun q hq => absurd hq List.not_mem_nil⟩
    intro r hr
    obtain rfl := List.mem_singleton.1 hr
    exact ⟨rfl, le_refl _⟩
  refine ⟨stockRun_ledger openStore hunmoved storeDay ?_, by decide +kernel⟩
  simp only [storeDay, List.forall_mem_cons, List.not_mem_nil, false_imp_iff, implies_true,
    and_true, StockCall.DeltaOk]
  decide

end LiveOs.Procurement
