import LiveOs.Credit.Verify.Effects

/-!
# Runs of the credit services

What every run keeps: the account table knows its accounts. What one new row does to the sums that
balances are made of.
-/

namespace LiveOs.Credit

open Lib EventLedger

variable {ctx : Context} {env : CallEnv} {s s' : CreditState ctx} {c : CreditCall}

/-! ## Accounts -/

theorem Closed.accounts {order : RedemptionOrder} {txnType : TxnType} {target : String}
    {key : Option String} {metadata : Json} {fields : RedemptionOrder → RedemptionOrder}
    (h : Closed s s' order txnType target key metadata fields) :
    Grows ctx s.accounts s'.accounts := by
  obtain ⟨s₁, txn, -, hwrite, -, heq⟩ := h.posted
  rw [heq]
  exact hwrite.elim (fun hr => hr.grown.accounts) fun hc => hc.1.accounts

theorem Ordered.accounts {args : CreateOrderArgs} {itemType : ItemType} {order : RedemptionOrder}
    {txn : CreditTransaction} (h : Ordered env s s' args itemType order txn) :
    Grows ctx s.accounts s'.accounts := by
  obtain ⟨s₁, hplace, hwrite⟩ := h.writes
  have h₁ : Grows ctx s.accounts s₁.accounts :=
    hplace.elim (fun h => h.1.accounts) fun h => h.1.accounts
  have h₂ : Grows ctx s₁.accounts s'.accounts :=
    hwrite.elim (fun h => h.grown.accounts) fun h => h.1.accounts
  exact ⟨h₂.known, fun a ha => h₂.subset a (h₁.subset a ha)⟩

theorem Effect.accounts (hacc : AccountsOk ctx s.accounts) (h : Effect env s s' c) :
    Grows ctx s.accounts s'.accounts := by
  cases h with
  | idle grown => exact grown.accounts
  | entered created entry ends => exact created.accounts
  | posted type row created => exact created.accounts
  | reversed mem free row write linked =>
    rw [linked]
    exact write.elim (fun hr => hr.grown.accounts) fun hc => hc.accounts
  | ordered item missing ordered => exact ordered.accounts
  | cancelled mem account closed => exact closed.accounts
  | fulfilled mem closed => exact closed.accounts
  | reported mem pending updated => rw [updated]; exact ⟨hacc.known, fun _ ha => ha⟩

/-- The initial state has the system accounts and nothing else. -/
theorem initialState_eq (ctx : Context) : ∃ accounts, AccountsOk ctx accounts ∧
    initialState ctx = { CreditState.fresh ctx with accounts := accounts } := by
  have hfresh : AccountsOf ctx (CreditState.fresh ctx).accounts :=
    fun a ha => absurd ha List.not_mem_nil
  obtain ⟨accounts, heq, hok, -⟩ := ensureSystemAccounts_ok hfresh
  exact ⟨accounts, hok, by rw [initialState, heq]⟩

/-- **Invariants of credit runs.** It is enough to keep an invariant over the effects of calls. -/
theorem runCalls_credit {Inv : CreditState ctx → Prop}
    {ok : CreditState ctx → CallEnv × CreditCall → Prop}
    (hstep : ∀ s env c s', AccountsOk ctx s.accounts → Inv s → ok s (env, c) →
      Effect env s s' c → Inv s')
    (hacc : AccountsOk ctx s.accounts) (h : Inv s) {cs : List (CallEnv × CreditCall)}
    (hcs : EachCall creditStep ok s cs) :
    AccountsOk ctx (runCalls creditStep s cs).accounts ∧ Inv (runCalls creditStep s cs) := by
  have hkeep : ∀ s c s', AccountsOk ctx s.accounts ∧ Inv s → ok s c → creditStep s c = .ok s' →
      AccountsOk ctx s'.accounts ∧ Inv s' := by
    rintro s ⟨env, c⟩ s' ⟨hacc, hinv⟩ hok hcall
    obtain ⟨result, hrun⟩ := creditStep_eq_ok hcall
    have heffect := runCall_effect hacc hrun
    exact ⟨hacc.grow (heffect.accounts hacc), hstep s env c s' hacc hinv hok heffect⟩
  exact EachCall.invariant hkeep ⟨hacc, h⟩ hcs

theorem runCalls_accounts (hacc : AccountsOk ctx s.accounts) (cs : List (CallEnv × CreditCall)) :
    AccountsOk ctx (runCalls creditStep s cs).accounts := by
  have heach : EachCall creditStep (fun _ _ => True) s cs :=
    EachCall.of_forall s fun _ _ _ => trivial
  have hinv : ∀ (s : CreditState ctx) env c s', AccountsOk ctx s.accounts → True → True →
      Effect env s s' c → True := fun _ _ _ _ _ _ _ _ => trivial
  exact (runCalls_credit hinv hacc trivial heach).1

/-- The same from the initial state. -/
theorem creditRun_invariant {Inv : CreditState ctx → Prop}
    {ok : CreditState ctx → CallEnv × CreditCall → Prop}
    (hinit : ∀ accounts, AccountsOk ctx accounts →
      Inv { CreditState.fresh ctx with accounts := accounts })
    (hstep : ∀ s env c s', AccountsOk ctx s.accounts → Inv s → ok s (env, c) →
      Effect env s s' c → Inv s')
    {cs : List (CallEnv × CreditCall)} (hcs : EachCall creditStep ok (initialState ctx) cs) :
    AccountsOk ctx (creditRun ctx cs).accounts ∧ Inv (creditRun ctx cs) := by
  obtain ⟨accounts, hok, heq⟩ := initialState_eq ctx
  have hstart : AccountsOk ctx (initialState ctx).accounts ∧ Inv (initialState ctx) := by
    rw [heq]
    exact ⟨hok, hinit accounts hok⟩
  exact runCalls_credit hstep hstart.1 hstart.2 hcs

theorem creditRun_append (ctx : Context) (cs ds : List (CallEnv × CreditCall)) :
    creditRun ctx (cs ++ ds) = runCalls creditStep (creditRun ctx cs) ds :=
  runCalls_append _ _ _

theorem creditRun_accounts (ctx : Context) (cs : List (CallEnv × CreditCall)) :
    AccountsOk ctx (creditRun ctx cs).accounts := by
  obtain ⟨accounts, hacc, heq⟩ := initialState_eq ctx
  exact runCalls_accounts (by rw [heq]; exact hacc) cs

/-- **Frames of credit runs.** A relation that every effect respects relates the ends of a run. -/
theorem creditRun_rel {R : CreditState ctx → CreditState ctx → Prop}
    {ok : CreditState ctx → CallEnv × CreditCall → Prop} (hrefl : ∀ s, R s s)
    (htrans : ∀ a b c, R a b → R b c → R a c)
    (hstep : ∀ s env c s', AccountsOk ctx s.accounts → ok s (env, c) → Effect env s s' c → R s s')
    (hacc : AccountsOk ctx s.accounts) {cs : List (CallEnv × CreditCall)}
    (hcs : EachCall creditStep ok s cs) : R s (runCalls creditStep s cs) := by
  have heffect : ∀ (s : CreditState ctx) c s', AccountsOk ctx s.accounts →
      creditStep s c = .ok s' → Effect c.1 s s' c.2 := by
    rintro s ⟨env, c⟩ s' hacc hcall
    obtain ⟨result, hrun⟩ := creditStep_eq_ok hcall
    exact runCall_effect hacc hrun
  have hkeep : ∀ (s : CreditState ctx) c s', AccountsOk ctx s.accounts → ok s c →
      creditStep s c = .ok s' → AccountsOk ctx s'.accounts :=
    fun s c s' hacc _ hcall => hacc.grow ((heffect s c s' hacc hcall).accounts hacc)
  have hrel : ∀ (s : CreditState ctx) c s', AccountsOk ctx s.accounts → ok s c →
      creditStep s c = .ok s' → R s s' :=
    fun s c s' hacc hok hcall => hstep s c.1 c.2 s' hacc hok (heffect s c s' hacc hcall)
  exact EachCall.rel hrefl htrans hkeep hrel hacc hcs

/-! ## Sums -/

theorem postedSum_of_transactions (h : s'.transactions = s.transactions)
    (p : CreditTransaction → Bool) : postedSum s' p = postedSum s p := by
  rw [postedSum, postedSum, h]

/-- A new posted row adds its amount where the test holds. -/
theorem postedSum_of_rows {t : CreditTransaction}
    (hrows : s'.transactions.rows = s.transactions.rows ++ [t]) (hposted : t.status = .posted)
    (p : CreditTransaction → Bool) :
    postedSum s' p = postedSum s p + if p t then t.amount else 0 := by
  rw [postedSum, postedSum, hrows, sumWhere_concat]
  simp [hposted]

theorem creditBalance_of_rows {t : CreditTransaction}
    (hrows : s'.transactions.rows = s.transactions.rows ++ [t]) (hposted : t.status = .posted)
    (a : String) : creditBalance s' a = creditBalance s a +
      (if t.targetAccount = some a then t.amount else 0) -
      if t.sourceAccount = some a then t.amount else 0 := by
  simp only [creditBalance, postedSum_of_rows hrows hposted, decide_eq_true_eq]
  omega

/-! ## Rows and orders -/

/-- The terms of an order that a later call compares. -/
structure SameTerms (o o' : RedemptionOrder) : Prop where
  orderId : o'.orderId = o.orderId
  member : o'.member = o.member
  creditAmount : o'.creditAmount = o.creditAmount
  itemType : o'.itemType = o.itemType
  relatedTask : o'.relatedTask = o.relatedTask
  resourceId : o'.resourceId = o.resourceId
  itemSnapshot : o'.itemSnapshot = o.itemSnapshot
  financeTreatmentRef : o'.financeTreatmentRef = o.financeTreatmentRef
  merchant : o'.merchant = o.merchant

theorem SameTerms.refl (o : RedemptionOrder) : SameTerms o o :=
  ⟨rfl, rfl, rfl, rfl, rfl, rfl, rfl, rfl, rfl⟩

theorem SameTerms.trans {a b c : RedemptionOrder} (h : SameTerms a b) (h' : SameTerms b c) :
    SameTerms a c :=
  ⟨h'.1.trans h.1, h'.2.trans h.2, h'.3.trans h.3, h'.4.trans h.4, h'.5.trans h.5,
    h'.6.trans h.6, h'.7.trans h.7, h'.8.trans h.8, h'.9.trans h.9⟩

theorem SameTerms.termsAgree {o o' : RedemptionOrder} {args : CreateOrderArgs}
    {itemType : ItemType} (h : SameTerms o o') :
    TermsAgree args itemType o ↔ TermsAgree args itemType o' := by
  constructor
  · intro ht
    exact ⟨h.member.trans ht.1, h.creditAmount.trans ht.2, h.itemType.trans ht.3,
      h.relatedTask.trans ht.4, h.resourceId.trans ht.5, h.itemSnapshot ▸ ht.6,
      h.financeTreatmentRef.trans ht.7, ht.8.trans h.merchant.symm⟩
  · intro ht
    exact ⟨h.member.symm.trans ht.1, h.creditAmount.symm.trans ht.2, h.itemType.symm.trans ht.3,
      h.relatedTask.symm.trans ht.4, h.resourceId.symm.trans ht.5, h.itemSnapshot ▸ ht.6,
      h.financeTreatmentRef.symm.trans ht.7, ht.8.trans h.merchant⟩

/-- Rows and orders stay, reversals and the status of orders apart. -/
structure Keeps (s s' : CreditState ctx) : Prop where
  rows : ∀ t ∈ s.transactions.rows, t.transactionType ≠ .reversal → t ∈ s'.transactions.rows
  orders : ∀ o ∈ s.orders.rows, ∃ o' ∈ s'.orders.rows, SameTerms o o'

theorem Keeps.refl (s : CreditState ctx) : Keeps s s :=
  ⟨fun _ h _ => h, fun o h => ⟨o, h, SameTerms.refl o⟩⟩

theorem Keeps.trans {a b c : CreditState ctx} (h : Keeps a b) (h' : Keeps b c) : Keeps a c := by
  refine ⟨fun t ht hty => h'.rows t (h.rows t ht hty) hty, fun o ho => ?_⟩
  obtain ⟨o', ho', hsame⟩ := h.orders o ho
  obtain ⟨o'', ho'', hsame'⟩ := h'.orders o' ho'
  exact ⟨o'', ho'', hsame.trans hsame'⟩

theorem Keeps.of_tables (ht : ∀ t ∈ s.transactions.rows, t ∈ s'.transactions.rows)
    (ho : s'.orders = s.orders) : Keeps s s' :=
  ⟨fun t hmem _ => ht t hmem, fun o hmem => ⟨o, by rw [ho]; exact hmem, SameTerms.refl o⟩⟩

theorem write_mem {key : Option String} {t : CreditTransaction}
    (h : Reused s s' key t ∨ Created s s' key t) : t ∈ s'.transactions.rows := by
  rcases h with hr | hc
  · rw [hr.grown.transactions]
    exact hr.mem
  · rw [hc.rows]
    simp

theorem Keeps.of_write {key : Option String} {t : CreditTransaction}
    (h : Reused s s' key t ∨ Created s s' key t) : Keeps s s' := by
  rcases h with hr | hc
  · exact .of_tables (fun u hu => by rw [hr.grown.transactions]; exact hu) hr.grown.orders
  · exact .of_tables (fun u hu => by rw [hc.rows]; exact List.mem_append_left _ hu) hc.orders

/-- Updating an order keeps the terms of all orders. -/
theorem Keeps.of_update {orderId : String} {fields : RedemptionOrder → RedemptionOrder}
    (hfields : ∀ o, SameTerms o (fields o)) (ht : s'.transactions = s.transactions)
    (ho : s'.orders.rows = s.orders.rows.map fun o => if o.orderId = orderId then fields o else o) :
    Keeps s s' := by
  refine ⟨fun t hmem _ => by rw [ht]; exact hmem, fun o hmem => ?_⟩
  rw [ho]
  refine ⟨_, List.mem_map_of_mem hmem, ?_⟩
  split
  · exact hfields o
  · exact SameTerms.refl o

theorem Keeps.of_closed {order : RedemptionOrder} {txnType : TxnType} {target : String}
    {key : Option String} {metadata : Json} {fields : RedemptionOrder → RedemptionOrder}
    (hfields : ∀ o, SameTerms o (fields o))
    (h : Closed s s' order txnType target key metadata fields) : Keeps s s' := by
  obtain ⟨s₁, t, -, hwrite, ht, -⟩ := h.posted
  have h₁ := Keeps.of_write (hwrite.imp_right And.left)
  refine ⟨fun u hu hty => by rw [ht]; exact h₁.rows u hu hty, ?_⟩
  have h₂ : Keeps s { s with orders := s'.orders } := Keeps.of_update hfields rfl h.orders
  exact h₂.orders

/-- The row a closing adds is of its type. -/
theorem Closed.type_of_new {order : RedemptionOrder} {txnType : TxnType} {target : String}
    {key : Option String} {metadata : Json} {fields : RedemptionOrder → RedemptionOrder}
    (h : Closed s s' order txnType target key metadata fields) {t : CreditTransaction}
    (ht : t ∈ s'.transactions.rows) (hnew : t ∉ s.transactions.rows) :
    t.transactionType = txnType := by
  obtain ⟨s₁, u, row, hr | ⟨hc, -⟩, h₁, -⟩ := h.posted
  · rw [h₁, hr.grown.transactions] at ht
    exact absurd ht hnew
  · rw [h₁, hc.rows, List.mem_append, List.mem_singleton] at ht
    rw [ht.resolve_left hnew, row.transactionType]

/-- Linking a reversal changes rows of that type only. -/
theorem linkReversal_keeps {reversal : CreditTransaction} {originalId : String}
    (mem : reversal ∈ s.transactions.rows) (hty : reversal.transactionType = .reversal) :
    Keeps s (linkReversal s reversal.transactionId originalId) := by
  refine ⟨fun t hmem hne => ?_, fun o ho => ⟨o, ho, SameTerms.refl o⟩⟩
  rw [linkReversal, Table.modify_rows]
  refine List.mem_map.2 ⟨t, hmem, if_neg fun hid => hne ?_⟩
  rw [s.transactions.eq_of_pk hmem mem hid, hty]

theorem sameTerms_cancelFields (env : CallEnv) (reason : String) (o : RedemptionOrder) :
    SameTerms o (cancelFields env reason o) := ⟨rfl, rfl, rfl, rfl, rfl, rfl, rfl, rfl, rfl⟩

theorem sameTerms_fulfillFields (env : CallEnv) (reviewedBy : Option Nat) (o : RedemptionOrder) :
    SameTerms o (fulfillFields env reviewedBy o) := ⟨rfl, rfl, rfl, rfl, rfl, rfl, rfl, rfl, rfl⟩

theorem sameTerms_issueFields (env : CallEnv) (reason : String) (o : RedemptionOrder) :
    SameTerms o (issueFields env reason o) := ⟨rfl, rfl, rfl, rfl, rfl, rfl, rfl, rfl, rfl⟩

/-- **Calls keep rows and terms.** -/
theorem Effect.keeps (he : Effect env s s' c) : Keeps s s' := by
  cases he with
  | idle grown => exact .of_tables (fun t ht => by rw [grown.transactions]; exact ht) grown.orders
  | entered created entry ends => exact .of_write (.inr created)
  | posted type row created => exact .of_write (.inr created)
  | @reversed original reversal s₁ _ _ key mem free row write linked =>
    rw [linked]
    exact (Keeps.of_write write).trans (linkReversal_keeps (write_mem write) row.transactionType)
  | ordered item missing ordered =>
    obtain ⟨s₁, hplace, hwrite⟩ := ordered.writes
    refine Keeps.trans (b := s₁) ?_ (.of_write (hwrite.imp_right And.left))
    rcases hplace with ⟨grown, -⟩ | ⟨placed, -⟩
    · exact .of_tables (fun t ht => by rw [grown.transactions]; exact ht) grown.orders
    · refine ⟨fun t ht _ => by rw [placed.transactions]; exact ht, fun o ho => ?_⟩
      exact ⟨o, by rw [placed.orders]; exact List.mem_append_left _ ho, SameTerms.refl o⟩
  | @cancelled order reason _ _ mem account closed =>
    exact .of_closed (sameTerms_cancelFields env reason) closed
  | @fulfilled order _ reviewedBy _ mem closed =>
    exact .of_closed (sameTerms_fulfillFields env reviewedBy) closed
  | @reported order reason mem pending updated =>
    exact .of_update (sameTerms_issueFields env reason) (by rw [updated]; rfl)
      (by rw [updated]; rfl)

end LiveOs.Credit
