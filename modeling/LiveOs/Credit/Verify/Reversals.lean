import LiveOs.Credit.Verify.Runs

/-!
# Reversals over runs

A reversal is posted first and linked afterwards, so a row that the posting core returns for a used
key is linked anew. Where no reversal takes such a row, the ledger only ever grows: no link is
touched again, every original has one reversal, and every reversal mirrors its original.
-/

namespace LiveOs.Credit

open Lib EventLedger

variable {ctx : Context} {env : CallEnv} {s s' : CreditState ctx} {c : CreditCall}
  {t : CreditTransaction}

/-- The row mirrors the original: the same amount the other way round. -/
def Mirrors (t original : CreditTransaction) : Prop :=
  RowIs t .reversal original.amount original.targetAccount original.sourceAccount

instance (t original : CreditTransaction) : Decidable (Mirrors t original) :=
  inferInstanceAs (Decidable (RowIs ..))

/-- The key of a reversal is not carried by a row that mirrors its original. -/
def OwnReversal (s : CreditState ctx) : CreditCall → Prop
  | .reverse originalId _ _ key => ∀ original ∈ s.transactions.rows,
      original.transactionId = originalId →
        ¬ Carried s (normaliseIdemKey key) fun t => Mirrors t original
  | _ => True

instance (s : CreditState ctx) : ∀ c, Decidable (OwnReversal s c)
  | .reverse _ _ _ _ => inferInstanceAs (Decidable (∀ _ ∈ s.transactions.rows, _ → ¬ Carried ..))
  | .issue .. | .lock .. | .unlock .. | .transfer .. | .deduct .. | .reward .. | .createOrder ..
  | .cancelOrder .. | .fulfillOrder .. | .reportIssue .. | .post .. => isTrue trivial

/-- What a call adds to the ledger. -/
inductive Added (s s' : CreditState ctx) (c : CreditCall) : Prop
  | nothing (rows : s'.transactions.rows = s.transactions.rows)
  | row (t : CreditTransaction) (rows : s'.transactions.rows = s.transactions.rows ++ [t])
    (posted : t.status = .posted) (unlinked : t.reversesTransaction = none)
  | reversal (t original : CreditTransaction)
    (rows : s'.transactions.rows = s.transactions.rows ++ [t])
    (posted : t.status = .posted) (mem : original ∈ s.transactions.rows)
    (linked : t.reversesTransaction = some original.transactionId) (mirrors : Mirrors t original)
    (free : ∀ u ∈ s.transactions.rows, u.status = .posted →
      u.reversesTransaction ≠ some original.transactionId)

/-- Linking a new reversal touches no other row. -/
theorem linkReversal_rows {reversal : CreditTransaction} {key : Option String}
    (hc : Created s s' key reversal) (originalId : String) :
    (linkReversal s' reversal.transactionId originalId).transactions.rows =
      s.transactions.rows ++ [{ reversal with reversesTransaction := some originalId }] := by
  rw [linkReversal, Table.modify_rows, hc.rows, List.map_append]
  congr 1
  · exact (List.map_congr_left fun t ht => if_neg (hc.freshId t ht)).trans (List.map_id _)
  · rw [List.map_singleton, if_pos rfl]

theorem Added.of_created {key : Option String} (hc : Created s s' key t) : Added s s' c :=
  .row t hc.rows hc.posted hc.unlinked

theorem Added.of_closed {order : RedemptionOrder} {txnType : TxnType} {target : String}
    {key : Option String} {metadata : Json} {fields : RedemptionOrder → RedemptionOrder}
    (h : Closed s s' order txnType target key metadata fields) : Added s s' c := by
  obtain ⟨s₁, t, -, reused | ⟨created, -⟩, ht, -⟩ := h.posted
  · exact .nothing (by rw [ht, reused.grown.transactions])
  · exact .row t (by rw [ht, created.rows]) created.posted created.unlinked

/-- **Calls only add rows.** -/
theorem Effect.added (hown : OwnReversal s c) (he : Effect env s s' c) : Added s s' c := by
  cases he with
  | idle grown => exact .nothing (by rw [grown.transactions])
  | entered created entry ends => exact .of_created created
  | posted type row created => exact .of_created created
  | reversed mem free row write linked =>
    rcases write with reused | created
    · exact absurd (reused.carried row) (hown _ mem rfl)
    · rw [linked]
      exact .reversal _ _ (linkReversal_rows created _) created.posted mem rfl
        ⟨row.transactionType, row.amount, row.source, row.target⟩ free
  | ordered item missing ordered =>
    obtain ⟨s₁, hplace, hwrite⟩ := ordered.writes
    have ht : s₁.transactions = s.transactions :=
      hplace.elim (fun h => h.1.transactions) fun h => h.1.transactions
    rcases hwrite with reused | ⟨created, -⟩
    · exact .nothing (by rw [reused.grown.transactions, ht])
    · exact .row _ (by rw [created.rows, ht]) created.posted created.unlinked
  | cancelled mem account closed => exact .of_closed closed
  | fulfilled mem closed => exact .of_closed closed
  | reported mem pending updated => rw [updated]; exact .nothing rfl

theorem Added.grows (h : Added s s' c) : s.transactions.rows <+: s'.transactions.rows := by
  cases h with
  | nothing rows => exact rows ▸ List.prefix_refl _
  | row t rows => exact rows ▸ List.prefix_append _ _
  | reversal t original rows => exact rows ▸ List.prefix_append _ _

/-! ## Whole runs -/

/-- Every posted row has one posted reversal at most, and a linked row mirrors its original. -/
structure ReversalInv (s : CreditState ctx) : Prop where
  unique : ∀ t ∈ s.transactions.rows, ∀ u ∈ s.transactions.rows, t.status = .posted →
    u.status = .posted → t.reversesTransaction.isSome →
    t.reversesTransaction = u.reversesTransaction → t = u
  mirrors : ∀ t ∈ s.transactions.rows, ∀ originalId, t.reversesTransaction = some originalId →
    ∃ original ∈ s.transactions.rows, original.transactionId = originalId ∧ Mirrors t original

theorem ReversalInv.step (h : ReversalInv s) (ha : Added s s' c) : ReversalInv s' := by
  cases ha with
  | nothing rows => exact ⟨by rw [rows]; exact h.unique, by rw [rows]; exact h.mirrors⟩
  | row t rows posted unlinked =>
    refine ⟨?_, ?_⟩
    · intro u hu v hv hup hvp hlinked heq
      rw [rows, List.mem_append, List.mem_singleton] at hu hv
      rcases hu with hu | rfl
      · rcases hv with hv | rfl
        · exact h.unique u hu v hv hup hvp hlinked heq
        · rw [heq, unlinked] at hlinked
          cases hlinked
      · rw [unlinked] at hlinked
        cases hlinked
    · intro u hu originalId hlink
      rw [rows, List.mem_append, List.mem_singleton] at hu
      rcases hu with hu | rfl
      · obtain ⟨original, hmem, hmirrors⟩ := h.mirrors u hu originalId hlink
        exact ⟨original, rows ▸ List.mem_append_left _ hmem, hmirrors⟩
      · rw [unlinked] at hlink
        cases hlink
  | reversal t original rows posted mem linked mirrors free =>
    refine ⟨?_, ?_⟩
    · intro u hu v hv hup hvp hlinked heq
      rw [rows, List.mem_append, List.mem_singleton] at hu hv
      -- the original had no posted reversal, so no other row has the new link
      rcases hu with hu | rfl
      · rcases hv with hv | rfl
        · exact h.unique u hu v hv hup hvp hlinked heq
        · exact absurd (heq.trans linked) (free u hu hup)
      · rcases hv with hv | rfl
        · exact absurd (heq.symm.trans linked) (free v hv hvp)
        · rfl
    · intro u hu originalId hlink
      rw [rows, List.mem_append, List.mem_singleton] at hu
      rcases hu with hu | rfl
      · obtain ⟨original, hmem, hmirrors⟩ := h.mirrors u hu originalId hlink
        exact ⟨original, rows ▸ List.mem_append_left _ hmem, hmirrors⟩
      · obtain rfl := Option.some.inj (linked.symm.trans hlink)
        exact ⟨original, rows ▸ List.mem_append_left _ mem, rfl, mirrors⟩

theorem reversalInv_fresh (accounts : AccountTable) :
    ReversalInv { CreditState.fresh ctx with accounts := accounts } where
  unique := fun _ h => absurd h List.not_mem_nil
  mirrors := fun _ h => absurd h List.not_mem_nil

/-- Reversals over a whole run. -/
structure ReversalsKept (ctx : Context) (cs : List (CallEnv × CreditCall)) : Prop where
  /-- Every posted row has one posted reversal at most, and every linked row mirrors the row it
  links to. -/
  sound : ReversalInv (creditRun ctx cs)
  /-- No row, and so no link, changes after it is written. -/
  kept : ∀ before after, cs = before ++ after →
    (creditRun ctx before).transactions.rows <+: (creditRun ctx cs).transactions.rows
  /-- A successful reversal adds one new row, linked to its original. -/
  added : ∀ before env originalId reason initiatedBy key after s',
    cs = before ++ (env, .reverse originalId reason initiatedBy key) :: after →
    creditStep (creditRun ctx before) (env, .reverse originalId reason initiatedBy key) = .ok s' →
    ∃ t, s'.transactions.rows = (creditRun ctx before).transactions.rows ++ [t] ∧
      t.transactionType = .reversal ∧ t.reversesTransaction = some originalId

/-- **Reversals over runs.** In any run of credit operations whose reversals bring their own keys,
originals are reversed once, links never change and every reversal adds its own row. -/
theorem creditRun_reversalsKept (ctx : Context) (cs : List (CallEnv × CreditCall))
    (hcs : EachCall creditStep (fun s c => OwnReversal s c.2) (initialState ctx) cs) :
    ReversalsKept ctx cs := by
  refine ⟨?_, ?_, ?_⟩
  · exact (creditRun_invariant (fun accounts _ => reversalInv_fresh accounts)
      (fun s env c s' _ h hown he => h.step (he.added hown)) hcs).2
  · rintro before after rfl
    have hafter : EachCall creditStep (fun s c => OwnReversal s c.2) (creditRun ctx before) after :=
      hcs.of_append.2
    rw [creditRun_append]
    exact creditRun_rel (R := fun s s' => s.transactions.rows <+: s'.transactions.rows)
      (fun _ => List.prefix_refl _) (fun _ _ _ => List.IsPrefix.trans)
      (fun s env c s' _ hown he => (he.added hown).grows) (creditRun_accounts ctx before) hafter
  · rintro before env originalId reason initiatedBy key after s' rfl hcall
    have hown : OwnReversal (creditRun ctx before) (.reverse originalId reason initiatedBy key) :=
      hcs.of_append.2.1
    obtain ⟨result, hrun⟩ := creditStep_eq_ok hcall
    obtain ⟨⟨s₁, txn⟩, hreverse, hrun⟩ := bind_eq_ok.1 hrun
    obtain ⟨rfl, -⟩ := Prod.mk.inj (pure_eq_ok.1 hrun)
    obtain ⟨original, mem, rfl, -, s₁, reversal, rfl, -, row, reused | created⟩ :=
      reverseCreditTransaction_ok (creditRun_accounts ctx before) hreverse
    · exact absurd (reused.carried row) (hown original mem rfl)
    · exact ⟨_, linkReversal_rows created _, row.transactionType, rfl⟩

/-- A reward reversed, and the reversal reversed in turn. -/
theorem creditRun_reversalsKept_twice : ReversalsKept strokeContext
    [(strokeEnv 1, .reward "t" 0 6 ⟨"e", ""⟩ none "" true),
      (strokeEnv 2, .reverse "ct-|" "" none (some "k")),
      (strokeEnv 3, .reverse "ct-||" "" none none)] :=
  creditRun_reversalsKept strokeContext _ (by decide +kernel)

/-- Two equal rewards reversed under one key. -/
def relinkRun : List (CallEnv × CreditCall) :=
  [(strokeEnv 1, .reward "t" 0 6 ⟨"d", ""⟩ none "" true),
    (strokeEnv 2, .reward "t" 0 6 ⟨"e", ""⟩ none "" true),
    (strokeEnv 3, .reverse "ct-|" "" none (some "k")),
    (strokeEnv 4, .reverse "ct-||" "" none (some "k"))]

/-- The second reversal takes the row of the first one over and adds none. -/
theorem relinkRun_not_kept : ¬ ReversalsKept strokeContext relinkRun := by
  intro h
  have hkept := (h.kept (relinkRun.take 3) (relinkRun.drop 3)
    (List.take_append_drop 3 relinkRun).symm).map
    CreditTransaction.reversesTransaction
  revert hkept
  decide +kernel

end LiveOs.Credit
