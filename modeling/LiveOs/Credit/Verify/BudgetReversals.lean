import LiveOs.Credit.Verify.Balances
import LiveOs.Credit.Verify.Reversals

/-!
# Reversals and task budgets

The balance of an account counts every posted row; the budget of a task counts the rows of three
types. A reversal has a type of its own and no task, so it gives the accounts back what the row
moved and leaves the budget of the task where the row had put it.
-/

namespace LiveOs.Credit

open Lib EventLedger

variable {ctx : Context} {env : CallEnv} {s s' s₁ : CreditState ctx} {c : CreditCall}
  {t x : CreditTransaction} {key : Option String}

/-- The ledger without the row, as if it had never been posted. -/
def withoutRow (s : CreditState ctx) (transactionId : String) : CreditState ctx :=
  { s with transactions := {
      rows := s.transactions.rows.filter fun t => t.transactionId ≠ transactionId
      pkUnique := s.transactions.pkUnique.sublist (List.filter_sublist.map _)
      altUnique := s.transactions.altUnique.sublist (List.filter_sublist.filterMap _) } }

/-- The balances of accounts and tasks are those of the ledger without the row. -/
structure Undone (s s' : CreditState ctx) (x : CreditTransaction) : Prop where
  balances : ∀ account,
    creditBalance s' account = creditBalance (withoutRow s x.transactionId) account
  budgets : ∀ task,
    taskLockedCreditBalance s' task = taskLockedCreditBalance (withoutRow s x.transactionId) task
  /-- If the locked account held the budgets of the tasks without the row, it holds them now. -/
  locked : ∀ tasks : Finset String,
    creditBalance (withoutRow s x.transactionId) (systemAccountId .taskLocked) =
      ∑ task ∈ tasks,
        taskLockedSum (withoutRow s x.transactionId) (systemAccountId .taskLocked) task →
    creditBalance s' (systemAccountId .taskLocked) =
      ∑ task ∈ tasks, taskLockedSum s' (systemAccountId .taskLocked) task

/-- The row is one that the budget of its task counts. -/
def CountedByBudget (t : CreditTransaction) : Prop :=
  t.transactionType = .lock ∧ t.targetAccount = some (systemAccountId .taskLocked) ∨
    (t.transactionType = .unlock ∨ t.transactionType = .taskReward) ∧
      t.sourceAccount = some (systemAccountId .taskLocked)

/-- A lock, an unlock or a reward drawn from a budget. -/
def MovesBudget (t : CreditTransaction) : Prop :=
  t.transactionType = .lock ∨ t.transactionType = .unlock ∨
    t.transactionType = .taskReward ∧ t.sourceAccount = some (systemAccountId .taskLocked)

instance (t : CreditTransaction) : Decidable (CountedByBudget t) :=
  inferInstanceAs (Decidable (_ ∨ _))

instance (t : CreditTransaction) : Decidable (MovesBudget t) :=
  inferInstanceAs (Decidable (_ ∨ _))

/-! ## Rows of every run -/

/-- Every row is posted and has a positive amount. -/
def RowsPosted (s : CreditState ctx) : Prop :=
  ∀ t ∈ s.transactions.rows, t.status = .posted ∧ 0 < t.amount

theorem RowsPosted.of_transactions (h : RowsPosted s) (ht : s'.transactions = s.transactions) :
    RowsPosted s' := by
  rw [RowsPosted, ht]
  exact h

theorem RowsPosted.of_write (h : RowsPosted s)
    (hw : Reused s s' key t ∨ Created s s' key t) : RowsPosted s' := by
  rcases hw with reused | created
  · exact h.of_transactions reused.grown.transactions
  · intro u hu
    rw [created.rows] at hu
    rcases List.mem_append.1 hu with hu | hu
    · exact h u hu
    · rw [List.mem_singleton.1 hu]
      exact ⟨created.posted, created.amount_pos⟩

theorem RowsPosted.linked (h : RowsPosted s) (reversalId originalId : String) :
    RowsPosted (linkReversal s reversalId originalId) := by
  intro u hu
  rw [linkReversal, Table.modify_rows] at hu
  obtain ⟨v, hv, rfl⟩ := List.mem_map.1 hu
  have hposted := h v hv
  split <;> exact hposted

theorem RowsPosted.closed {order : RedemptionOrder} {txnType : TxnType} {target : String}
    {metadata : Json} {fields : RedemptionOrder → RedemptionOrder} (h : RowsPosted s)
    (hc : Closed s s' order txnType target key metadata fields) : RowsPosted s' := by
  obtain ⟨s₁, t, -, hwrite, ht, -⟩ := hc.posted
  have h₁ : RowsPosted s₁ := h.of_write (hwrite.imp_right And.left)
  exact h₁.of_transactions ht

theorem RowsPosted.step (h : RowsPosted s) (he : Effect env s s' c) : RowsPosted s' := by
  cases he with
  | idle grown => exact h.of_transactions grown.transactions
  | entered created entry ends => exact h.of_write (.inr created)
  | posted type row created => exact h.of_write (.inr created)
  | reversed mem free row write linked =>
    rw [linked]
    exact (h.of_write write).linked _ _
  | ordered item missing ordered =>
    obtain ⟨s₁, hplace, hwrite⟩ := ordered.writes
    have ht : s₁.transactions = s.transactions :=
      hplace.elim (fun h => h.1.transactions) fun h => h.1.transactions
    exact (h.of_transactions ht).of_write (hwrite.imp_right And.left)
  | cancelled mem account closed => exact h.closed closed
  | fulfilled mem closed => exact h.closed closed
  | reported mem pending updated =>
    rw [updated]
    exact h.of_transactions rfl

theorem creditRun_rowsPosted (ctx : Context) (cs : List (CallEnv × CreditCall)) :
    RowsPosted (creditRun ctx cs) := by
  have heach : EachCall creditStep (fun _ _ => True) (initialState ctx) cs :=
    EachCall.of_forall _ fun _ _ _ => trivial
  exact (creditRun_invariant (fun _ _ _ h => absurd h List.not_mem_nil)
    (fun s env c s' _ h _ he => RowsPosted.step h he) heach).2

/-! ## Sums without a row -/

theorem postedSum_withoutRow (hx : x ∈ s.transactions.rows) (hposted : x.status = .posted)
    (p : CreditTransaction → Bool) : postedSum s p =
      postedSum (withoutRow s x.transactionId) p + if p x then x.amount else 0 := by
  simp only [postedSum, withoutRow]
  rw [sumWhere_without CreditTransaction.transactionId s.transactions.pkUnique hx]
  simp [hposted]

theorem creditBalance_withoutRow (hx : x ∈ s.transactions.rows) (hposted : x.status = .posted)
    (a : String) : creditBalance s a = creditBalance (withoutRow s x.transactionId) a +
      (if x.targetAccount = some a then x.amount else 0) -
      if x.sourceAccount = some a then x.amount else 0 := by
  simp only [creditBalance, postedSum_withoutRow hx hposted, decide_eq_true_eq]
  omega

theorem taskLockedSum_withoutRow (hx : x ∈ s.transactions.rows) (hposted : x.status = .posted)
    (task : String) : taskLockedSum s (systemAccountId .taskLocked) task =
      taskLockedSum (withoutRow s x.transactionId) (systemAccountId .taskLocked) task +
        lockedChange x task := by
  simp only [taskLockedSum, postedSum_withoutRow hx hposted, lockedChange, Bool.and_eq_true,
    decide_eq_true_eq, and_assoc]
  omega

/-- Links are not counted. -/
theorem postedSum_linkReversal (s : CreditState ctx) (reversalId originalId : String)
    {p : CreditTransaction → Bool}
    (hp : ∀ t : CreditTransaction, p { t with reversesTransaction := some originalId } = p t) :
    postedSum (linkReversal s reversalId originalId) p = postedSum s p := by
  rw [postedSum, linkReversal, Table.modify_rows]
  refine sumWhere_map fun t _ => ?_
  split
  · exact ⟨rfl, by rw [hp]⟩
  · exact ⟨rfl, rfl⟩

theorem creditBalance_linkReversal (s : CreditState ctx) (reversalId originalId a : String) :
    creditBalance (linkReversal s reversalId originalId) a = creditBalance s a := by
  simp only [creditBalance]
  rw [postedSum_linkReversal _ _ _ fun _ => rfl, postedSum_linkReversal _ _ _ fun _ => rfl]

theorem taskLockedSum_linkReversal (s : CreditState ctx) (reversalId originalId a task : String) :
    taskLockedSum (linkReversal s reversalId originalId) a task = taskLockedSum s a task := by
  simp only [taskLockedSum]
  rw [postedSum_linkReversal _ _ _ fun _ => rfl, postedSum_linkReversal _ _ _ fun _ => rfl,
    postedSum_linkReversal _ _ _ fun _ => rfl]

/-- No budget counts a reversal. -/
theorem lockedChange_reversal (ht : t.transactionType = .reversal) (task : String) :
    lockedChange t task = 0 := by
  simp [lockedChange, ht]

/-- The budget of its task is where the type of a row shows. -/
theorem lockedChange_eq_zero {task : String} (hkind : MovesBudget x)
    (hrelated : x.relatedTask = some task) (hpos : 0 < x.amount) :
    lockedChange x task = 0 ↔ ¬ CountedByBudget x := by
  rcases hkind with hty | hty | ⟨hty, hsource⟩
  · by_cases htarget : x.targetAccount = some (systemAccountId .taskLocked)
    · simp [lockedChange, CountedByBudget, hty, htarget, hrelated, hpos.ne']
    · simp [lockedChange, CountedByBudget, hty, htarget]
  · by_cases hsource : x.sourceAccount = some (systemAccountId .taskLocked)
    · simp [lockedChange, CountedByBudget, hty, hsource, hrelated, hpos.ne']
    · simp [lockedChange, CountedByBudget, hty, hsource]
  · simp [lockedChange, CountedByBudget, hty, hsource, hrelated, hpos.ne']

/-- A row that its own task does not count is counted by no task. -/
theorem lockedChange_of_not_counted (h : ¬ CountedByBudget x) (task : String) :
    lockedChange x task = 0 := by
  rw [CountedByBudget, not_or, not_and, not_and] at h
  obtain ⟨hlock, hout⟩ := h
  rw [lockedChange, if_neg fun h => hlock h.1 h.2.1, if_neg fun h => hout (.inr h.1) h.2.1,
    if_neg fun h => hout (.inl h.1) h.2.1]
  rfl

/-! ## One reversal -/

section

variable {originalId : String}

/-- A reversal changes no budget of a task. -/
theorem taskLockedSum_reversed {reversal : CreditTransaction} {source target : Option String}
    {amount : Int} (row : RowIs reversal .reversal amount source target)
    (write : Reused s s₁ key reversal ∨ Created s s₁ key reversal) (task : String) :
    taskLockedSum (linkReversal s₁ reversal.transactionId originalId)
        (systemAccountId .taskLocked) task =
      taskLockedSum s (systemAccountId .taskLocked) task := by
  rw [taskLockedSum_linkReversal]
  rcases write with reused | created
  · simp only [taskLockedSum, postedSum_of_transactions reused.grown.transactions]
  · rw [taskLockedSum_of_rows created.rows created.posted,
      lockedChange_reversal row.transactionType, add_zero]

/-- A new reversal gives every account back what the row moved. -/
theorem creditBalance_reversed {reversal : CreditTransaction} (hx : x ∈ s.transactions.rows)
    (hposted : x.status = .posted) (mirrors : Mirrors reversal x)
    (created : Created s s₁ key reversal) (a : String) :
    creditBalance (linkReversal s₁ reversal.transactionId originalId) a =
      creditBalance (withoutRow s x.transactionId) a := by
  rw [creditBalance_linkReversal, creditBalance_of_rows created.rows created.posted,
    creditBalance_withoutRow hx hposted, mirrors.amount, mirrors.source, mirrors.target]
  omega

/-- A reversal under the key of a row that is there moves nothing. -/
theorem creditBalance_reused {reversal : CreditTransaction} (reused : Reused s s₁ key reversal)
    (a : String) : creditBalance (linkReversal s₁ reversal.transactionId originalId) a =
      creditBalance s a := by
  rw [creditBalance_linkReversal]
  simp only [creditBalance, postedSum_of_transactions reused.grown.transactions]

/-- The accounts stand as if the row had never been posted exactly if the reversal is a new row, or
the row moved nothing between them. -/
theorem balances_reversed_iff {reversal : CreditTransaction} (hx : x ∈ s.transactions.rows)
    (hposted : x.status = .posted) (hpos : 0 < x.amount) (mirrors : Mirrors reversal x)
    (write : Reused s s₁ key reversal ∨ Created s s₁ key reversal) :
    (∀ a, creditBalance (linkReversal s₁ reversal.transactionId originalId) a =
      creditBalance (withoutRow s x.transactionId) a) ↔
      (¬ Carried s key fun t => Mirrors t x) ∨ x.sourceAccount = x.targetAccount := by
  rcases write with reused | created
  · have hcarried : Carried s key fun t => Mirrors t x := reused.carried mirrors
    simp only [creditBalance_reused reused, creditBalance_withoutRow hx hposted, hcarried,
      not_true_eq_false, false_or]
    constructor
    · intro h
      by_contra hne
      cases htarget : x.targetAccount with
      | some a =>
        have ha := h a
        rw [if_pos htarget, if_neg fun hs => hne (hs.trans htarget.symm)] at ha
        omega
      | none =>
        cases hsource : x.sourceAccount with
        | some a =>
          have ha := h a
          rw [if_neg (by rw [htarget]; exact nofun), if_pos hsource] at ha
          omega
        | none => exact hne (hsource.trans htarget.symm)
    · intro heq a
      rw [heq]
      omega
  · exact ⟨fun _ => .inl created.not_carried,
      fun _ => creditBalance_reversed hx hposted mirrors created⟩

end

theorem taskLockedCreditBalance_eq (h : AccountsOk ctx s.accounts) (task : String) :
    taskLockedCreditBalance s task = .ok (taskLockedSum s (systemAccountId .taskLocked) task) := by
  rw [taskLockedCreditBalance, pool_eq h (show AccountType.taskLocked ≠ .member by decide)]
  rfl

/-- One reversal undoes a row that moves a budget exactly if no budget counts the row. -/
theorem undone_reversed_iff {reversal : CreditTransaction} {task : String}
    (hacc : AccountsOk ctx s.accounts) (hacc' : AccountsOk ctx s'.accounts)
    (hx : x ∈ s.transactions.rows) (hposted : RowsPosted s) (hkind : MovesBudget x)
    (hrelated : x.relatedTask = some task) (mirrors : Mirrors reversal x)
    (write : Reused s s₁ key reversal ∨ Created s s₁ key reversal)
    (linked : s' = linkReversal s₁ reversal.transactionId x.transactionId) : Undone s s' x ↔
      ¬ CountedByBudget x ∧
        ((¬ Carried s key fun t => Mirrors t x) ∨ x.sourceAccount = x.targetAccount) := by
  obtain ⟨hstatus, hpos⟩ := hposted x hx
  have hbalances : (∀ a, creditBalance s' a = creditBalance (withoutRow s x.transactionId) a) ↔
      (¬ Carried s key fun t => Mirrors t x) ∨ x.sourceAccount = x.targetAccount := by
    rw [linked]
    exact balances_reversed_iff hx hstatus hpos mirrors write
  have hbudget : ∀ task, taskLockedSum s' (systemAccountId .taskLocked) task =
      taskLockedSum s (systemAccountId .taskLocked) task := by
    rw [linked]
    exact taskLockedSum_reversed mirrors write
  have hwithout := taskLockedSum_withoutRow hx hstatus
  have haccWithout : AccountsOk ctx (withoutRow s x.transactionId).accounts := hacc
  constructor
  · intro h
    refine ⟨(lockedChange_eq_zero hkind hrelated hpos).1 ?_, hbalances.1 h.balances⟩
    have htask := h.budgets task
    rw [taskLockedCreditBalance_eq hacc', taskLockedCreditBalance_eq haccWithout] at htask
    have hsum := Except.ok.inj htask
    have hkept := hbudget task
    have hsplit := hwithout task
    omega
  · rintro ⟨hcounted, hmoves⟩
    have hsame : ∀ task, taskLockedSum s' (systemAccountId .taskLocked) task =
        taskLockedSum (withoutRow s x.transactionId) (systemAccountId .taskLocked) task := by
      intro task
      rw [hbudget, hwithout, lockedChange_of_not_counted hcounted, add_zero]
    refine ⟨hbalances.2 hmoves, fun task => ?_, fun tasks htotal => ?_⟩
    · rw [taskLockedCreditBalance_eq hacc', taskLockedCreditBalance_eq haccWithout, hsame]
    · rw [hbalances.2 hmoves, htotal]
      exact Finset.sum_congr rfl fun task _ => (hsame task).symm

/-- **Reversals and budgets.** After any run, a successful reversal of a row that moves a budget
leaves accounts and budgets as if the row had never been posted exactly if no budget counts the
row and either the reversal is a new row or the row moved nothing between accounts. -/
theorem creditRun_undone_iff (ctx : Context) (cs : List (CallEnv × CreditCall)) (env : CallEnv)
    (x : CreditTransaction) (hx : x ∈ (creditRun ctx cs).transactions.rows) (hkind : MovesBudget x)
    (hrelated : x.relatedTask.isSome) (reason : String) (initiatedBy : Option Nat)
    (key : Option String)
    (hcall : (creditStep (creditRun ctx cs)
      (env, .reverse x.transactionId reason initiatedBy key)).isOk) :
    Undone (creditRun ctx cs)
        (creditRun ctx (cs ++ [(env, .reverse x.transactionId reason initiatedBy key)])) x ↔
      ¬ CountedByBudget x ∧
        ((¬ Carried (creditRun ctx cs) (normaliseIdemKey key) fun t => Mirrors t x) ∨
          x.sourceAccount = x.targetAccount) := by
  obtain ⟨task, hrelated⟩ := Option.isSome_iff_exists.1 hrelated
  have hacc := creditRun_accounts ctx cs
  have hacc' := creditRun_accounts ctx
    (cs ++ [(env, .reverse x.transactionId reason initiatedBy key)])
  rw [creditRun_append, runCalls_cons, runCalls_nil] at hacc' ⊢
  cases hstep : creditStep (creditRun ctx cs)
    (env, .reverse x.transactionId reason initiatedBy key) with
  | error e =>
    rw [hstep] at hcall
    cases hcall
  | ok s' =>
    rw [afterCall_ok hstep] at hacc' ⊢
    obtain ⟨result, hrun⟩ := creditStep_eq_ok hstep
    obtain ⟨⟨s₂, txn⟩, hreverse, hrun⟩ := bind_eq_ok.1 hrun
    obtain ⟨rfl, -⟩ := Prod.mk.inj (pure_eq_ok.1 hrun)
    obtain ⟨original, mem, hid, -, s₁, reversal, linked, -, row, write⟩ :=
      reverseCreditTransaction_ok hacc hreverse
    obtain rfl := (creditRun ctx cs).transactions.eq_of_pk mem hx hid
    exact undone_reversed_iff hacc hacc' hx (creditRun_rowsPosted ctx cs) hkind hrelated row write
      linked

/-- A pool of 5, of which 3 are locked for a task. -/
def lockRun : List (CallEnv × CreditCall) :=
  [(strokeEnv 1, .issue 5 "" 0 0 none), (strokeEnv 2, .lock "t" 3 "" none (some "k"))]

theorem lockRun_length : (creditRun strokeContext lockRun).transactions.rows.length = 2 := by
  decide +kernel

/-- The row of the lock. -/
def lockRow : CreditTransaction :=
  (creditRun strokeContext lockRun).transactions.rows.get ⟨1, by rw [lockRun_length]; decide⟩

theorem creditRun_undone_iff_lock :
    Undone (creditRun strokeContext lockRun) (creditRun strokeContext
        (lockRun ++ [(strokeEnv 3, .reverse lockRow.transactionId "" none none)])) lockRow ↔
      ¬ CountedByBudget lockRow ∧
        ((¬ Carried (creditRun strokeContext lockRun) (normaliseIdemKey none)
            fun t => Mirrors t lockRow) ∨ lockRow.sourceAccount = lockRow.targetAccount) :=
  creditRun_undone_iff strokeContext lockRun (strokeEnv 3) lockRow (List.get_mem _ _)
    (by decide +kernel) (by decide +kernel) "" none none (by decide +kernel)

/-- The lock is reversed and its task keeps the budget. -/
theorem lockRow_not_undone :
    (creditStep (creditRun strokeContext lockRun)
      (strokeEnv 3, .reverse lockRow.transactionId "" none none)).isOk ∧
    ¬ Undone (creditRun strokeContext lockRun) (creditRun strokeContext
        (lockRun ++ [(strokeEnv 3, .reverse lockRow.transactionId "" none none)])) lockRow := by
  refine ⟨by decide +kernel, fun h => ?_⟩
  have hbudget := congrArg Except.toOption (h.budgets "t")
  revert hbudget
  decide +kernel

end LiveOs.Credit
