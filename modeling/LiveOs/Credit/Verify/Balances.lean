import LiveOs.Credit.Verify.Runs

/-!
# Balances over runs

Balances are sums over the whole ledger, per account and, for locked budgets, per task and type.
They fit together because the type of a row fixes the accounts it lies between.
-/

namespace LiveOs.Credit

open Lib EventLedger

variable {ctx : Context} {env : CallEnv} {s s' : CreditState ctx} {c : CreditCall}

/-! ## The shape of rows -/

/-- The accounts a row lies between, by its type. -/
inductive Shape (ctx : Context) (t : CreditTransaction) : Prop
  | issuance (row : RowIs t .issuance t.amount none (some (systemAccountId .issuancePool)))
  | lock (task : String) (row : RowIs t .lock t.amount (some (systemAccountId .issuancePool))
      (some (systemAccountId .taskLocked))) (related : t.relatedTask = some task)
  | unlock (task : String) (row : RowIs t .unlock t.amount (some (systemAccountId .taskLocked))
      (some (systemAccountId .issuancePool))) (related : t.relatedTask = some task)
  | reward (task : String) (member : Nat) (row : RowIs t .taskReward t.amount
      (some (systemAccountId .taskLocked)) (some (memberAccountId ctx member)))
      (related : t.relatedTask = some task)
  | transfer (fromMember toMember : Nat) (row : RowIs t .transfer t.amount
      (some (memberAccountId ctx fromMember)) (some (memberAccountId ctx toMember)))
  | deduct (member : Nat) (row : RowIs t .correction t.amount
      (some (memberAccountId ctx member)) (some (systemAccountId .burn)))
  | consume (member : Nat) (row : RowIs t .consume t.amount
      (some (memberAccountId ctx member)) (some (systemAccountId .frozen)))
  | unfreeze (member : Nat) (row : RowIs t .unfreeze t.amount
      (some (systemAccountId .frozen)) (some (memberAccountId ctx member)))
  | burn (row : RowIs t .burn t.amount (some (systemAccountId .frozen))
      (some (systemAccountId .burn)))

/-- The calls whose rewards are drawn from locked budgets. -/
def Budgeted : CreditCall → Prop
  | .reverse .. | .post .. => False
  | .reward _ _ _ _ _ _ genesis => genesis = false
  | _ => True

/-- What holds of the ledger after every budgeted call. -/
structure BalanceInv (s : CreditState ctx) : Prop where
  posted : ∀ t ∈ s.transactions.rows, t.status = .posted
  shape : ∀ t ∈ s.transactions.rows, Shape ctx t
  ends : ∀ t ∈ s.transactions.rows, EndpointsIn s.accounts t
  poolNonneg : 0 ≤ creditBalance s (systemAccountId .issuancePool)
  lockedNonneg : ∀ task, 0 ≤ taskLockedSum s (systemAccountId .taskLocked) task

/-- What one row adds to the locked budget of a task. -/
def lockedChange (t : CreditTransaction) (task : String) : Int :=
  (if t.transactionType = .lock ∧ t.targetAccount = some (systemAccountId .taskLocked) ∧
      t.relatedTask = some task then t.amount else 0) -
    (if t.transactionType = .taskReward ∧ t.sourceAccount = some (systemAccountId .taskLocked) ∧
      t.relatedTask = some task then t.amount else 0) -
    if t.transactionType = .unlock ∧ t.sourceAccount = some (systemAccountId .taskLocked) ∧
      t.relatedTask = some task then t.amount else 0

theorem taskLockedSum_of_rows {t : CreditTransaction}
    (hrows : s'.transactions.rows = s.transactions.rows ++ [t]) (hposted : t.status = .posted)
    (task : String) : taskLockedSum s' (systemAccountId .taskLocked) task =
      taskLockedSum s (systemAccountId .taskLocked) task + lockedChange t task := by
  simp only [taskLockedSum, postedSum_of_rows hrows hposted, lockedChange, Bool.and_eq_true,
    decide_eq_true_eq, and_assoc]
  omega

/-- A row takes its own amount from the locked budget of its own task, or nothing. -/
theorem lockedChange_cases {t : CreditTransaction} (hpos : 0 < t.amount) (task : String) :
    0 ≤ lockedChange t task ∨ t.sourceAccount = some (systemAccountId .taskLocked) ∧
      t.relatedTask = some task ∧ lockedChange t task = -t.amount := by
  by_cases hout : t.sourceAccount = some (systemAccountId .taskLocked) ∧ t.relatedTask = some task
  · obtain ⟨hsource, hrelated⟩ := hout
    cases hty : t.transactionType with
    | taskReward | unlock => simp [lockedChange, hty, hsource, hrelated]
    | _ =>
      left
      simp only [lockedChange, hty, hsource, hrelated]
      simp
      try (split <;> omega)
  · left
    have hreward : ¬ (t.transactionType = .taskReward ∧
        t.sourceAccount = some (systemAccountId .taskLocked) ∧ t.relatedTask = some task) :=
      fun h => hout h.2
    have hunlock : ¬ (t.transactionType = .unlock ∧
        t.sourceAccount = some (systemAccountId .taskLocked) ∧ t.relatedTask = some task) :=
      fun h => hout h.2
    rw [lockedChange, if_neg hreward, if_neg hunlock]
    split <;> omega

/-- The room a new row needs on the account it draws from. -/
structure Room (s : CreditState ctx) (t : CreditTransaction) : Prop where
  pool : t.sourceAccount = some (systemAccountId .issuancePool) →
    t.amount ≤ creditBalance s (systemAccountId .issuancePool)
  locked : ∀ task, t.sourceAccount = some (systemAccountId .taskLocked) →
    t.relatedTask = some task → t.amount ≤ taskLockedSum s (systemAccountId .taskLocked) task

theorem BalanceInv.enter {t : CreditTransaction} {key : Option String} (h : BalanceInv s)
    (hc : Created s s' key t) (hshape : Shape ctx t) (hends : EndpointsIn s'.accounts t)
    (hroom : Room s t) : BalanceInv s' := by
  have hpos := hc.amount_pos
  refine ⟨?_, ?_, ?_, ?_, ?_⟩
  · intro u hu
    rw [hc.rows] at hu
    rcases List.mem_append.1 hu with hu | hu
    · exact h.posted u hu
    · rw [List.mem_singleton.1 hu]
      exact hc.posted
  · intro u hu
    rw [hc.rows] at hu
    rcases List.mem_append.1 hu with hu | hu
    · exact h.shape u hu
    · rw [List.mem_singleton.1 hu]
      exact hshape
  · intro u hu
    rw [hc.rows] at hu
    rcases List.mem_append.1 hu with hu | hu
    · intro a ha
      obtain ⟨account, hmem, hid⟩ := h.ends u hu a ha
      exact ⟨account, hc.accounts.subset _ hmem, hid⟩
    · rw [List.mem_singleton.1 hu]
      exact hends
  · have hpool := h.poolNonneg
    rw [creditBalance_of_rows hc.rows hc.posted]
    by_cases hsource : t.sourceAccount = some (systemAccountId .issuancePool)
    · have hle := hroom.pool hsource
      rw [if_pos hsource]
      split <;> omega
    · rw [if_neg hsource]
      split <;> omega
  · intro task
    have hlocked := h.lockedNonneg task
    rw [taskLockedSum_of_rows hc.rows hc.posted]
    rcases lockedChange_cases hpos task with hle | ⟨hsource, hrelated, heq⟩
    · omega
    · have hle := hroom.locked task hsource hrelated
      omega

theorem BalanceInv.of_transactions (h : BalanceInv s) (ht : s'.transactions = s.transactions)
    (hg : Grows ctx s.accounts s'.accounts) : BalanceInv s' := by
  refine ⟨?_, ?_, ?_, ?_, ?_⟩
  · rw [ht]; exact h.posted
  · rw [ht]; exact h.shape
  · intro t hmem a ha
    rw [ht] at hmem
    obtain ⟨account, hmem, hid⟩ := h.ends t hmem a ha
    exact ⟨account, hg.subset _ hmem, hid⟩
  · simp only [creditBalance, postedSum_of_transactions ht]
    exact h.poolNonneg
  · simp only [taskLockedSum, postedSum_of_transactions ht]
    exact h.lockedNonneg

/-! ## Every call -/

/-- A row drawn from elsewhere needs no room. -/
theorem Room.of_source {t : CreditTransaction} {txnType : TxnType} {amount : Int}
    {source : String} {target : Option String} (row : RowIs t txnType amount (some source) target)
    (hpool : source ≠ systemAccountId .issuancePool)
    (hlocked : source ≠ systemAccountId .taskLocked) : Room s t :=
  ⟨fun h => absurd (Option.some.inj (row.source.symm.trans h)) hpool,
    fun _ h => absurd (Option.some.inj (row.source.symm.trans h)) hlocked⟩

/-- The entered rows of budgeted calls have their shape and room. -/
theorem Entry.shape {t : CreditTransaction} (hc : Budgeted c) (h : Entry s t c) :
    Shape ctx t ∧ Room s t := by
  have hne := systemAccountId_injective.ne (show AccountType.issuancePool ≠ .taskLocked by decide)
  cases h with
  | issue row =>
    refine ⟨.issuance row.self, ⟨fun h => ?_, fun task h => ?_⟩⟩
    · cases row.source.symm.trans h
    · cases row.source.symm.trans h
  | lock row related room =>
    refine ⟨.lock _ row.self related, ⟨fun _ => row.amount ▸ room, fun task h => ?_⟩⟩
    exact absurd (Option.some.inj (row.source.symm.trans h)) hne
  | unlock row related room =>
    refine ⟨.unlock _ row.self related, ⟨fun h => ?_, fun task _ hrelated => ?_⟩⟩
    · exact absurd (Option.some.inj (row.source.symm.trans h)).symm hne
    · obtain rfl := Option.some.inj (related.symm.trans hrelated)
      exact row.amount ▸ room
  | reward row related room =>
    obtain rfl := hc
    refine ⟨.reward _ _ row.self related, ⟨fun h => ?_, fun task _ hrelated => ?_⟩⟩
    · exact absurd (Option.some.inj (row.source.symm.trans h)).symm hne
    · obtain rfl := Option.some.inj (related.symm.trans hrelated)
      exact row.amount ▸ room rfl
  | transfer row =>
    exact ⟨.transfer _ _ row.self, .of_source row (memberAccountId_ne_system ctx _ _)
      (memberAccountId_ne_system ctx _ _)⟩
  | deduct row =>
    exact ⟨.deduct _ row.self, .of_source row (memberAccountId_ne_system ctx _ _)
      (memberAccountId_ne_system ctx _ _)⟩

theorem BalanceInv.ordered {args : CreateOrderArgs} {itemType : ItemType} {order : RedemptionOrder}
    {t : CreditTransaction} (hacc : AccountsOk ctx s.accounts) (h : BalanceInv s)
    (ho : Ordered env s s' args itemType order t) : BalanceInv s' := by
  have hends : EndpointsIn s'.accounts t := .of_row ho.row (member_mem ho.account)
    ((hacc.grow ho.accounts).system_mem (by decide))
  have hrow := RowIs.self ho.row
  obtain ⟨s₁, hplace, hwrite⟩ := ho.writes
  have h₁ : BalanceInv s₁ := by
    rcases hplace with ⟨grown, -⟩ | ⟨placed, -⟩
    · exact h.of_transactions grown.transactions grown.accounts
    · exact h.of_transactions placed.transactions placed.accounts
  rcases hwrite with reused | ⟨created, -⟩
  · exact h₁.of_transactions reused.grown.transactions reused.grown.accounts
  · exact h₁.enter created (.consume _ hrow) hends (.of_source hrow
      (memberAccountId_ne_system ctx _ _) (memberAccountId_ne_system ctx _ _))

theorem BalanceInv.closed {order : RedemptionOrder} {txnType : TxnType} {target : String}
    {key : Option String} {metadata : Json} {fields : RedemptionOrder → RedemptionOrder}
    (h : BalanceInv s) (hc : Closed s s' order txnType target key metadata fields)
    (hshape : ∀ t, RowIs t txnType t.amount (some (systemAccountId .frozen)) (some target) →
      Shape ctx t)
    (hends : ∀ t, RowIs t txnType t.amount (some (systemAccountId .frozen)) (some target) →
      EndpointsIn s'.accounts t) : BalanceInv s' := by
  obtain ⟨s₁, t, row, write, htransactions, haccounts⟩ := hc.posted
  have hrow := row.self
  have h₁ : BalanceInv s₁ := by
    rcases write with reused | ⟨created, -⟩
    · exact h.of_transactions reused.grown.transactions reused.grown.accounts
    · exact h.enter created (hshape t hrow) (haccounts ▸ hends t hrow) (.of_source hrow
        (systemAccountId_injective.ne (by decide)) (systemAccountId_injective.ne (by decide)))
  have hgrows : Grows ctx s₁.accounts s'.accounts := by
    rw [haccounts]
    exact ⟨(haccounts ▸ hc.accounts).known, fun _ ha => ha⟩
  exact h₁.of_transactions htransactions hgrows

/-- **One call keeps the balances.** -/
theorem BalanceInv.step (hacc : AccountsOk ctx s.accounts) (h : BalanceInv s) (hc : Budgeted c)
    (he : Effect env s s' c) : BalanceInv s' := by
  have hacc' := hacc.grow (he.accounts hacc)
  cases he with
  | idle grown => exact h.of_transactions grown.transactions grown.accounts
  | entered created entry ends =>
    obtain ⟨hshape, hroom⟩ := entry.shape hc
    exact h.enter created hshape ends hroom
  | posted type row created => exact hc.elim
  | reversed mem free row write linked => exact hc.elim
  | ordered item missing ordered => exact h.ordered hacc ordered
  | cancelled mem account closed =>
    exact h.closed closed (fun t row => .unfreeze _ row) fun t row =>
      .of_row row (hacc'.system_mem (by decide)) (member_mem account)
  | fulfilled mem closed =>
    exact h.closed closed (fun t row => .burn row) fun t row =>
      .of_row row (hacc'.system_mem (by decide)) (hacc'.system_mem (by decide))
  | reported mem pending updated =>
    rw [updated]
    exact h.of_transactions rfl ⟨hacc.known, fun _ ha => ha⟩

/-! ## Whole runs -/

theorem balanceInv_fresh (accounts : AccountTable) :
    BalanceInv { CreditState.fresh ctx with accounts := accounts } where
  posted := fun _ h => absurd h List.not_mem_nil
  shape := fun _ h => absurd h List.not_mem_nil
  ends := fun _ h => absurd h List.not_mem_nil
  poolNonneg := le_refl 0
  lockedNonneg := fun _ => le_refl 0

/-- The balances of the ledger fit together. -/
structure Balanced (s : CreditState ctx) : Prop where
  /-- The issuance pool is not overdrawn. -/
  pool : ∃ account, pool s .issuancePool = .ok account ∧ 0 ≤ creditBalance s account.accountId
  /-- No task is drawn below zero, and the locked account holds the budgets of the tasks. -/
  locked : ∃ account, ∃ balance : String → Int, Credit.pool s .taskLocked = .ok account ∧
    (∀ task, taskLockedCreditBalance s task = .ok (balance task) ∧ 0 ≤ balance task) ∧
    ∀ tasks : Finset String,
      (∀ t ∈ s.transactions.rows, ∀ task, t.relatedTask = some task → task ∈ tasks) →
      creditBalance s account.accountId = ∑ task ∈ tasks, balance task
  /-- The accounts together hold what was issued. -/
  total : (s.accounts.rows.map fun a => creditBalance s a.accountId).sum =
    postedSum s fun t => t.transactionType = .issuance

theorem Shape.of_target_locked {t : CreditTransaction} (h : Shape ctx t)
    (ht : t.targetAccount = some (systemAccountId .taskLocked)) :
    t.transactionType = .lock ∧ t.relatedTask.isSome := by
  cases h with
  | lock task row related => exact ⟨row.transactionType, by rw [related]; rfl⟩
  | issuance row | unlock _ row | reward _ _ row | transfer _ _ row | deduct _ row | consume _ row
  | unfreeze _ row | burn row => simp [row.target] at ht

theorem Shape.of_source_locked {t : CreditTransaction} (h : Shape ctx t)
    (ht : t.sourceAccount = some (systemAccountId .taskLocked)) :
    (t.transactionType = .taskReward ∨ t.transactionType = .unlock) ∧ t.relatedTask.isSome := by
  cases h with
  | unlock task row related => exact ⟨.inr row.transactionType, by rw [related]; rfl⟩
  | reward task member row related => exact ⟨.inl row.transactionType, by rw [related]; rfl⟩
  | issuance row | lock _ row | transfer _ _ row | deduct _ row | consume _ row
  | unfreeze _ row | burn row => simp [row.source] at ht

/-- Every row has a target, and only issued credits have no source. -/
theorem Shape.target_isSome {t : CreditTransaction} (h : Shape ctx t) :
    t.targetAccount.isSome ∧ (t.sourceAccount.isSome ↔ t.transactionType ≠ .issuance) := by
  cases h with
  | issuance row | lock _ row | unlock _ row | reward _ _ row | transfer _ _ row | deduct _ row
  | consume _ row | unfreeze _ row | burn row =>
    simp [row.source, row.target, row.transactionType]

section

variable {tasks : Finset String}

/-- The rows of a kind that is always about a task, summed task by task. -/
theorem sum_postedSum_task (htasks : ∀ t ∈ s.transactions.rows, ∀ task,
      t.relatedTask = some task → task ∈ tasks) {q : CreditTransaction → Bool}
    (hq : ∀ t ∈ s.transactions.rows, q t = true → t.relatedTask.isSome) :
    ∑ task ∈ tasks, postedSum s (fun t => q t && t.relatedTask = some task) = postedSum s q := by
  let p : CreditTransaction → Bool := fun t => q t && t.status = .posted
  calc ∑ task ∈ tasks, postedSum s (fun t => q t && t.relatedTask = some task)
      = ∑ task ∈ tasks, sumWhere CreditTransaction.amount
          (fun t => p t && t.relatedTask = some task) s.transactions.rows := by
        refine Finset.sum_congr rfl fun task _ => sumWhere_congr fun t _ => ?_
        exact Bool.and_right_comm _ _ _
    _ = sumWhere CreditTransaction.amount (fun t => p t && t.relatedTask.isSome)
          s.transactions.rows :=
        sum_sumWhere_label _ tasks fun t ht _ task => htasks t ht task
    _ = postedSum s q := by
        refine sumWhere_congr fun t ht => ?_
        cases hqt : q t with
        | false => simp [p, hqt]
        | true => simp [p, hqt, hq t ht hqt]

/-- The locked account holds the locked budgets of the tasks. -/
theorem BalanceInv.locked_total (h : BalanceInv s) (htasks : ∀ t ∈ s.transactions.rows, ∀ task,
      t.relatedTask = some task → task ∈ tasks) :
    creditBalance s (systemAccountId .taskLocked) =
      ∑ task ∈ tasks, taskLockedSum s (systemAccountId .taskLocked) task := by
  simp only [taskLockedSum, Finset.sum_sub_distrib]
  rw [sum_postedSum_task htasks, sum_postedSum_task htasks, sum_postedSum_task htasks]
  · have hin : postedSum s (fun t => t.targetAccount = some (systemAccountId .taskLocked)) =
        postedSum s fun t => t.transactionType = .lock &&
          t.targetAccount = some (systemAccountId .taskLocked) := by
      refine sumWhere_congr fun t ht => ?_
      by_cases htarget : t.targetAccount = some (systemAccountId .taskLocked)
      · simp [htarget, ((h.shape t ht).of_target_locked htarget).1]
      · simp [htarget]
    -- what flows out of the locked account is a reward or a budget given back
    have hout : postedSum s (fun t => t.sourceAccount = some (systemAccountId .taskLocked)) =
        postedSum s (fun t => t.transactionType = .taskReward &&
          t.sourceAccount = some (systemAccountId .taskLocked)) +
        postedSum s (fun t => t.transactionType = .unlock &&
          t.sourceAccount = some (systemAccountId .taskLocked)) := by
      rw [postedSum, sumWhere_split fun t => t.transactionType = .taskReward]
      congr 1
      · exact sumWhere_congr fun t _ => by ac_rfl
      · refine sumWhere_congr fun t ht => ?_
        by_cases hsource : t.sourceAccount = some (systemAccountId .taskLocked)
        · rcases ((h.shape t ht).of_source_locked hsource).1 with hty | hty
          · simp [hsource, hty]
          · simp [hsource, hty]
        · simp [hsource]
    rw [creditBalance, hin, hout]
    omega
  · intro t ht hq
    simp only [Bool.and_eq_true, decide_eq_true_eq] at hq
    exact ((h.shape t ht).of_source_locked hq.2).2
  · intro t ht hq
    simp only [Bool.and_eq_true, decide_eq_true_eq] at hq
    exact ((h.shape t ht).of_source_locked hq.2).2
  · intro t ht hq
    simp only [Bool.and_eq_true, decide_eq_true_eq] at hq
    exact ((h.shape t ht).of_target_locked hq.2).2

end

theorem creditBalance_eq_balanceWhere (s : CreditState ctx) (a : String) :
    creditBalance s a = balanceWhere CreditTransaction.amount CreditTransaction.sourceAccount
      CreditTransaction.targetAccount (fun t => t.status = .posted) s.transactions.rows a := by
  unfold creditBalance balanceWhere postedSum
  congr 1
  · exact sumWhere_congr fun t _ => Bool.and_comm _ _
  · exact sumWhere_congr fun t _ => Bool.and_comm _ _

/-- The accounts together hold what was issued. -/
theorem BalanceInv.total (h : BalanceInv s) :
    (s.accounts.rows.map fun a => creditBalance s a.accountId).sum =
      postedSum s fun t => t.transactionType = .issuance := by
  have hlist : (s.accounts.rows.map fun a => creditBalance s a.accountId) =
      (s.accounts.rows.map CreditAccount.accountId).map (creditBalance s) := by
    rw [List.map_map]
    rfl
  rw [hlist, ← List.sum_toFinset _ s.accounts.pkUnique]
  simp only [creditBalance_eq_balanceWhere]
  rw [sum_balanceWhere]
  · have hin : sumWhere CreditTransaction.amount
        (fun t => decide (t.status = .posted) && t.targetAccount.isSome) s.transactions.rows =
        sumWhere CreditTransaction.amount (fun t => t.status = .posted) s.transactions.rows :=
      sumWhere_congr fun t ht => by simp [(h.shape t ht).target_isSome.1]
    have hout : sumWhere CreditTransaction.amount
        (fun t => decide (t.status = .posted) && !t.sourceAccount.isSome) s.transactions.rows =
        postedSum s fun t => t.transactionType = .issuance := by
      refine sumWhere_congr fun t ht => ?_
      rw [Bool.and_comm]
      congr 1
      have hsource := (h.shape t ht).target_isSome.2
      by_cases hty : t.transactionType = .issuance
      · simpa [hty] using hsource
      · simpa [hty] using hsource
    rw [hin, sumWhere_split fun t => t.sourceAccount.isSome, hout]
    omega
  · intro t ht a ha
    obtain ⟨account, hmem, rfl⟩ := h.ends t ht a ha
    exact List.mem_toFinset.2 (List.mem_map_of_mem hmem)

/-- **Balances over runs.** After any run of budgeted calls, failed ones included, no pool or task
is overdrawn, the locked account holds the budgets of the tasks and the accounts together hold what
was issued. -/
theorem creditRun_balanced (ctx : Context) (cs : List (CallEnv × CreditCall))
    (hcs : ∀ c ∈ cs, Budgeted c.2) : Balanced (creditRun ctx cs) := by
  have heach : EachCall creditStep (fun _ c => Budgeted c.2) (initialState ctx) cs :=
    EachCall.of_forall _ fun c hc _ => hcs c hc
  obtain ⟨hacc, hinv⟩ := creditRun_invariant (fun accounts _ => balanceInv_fresh accounts)
    (fun s env c s' hacc h hc he => h.step hacc hc he) heach
  have hpool := pool_eq hacc (show AccountType.issuancePool ≠ .member by decide)
  have hlocked := pool_eq hacc (show AccountType.taskLocked ≠ .member by decide)
  refine ⟨⟨_, hpool, hinv.poolNonneg⟩, ⟨_, taskLockedSum _ (systemAccountId .taskLocked),
    hlocked, fun task => ?_, fun tasks htasks => hinv.locked_total htasks⟩, hinv.total⟩
  rw [taskLockedCreditBalance, hlocked]
  exact ⟨rfl, hinv.lockedNonneg task⟩

/-- A pool of 5, of which 3 are locked for a task and then asked for again. -/
theorem creditRun_balanced_lock : Balanced (creditRun strokeContext
    [(strokeEnv 1, .issue 5 "" 0 0 none), (strokeEnv 2, .lock "t" 3 "" none (some "k")),
      (strokeEnv 3, .lock "t" 3 "" none (some "k"))]) :=
  creditRun_balanced strokeContext _ (by simp [Budgeted])

end LiveOs.Credit
