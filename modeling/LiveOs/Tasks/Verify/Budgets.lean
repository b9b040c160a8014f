import LiveOs.Credit.Verify.Balances
import LiveOs.Tasks.Review

/-!
# Task budgets between reads and commits

A lock holds the rows of both system accounts, so no two locks overlap and the pool covers the one
that runs. An unlock holds nothing and a review only its task, so several of them can have read one
budget before any of them draws on it. The budgets stay covered as long as what starts fits beside
what runs.
-/

namespace LiveOs.Tasks

open Lib EventLedger Roles Credit

variable {ctx : Context}

/-! ## What a plan draws -/

/-- What a planned posting takes from the issuance pool. -/
def drawnFromPool : Posting → Int
  | .existing _ => 0
  | .create args _ _ =>
    if args.sourceAccount = some (systemAccountId .issuancePool) then args.amount else 0

/-- What a planned posting takes from the locked budget of a task. -/
def drawnFromBudget (task : String) : Posting → Int
  | .existing _ => 0
  | .create args _ _ =>
    if args.sourceAccount = some (systemAccountId .taskLocked) ∧ args.relatedTask = some task then
      args.amount
    else 0

def BudgetPlan.posting : BudgetPlan → Option Posting
  | .post posting => some posting
  | .review plan => plan.posting

abbrev RunningCall := Running (ReviewEnv × BudgetCall) BudgetPlan

def poolDraw (t : RunningCall) : Int := (t.plan.posting.map drawnFromPool).getD 0

def budgetDraw (task : String) (t : RunningCall) : Int :=
  (t.plan.posting.map (drawnFromBudget task)).getD 0

/-! ## The condition -/

def poolBalance (s : BudgetState ctx) : Int :=
  creditBalance s.credit (systemAccountId .issuancePool)

def lockedBudget (s : BudgetState ctx) (task : String) : Int :=
  taskLockedSum s.credit (systemAccountId .taskLocked) task

/-- What a call asks of the locked budget of a task, unless its row is posted already. -/
def demand (s : BudgetState ctx) : BudgetCall → Option (String × Int)
  | .lock .. => none
  | .unlock task amount _ _ key =>
    if (findPostedOfType s.credit (normaliseIdemKey key) .unlock).isSome then none
    else some (task, amount)
  | .review task _ _ =>
    if (findPostedOfType s.credit (some (taskRewardKey (reviewEntryRef task))) .taskReward).isSome
    then none
    else (s.tasks.get? task).map fun row => (task, rewardAmount row)

/-- A call that is not blocked and whose demand fits the budget also fits beside the running
transactions that have read the same budget. -/
def Fits (w : BudgetWorld ctx) : Move (ReviewEnv × BudgetCall) → Prop
  | .start c => (∀ t ∈ w.running, ¬ (budgets ctx).Conflict t.call c) →
      ∀ d ∈ demand w.committed c.2, d.2 ≤ lockedBudget w.committed d.1 →
        Split.reserved (budgetDraw d.1) w.running + d.2 ≤ lockedBudget w.committed d.1
  | _ => True

instance (w : BudgetWorld ctx) : ∀ m, Decidable (Fits w m)
  | .start c => inferInstanceAs (Decidable ((∀ t ∈ w.running, ¬ (budgets ctx).Conflict t.call c) →
      ∀ d ∈ demand w.committed c.2, d.2 ≤ lockedBudget w.committed d.1 →
        Split.reserved (budgetDraw d.1) w.running + d.2 ≤ lockedBudget w.committed d.1))
  | .commit _ => isTrue trivial
  | .rollback _ => isTrue trivial

/-- Neither the pool nor any task is overdrawn, by the balances that the services compute. -/
structure BudgetsCovered (s : CreditState ctx) : Prop where
  pool : ∃ account, findPool s .issuancePool = some account ∧
    0 ≤ creditBalance s account.accountId
  locked : ∀ task, ∃ balance, taskLockedCreditBalance s task = .ok balance ∧ 0 ≤ balance

/-! ## Reads -/

section

variable {s : CreditState ctx} {args : PostArgs} {p : Posting}

theorem postReads_ok (h : postReads s args = .ok p) :
    (∃ txn, p = .existing txn) ∨ 0 < args.amount ∧ ∃ txnType metadata,
      TxnType.ofValue? args.transactionType = some txnType ∧ p = .create args txnType metadata := by
  obtain ⟨hamount, h⟩ := rejectIf_bind_eq_ok.1 h
  cases hty : TxnType.ofValue? args.transactionType with
  | none =>
    rw [hty] at h
    cases h
  | some txnType =>
    simp only [hty] at h
    split at h
    · obtain ⟨_, -, h⟩ := bind_eq_ok.1 h
      exact .inl ⟨_, (pure_eq_ok.1 h).symm⟩
    · split at h
      · cases h
      · exact .inr ⟨not_le.1 hamount, txnType, _, rfl, (pure_eq_ok.1 h).symm⟩

variable {task reason : String} {amount : Int} {initiatedBy : Option Nat} {key : Option String}

theorem lockReads_ok (hacc : AccountsOk ctx s.accounts)
    (h : lockReads s task amount reason initiatedBy key = .ok p) :
    (∃ txn, p = .existing txn) ∨ ∃ args txnType metadata, p = .create args txnType metadata ∧
      0 < args.amount ∧ args.sourceAccount = some (systemAccountId .issuancePool) ∧
      args.amount ≤ creditBalance s (systemAccountId .issuancePool) := by
  unfold lockReads at h
  rw [findPool_eq hacc (by decide), findPool_eq hacc (by decide)] at h
  simp only at h
  split at h
  · obtain ⟨_, -, h⟩ := bind_eq_ok.1 h
    exact .inl ⟨_, (pure_eq_ok.1 h).symm⟩
  · obtain ⟨hbalance, h⟩ := rejectIf_bind_eq_ok.1 h
    rcases postReads_ok h with hexisting | ⟨hpos, txnType, metadata, -, rfl⟩
    · exact .inl hexisting
    · exact .inr ⟨_, txnType, metadata, rfl, hpos, rfl, not_lt.1 hbalance⟩

theorem unlockReads_ok (hacc : AccountsOk ctx s.accounts)
    (h : unlockReads s task amount reason initiatedBy key = .ok p) :
    (∃ txn, p = .existing txn) ∨ ∃ args txnType metadata, p = .create args txnType metadata ∧
      args.amount = amount ∧ 0 < amount ∧
      args.sourceAccount = some (systemAccountId .taskLocked) ∧ args.relatedTask = some task ∧
      findPostedOfType s (normaliseIdemKey key) .unlock = none ∧
      amount ≤ taskLockedSum s (systemAccountId .taskLocked) task := by
  unfold unlockReads at h
  rw [pool_eq hacc (by decide), pool_eq hacc (by decide), ok_bind, ok_bind] at h
  split at h
  · obtain ⟨_, -, h⟩ := bind_eq_ok.1 h
    exact .inl ⟨_, (pure_eq_ok.1 h).symm⟩
  · rename_i hfind
    rw [taskLockedCreditBalance, pool_eq hacc (by decide), ok_bind] at h
    obtain ⟨hguard, h⟩ := rejectIf_bind_eq_ok.1 h
    have hle : amount ≤ taskLockedSum s (systemAccountId .taskLocked) task :=
      not_lt.1 fun hlt => hguard (.inr hlt)
    rcases postReads_ok h with hexisting | ⟨hpos, txnType, metadata, -, rfl⟩
    · exact .inl hexisting
    · exact .inr ⟨_, txnType, metadata, rfl, rfl, hpos, rfl, rfl, hfind, hle⟩

theorem rewardReads_ok {memberAccount : String} {entry : LedgerEntryRef} {reviewedBy : Option Nat}
    (hacc : AccountsOk ctx s.accounts)
    (h : rewardReads s memberAccount task amount entry reviewedBy reason = .ok p) :
    (∃ txn, p = .existing txn) ∨ ∃ args txnType metadata, p = .create args txnType metadata ∧
      args.amount = amount ∧ 0 < amount ∧
      args.sourceAccount = some (systemAccountId .taskLocked) ∧ args.relatedTask = some task ∧
      findPostedOfType s (some (taskRewardKey entry)) .taskReward = none ∧
      amount ≤ taskLockedSum s (systemAccountId .taskLocked) task := by
  unfold rewardReads at h
  rw [pool_eq hacc (by decide), pool_eq hacc (by decide), ok_bind, ok_bind] at h
  split at h
  · obtain ⟨_, -, h⟩ := bind_eq_ok.1 h
    exact .inl ⟨_, (pure_eq_ok.1 h).symm⟩
  · rename_i hfind
    rw [taskLockedCreditBalance, pool_eq hacc (by decide), ok_bind] at h
    obtain ⟨hguard, h⟩ := rejectIf_bind_eq_ok.1 h
    rcases postReads_ok h with hexisting | ⟨hpos, txnType, metadata, -, rfl⟩
    · exact .inl hexisting
    · exact .inr ⟨_, txnType, metadata, rfl, rfl, hpos, rfl, rfl, hfind, not_lt.1 hguard⟩

end

/-- A transaction plans to post only what its reads found covered. -/
inductive Planned (s : BudgetState ctx) (c : ReviewEnv × BudgetCall) (args : PostArgs) : Prop
  | fromPool (locks : .account .issuancePool ∈ c.2.locks)
      (source : args.sourceAccount = some (systemAccountId .issuancePool))
      (covered : args.amount ≤ poolBalance s)
  | fromBudget (task : String) (source : args.sourceAccount = some (systemAccountId .taskLocked))
      (related : args.relatedTask = some task) (demand : demand s c.2 = some (task, args.amount))
      (covered : args.amount ≤ lockedBudget s task)

section

variable {s s' : BudgetState ctx} {c : ReviewEnv × BudgetCall} {plan : BudgetPlan}

/-- The accounts that a reward needs. -/
theorem rewardAccounts {credit credit₁ credit₂ : CreditState ctx} {assignee : Nat}
    {account : CreditAccount} (hacc : AccountsOf ctx credit.accounts)
    (hensure : ensureSystemAccounts credit = .ok credit₁)
    (hmember : getOrCreateMemberCreditAccount credit₁ assignee = .ok (credit₂, account)) :
    AccountsOk ctx credit₂.accounts ∧ credit₂.transactions = credit.transactions := by
  obtain ⟨accounts, hensure', hok, -⟩ := ensureSystemAccounts_ok hacc
  obtain rfl := Except.ok.inj (hensure'.symm.trans hensure)
  obtain ⟨-, hgrown, -⟩ := getOrCreateMember_inv hok.known hmember
  exact ⟨hok.grow hgrown.accounts, hgrown.transactions⟩

theorem reviewReads_ok {env : ReviewEnv} {task reason : String} {reviewer : List (String × Json)}
    {plan : ReviewPlan} (hacc : AccountsOk ctx s.credit.accounts)
    (h : reviewReads env s task reviewer reason = .ok plan) {args : PostArgs} {txnType : TxnType}
    {metadata : Json} (hplan : plan.posting = some (.create args txnType metadata)) :
    0 < args.amount ∧ Planned s (env, .review task reviewer reason) args := by
  obtain ⟨row, hrow, h⟩ := bind_eq_ok.1 h
  have hget : s.tasks.get? task = some row := Roles.related_eq_ok.1 hrow
  obtain ⟨-, h⟩ := rejectIf_bind_eq_ok.1 h
  split at h
  · cases h
  · rename_i assignee hassignee
    obtain ⟨-, h⟩ := rejectIf_bind_eq_ok.1 h
    obtain ⟨-, h⟩ := rejectIf_bind_eq_ok.1 h
    obtain ⟨-, h⟩ := rejectIf_bind_eq_ok.1 h
    split at h
    · obtain rfl := pure_eq_ok.1 h
      cases hplan
    · obtain ⟨credit₁, hensure, h⟩ := bind_eq_ok.1 h
      obtain ⟨⟨credit₂, account⟩, hmember, h⟩ := bind_eq_ok.1 h
      obtain ⟨posting, hreads, h⟩ := bind_eq_ok.1 h
      obtain rfl := pure_eq_ok.1 h
      obtain rfl := Option.some.inj hplan
      obtain ⟨hacc₂, htxns⟩ := rewardAccounts hacc.known hensure hmember
      rcases rewardReads_ok hacc₂ hreads with ⟨txn, hexisting⟩ | ⟨args', ty, md, heq, hamount, hpos,
        hsource, hrelated, hfind, hle⟩
      · cases hexisting
      · obtain ⟨rfl, rfl, rfl⟩ := Posting.create.inj heq
        have hfind' : findPostedOfType s.credit (some (taskRewardKey (reviewEntryRef task)))
            .taskReward = none := by
          rw [← hfind, findPostedOfType, findPostedOfType, htxns]
        refine ⟨hamount ▸ hpos, .fromBudget task hsource hrelated ?_ ?_⟩
        · rw [demand, hfind', hget, hamount]
          rfl
        · rw [hamount]
          rwa [taskLockedSum, postedSum, postedSum, postedSum, htxns] at hle

theorem budgetReads_ok (hacc : AccountsOk ctx s.credit.accounts)
    (h : budgetReads s c = .ok plan) {args : PostArgs} {txnType : TxnType} {metadata : Json}
    (hplan : plan.posting = some (.create args txnType metadata)) :
    0 < args.amount ∧ Planned s c args := by
  obtain ⟨env, call⟩ := c
  cases call with
  | lock task amount reason initiatedBy key =>
    obtain ⟨posting, hreads, h⟩ := bind_eq_ok.1 h
    obtain rfl := pure_eq_ok.1 h
    obtain rfl := Option.some.inj hplan
    rcases lockReads_ok hacc hreads with ⟨txn, hexisting⟩ | ⟨args', ty, md, heq, hpos, hsource, hle⟩
    · cases hexisting
    · obtain ⟨rfl, rfl, rfl⟩ := Posting.create.inj heq
      exact ⟨hpos, .fromPool List.mem_cons_self hsource hle⟩
  | unlock task amount reason initiatedBy key =>
    obtain ⟨posting, hreads, h⟩ := bind_eq_ok.1 h
    obtain rfl := pure_eq_ok.1 h
    obtain rfl := Option.some.inj hplan
    rcases unlockReads_ok hacc hreads with ⟨txn, hexisting⟩ | ⟨args', ty, md, heq, hamount, hpos,
      hsource, hrelated, hfind, hle⟩
    · cases hexisting
    · obtain ⟨rfl, rfl, rfl⟩ := Posting.create.inj heq
      refine ⟨hamount ▸ hpos, .fromBudget task hsource hrelated ?_ (hamount ▸ hle)⟩
      rw [demand, hfind, hamount]
      rfl
  | review task reviewer reason =>
    obtain ⟨plan', hreads, h⟩ := bind_eq_ok.1 h
    obtain rfl := pure_eq_ok.1 h
    exact reviewReads_ok hacc hreads hplan

/-! ## Writes -/

/-- Writing a plan adds the planned row or none. -/
inductive Wrote (s s' : CreditState ctx) (posting : Option Posting) : Prop
  | nothing (same : s'.transactions = s.transactions)
  | row (env : CallEnv) (args : PostArgs) (txnType : TxnType) (metadata : Json)
      (planned : posting = some (.create args txnType metadata))
      (rows : s'.transactions.rows =
        s.transactions.rows ++ [newTransaction env args txnType metadata])

theorem postWrites_ok {credit credit' : CreditState ctx} {env : CallEnv} {posting : Posting}
    {txn : CreditTransaction} (h : postWrites env credit posting = .ok (credit', txn)) :
    credit'.accounts = credit.accounts ∧ Wrote credit credit' (some posting) := by
  cases posting with
  | existing existing =>
    obtain ⟨rfl, -⟩ := Prod.mk.inj (Except.ok.inj h)
    exact ⟨rfl, .nothing rfl⟩
  | create args txnType metadata =>
    simp only [postWrites] at h
    split at h
    · rename_i credit₁ hcreate
      obtain ⟨rfl, -⟩ := Prod.mk.inj (Except.ok.inj h)
      obtain ⟨hrows, -, haccounts, -⟩ := createTransaction_ok hcreate
      exact ⟨haccounts, .row env args txnType metadata rfl hrows⟩
    · split at h
      · obtain ⟨_, -, h⟩ := bind_eq_ok.1 h
        obtain ⟨rfl, -⟩ := Prod.mk.inj (pure_eq_ok.1 h)
        exact ⟨rfl, .nothing rfl⟩
      · cases h
    · cases h

theorem Wrote.of_same {a b b' : CreditState ctx} {posting : Option Posting}
    (h : Wrote b b' posting) (hsame : b.transactions = a.transactions) : Wrote a b' posting := by
  cases h with
  | nothing same => exact .nothing (same.trans hsame)
  | row env args txnType metadata planned rows =>
    exact .row env args txnType metadata planned (by rw [rows, hsame])

theorem saveAccepted_credit {env : ReviewEnv} {plan : ReviewPlan}
    (h : saveAccepted env s plan = .ok s') : s'.credit.accounts = s.credit.accounts ∧
      s'.credit.transactions = s.credit.transactions := by
  obtain ⟨payload, -, h⟩ := bind_eq_ok.1 h
  obtain ⟨events, -, h⟩ := bind_eq_ok.1 h
  obtain rfl := pure_eq_ok.1 h
  exact ⟨rfl, rfl⟩

theorem recordReward_credit {env : ReviewEnv} {plan : ReviewPlan}
    (h : recordReward env s plan = .ok s') : s'.credit.accounts = s.credit.accounts ∧
      s'.credit.transactions = s.credit.transactions := by
  obtain ⟨_, -, h⟩ := bind_eq_ok.1 h
  obtain ⟨publicEvents, -, h⟩ := bind_eq_ok.1 h
  obtain ⟨entries, -, h⟩ := bind_eq_ok.1 h
  obtain ⟨payload, -, h⟩ := bind_eq_ok.1 h
  obtain ⟨events, -, h⟩ := bind_eq_ok.1 h
  obtain rfl := pure_eq_ok.1 h
  exact ⟨rfl, rfl⟩

theorem reviewWrites_ok {env : ReviewEnv} {plan : ReviewPlan}
    (hacc : AccountsOk ctx s.credit.accounts) (h : reviewWrites env s plan = .ok s') :
    AccountsOk ctx s'.credit.accounts ∧ Wrote s.credit s'.credit plan.posting := by
  obtain ⟨s₁, hsave, h⟩ := bind_eq_ok.1 h
  obtain ⟨haccounts₁, htxns₁⟩ := saveAccepted_credit hsave
  split at h
  · obtain rfl := pure_eq_ok.1 h
    exact ⟨haccounts₁ ▸ hacc, .nothing htxns₁⟩
  · rename_i posting hposting
    obtain ⟨s₂, hrecord, h⟩ := bind_eq_ok.1 h
    obtain ⟨haccounts₂, htxns₂⟩ := recordReward_credit hrecord
    have hknown : AccountsOf ctx s₂.credit.accounts := by
      rw [haccounts₂, haccounts₁]
      exact hacc.known
    obtain ⟨credit₁, hensure, h⟩ := bind_eq_ok.1 h
    obtain ⟨⟨credit₂, account⟩, hmember, h⟩ := bind_eq_ok.1 h
    obtain ⟨⟨credit₃, txn⟩, hpost, h⟩ := bind_eq_ok.1 h
    obtain rfl := pure_eq_ok.1 h
    obtain ⟨hok, htxns⟩ := rewardAccounts hknown hensure hmember
    obtain ⟨haccounts, hwrote⟩ := postWrites_ok hpost
    rw [hposting]
    exact ⟨haccounts ▸ hok, hwrote.of_same (htxns.trans (htxns₂.trans htxns₁))⟩

theorem budgetWrites_ok (hacc : AccountsOk ctx s.credit.accounts)
    (h : budgetWrites s c plan = .ok s') :
    AccountsOk ctx s'.credit.accounts ∧ Wrote s.credit s'.credit plan.posting := by
  cases plan with
  | post posting =>
    obtain ⟨⟨credit, txn⟩, hpost, h⟩ := bind_eq_ok.1 h
    obtain rfl := pure_eq_ok.1 h
    obtain ⟨haccounts, hwrote⟩ := postWrites_ok hpost
    exact ⟨haccounts ▸ hacc, hwrote⟩
  | review plan => exact reviewWrites_ok hacc h

end

/-! ## The invariant -/

/-- The balances after a written plan: the row takes its amount from where it was planned to. -/
theorem Wrote.balances {credit credit' : CreditState ctx} {posting : Option Posting}
    (h : Wrote credit credit' posting)
    (hpos : ∀ args txnType metadata, posting = some (.create args txnType metadata) →
      0 < args.amount) :
    creditBalance credit (systemAccountId .issuancePool) - (posting.map drawnFromPool).getD 0 ≤
        creditBalance credit' (systemAccountId .issuancePool) ∧
      ∀ task, taskLockedSum credit (systemAccountId .taskLocked) task -
        (posting.map (drawnFromBudget task)).getD 0 ≤
          taskLockedSum credit' (systemAccountId .taskLocked) task := by
  cases h with
  | nothing same =>
    have hdraw : 0 ≤ (posting.map drawnFromPool).getD 0 ∧
        ∀ task, 0 ≤ (posting.map (drawnFromBudget task)).getD 0 := by
      match posting with
      | none => exact ⟨le_refl 0, fun _ => le_refl 0⟩
      | some (.existing _) => exact ⟨le_refl 0, fun _ => le_refl 0⟩
      | some (.create args txnType metadata) =>
        have hamount := hpos args txnType metadata rfl
        simp only [Option.map_some, Option.getD_some, drawnFromPool, drawnFromBudget]
        exact ⟨by split <;> omega, fun task => by split <;> omega⟩
    refine ⟨?_, fun task => ?_⟩
    · rw [creditBalance, creditBalance, postedSum_of_transactions same,
        postedSum_of_transactions same]
      have hle := hdraw.1
      omega
    · simp only [taskLockedSum, postedSum_of_transactions same]
      have hle := hdraw.2 task
      omega
  | row env args txnType metadata planned rows =>
    have hamount := hpos args txnType metadata planned
    rw [planned]
    simp only [Option.map_some, Option.getD_some]
    refine ⟨?_, fun task => ?_⟩
    · have htarget : 0 ≤ if (newTransaction env args txnType metadata).targetAccount =
          some (systemAccountId .issuancePool) then
          (newTransaction env args txnType metadata).amount else 0 := by
        split
        · exact hamount.le
        · exact le_refl 0
      have hsource : (if (newTransaction env args txnType metadata).sourceAccount =
          some (systemAccountId .issuancePool) then
          (newTransaction env args txnType metadata).amount else 0) =
            drawnFromPool (.create args txnType metadata) := rfl
      rw [creditBalance_of_rows rows rfl, hsource]
      omega
    · rw [taskLockedSum_of_rows rows rfl, drawnFromBudget]
      rcases lockedChange_cases (show 0 < (newTransaction env args txnType metadata).amount from
        hamount) task with hle | ⟨hsource, hrelated, heq⟩
      · split <;> omega
      · have hdraw : args.sourceAccount = some (systemAccountId .taskLocked) ∧
            args.relatedTask = some task := ⟨hsource, hrelated⟩
        rw [heq, if_pos hdraw]
        exact le_refl _

/-- What a running transaction may draw. -/
structure Sound (t : RunningCall) : Prop where
  positive : ∀ args txnType metadata, t.plan.posting = some (.create args txnType metadata) →
    0 < args.amount
  locked : poolDraw t ≠ 0 → .account .issuancePool ∈ t.call.2.locks

/-- What holds between moves: the pool covers each running transaction, and the budget of a task all
of those that draw on it. -/
structure BudgetInv (w : BudgetWorld ctx) : Prop where
  accounts : AccountsOk ctx w.committed.credit.accounts
  exclusive : (budgets ctx).Exclusive w.running
  sound : ∀ t ∈ w.running, Sound t
  pool : 0 ≤ poolBalance w.committed
  covered : ∀ t ∈ w.running, poolDraw t ≤ poolBalance w.committed
  reserved : ∀ task, Split.reserved (budgetDraw task) w.running ≤ lockedBudget w.committed task

theorem Sound.budgetDraw_nonneg {t : RunningCall} (h : Sound t) (task : String) :
    0 ≤ budgetDraw task t := by
  unfold budgetDraw
  match hposting : t.plan.posting with
  | none => exact le_refl 0
  | some (.existing _) => exact le_refl 0
  | some (.create args txnType metadata) =>
    have hpos := h.positive args txnType metadata hposting
    simp only [Option.map_some, Option.getD_some, drawnFromBudget]
    split <;> omega

section

variable {w w' : BudgetWorld ctx} {m : Move (ReviewEnv × BudgetCall)}

/-- What a transaction that starts plans to draw. -/
theorem start_draws (hacc : AccountsOk ctx w.committed.credit.accounts)
    {c : ReviewEnv × BudgetCall} {plan : BudgetPlan} (hplan : budgetReads w.committed c = .ok plan)
    (hpool : 0 ≤ poolBalance w.committed) :
    Sound ⟨c, plan⟩ ∧ poolDraw ⟨c, plan⟩ ≤ poolBalance w.committed ∧
      ∀ task, budgetDraw task ⟨c, plan⟩ = 0 ∨
        demand w.committed c.2 = some (task, budgetDraw task ⟨c, plan⟩) ∧
          budgetDraw task ⟨c, plan⟩ ≤ lockedBudget w.committed task := by
  have hreads : ∀ args txnType metadata, plan.posting = some (.create args txnType metadata) →
      0 < args.amount ∧ Planned w.committed c args :=
    fun _ _ _ hposting => budgetReads_ok hacc hplan hposting
  unfold poolDraw budgetDraw
  simp only
  match hposting : plan.posting with
  | none =>
    refine ⟨⟨?_, ?_⟩, hpool, fun _ => .inl rfl⟩
    · intro args txnType metadata heq
      cases hposting.symm.trans heq
    · simp [poolDraw, hposting]
  | some (.existing txn) =>
    refine ⟨⟨?_, ?_⟩, hpool, fun _ => .inl rfl⟩
    · intro args txnType metadata heq
      cases hposting.symm.trans heq
    · simp [poolDraw, hposting, drawnFromPool]
  | some (.create args txnType metadata) =>
    obtain ⟨hpos, hplanned⟩ := hreads args txnType metadata hposting
    have hsound : ∀ args' txnType' metadata',
        plan.posting = some (.create args' txnType' metadata') → 0 < args'.amount := by
      intro args' txnType' metadata' heq
      exact (hreads args' txnType' metadata' heq).1
    simp only [Option.map_some, Option.getD_some, drawnFromPool, drawnFromBudget]
    cases hplanned with
    | fromPool locks source covered =>
      refine ⟨⟨hsound, fun _ => locks⟩, ?_, fun task => .inl ?_⟩
      · rw [if_pos source]
        exact covered
      · rw [if_neg]
        rintro ⟨hsource, -⟩
        rw [source] at hsource
        revert hsource
        decide
    | fromBudget task source related demand covered =>
      have hnot : args.sourceAccount ≠ some (systemAccountId .issuancePool) := by
        rw [source]
        decide
      refine ⟨⟨hsound, ?_⟩, ?_, fun task' => ?_⟩
      · intro hdraw
        exact absurd (by simp [poolDraw, hposting, drawnFromPool, hnot]) hdraw
      · rw [if_neg hnot]
        exact hpool
      · by_cases htask : task' = task
        · subst htask
          rw [if_pos ⟨source, related⟩]
          exact .inr ⟨demand, covered⟩
        · rw [if_neg]
          · exact .inl rfl
          · rintro ⟨-, hrelated⟩
            exact htask (Option.some.inj (hrelated.symm.trans related))

theorem BudgetInv.step (h : BudgetInv w) (hfits : Fits w m)
    (hstep : (budgets ctx).step w m = .ok w') : BudgetInv w' := by
  have hexclusive := h.exclusive.step (budgets ctx) hstep
  cases Split.step_moved (budgets ctx) hstep with
  | start c plan hfree hreads =>
    obtain ⟨hsound, hcovered, hdraws⟩ := start_draws h.accounts hreads h.pool
    refine ⟨h.accounts, hexclusive, ?_, h.pool, ?_, fun task => ?_⟩
    · intro t ht
      rcases List.mem_append.1 ht with ht | ht
      · exact h.sound t ht
      · rw [List.mem_singleton.1 ht]
        exact hsound
    · intro t ht
      rcases List.mem_append.1 ht with ht | ht
      · exact h.covered t ht
      · rw [List.mem_singleton.1 ht]
        exact hcovered
    · have hbefore := h.reserved task
      rw [Split.reserved_append]
      have hone : Split.reserved (budgetDraw task) [⟨c, plan⟩] = budgetDraw task ⟨c, plan⟩ := by
        simp [Split.reserved]
      rw [hone]
      rcases hdraws task with hzero | ⟨hdemand, hle⟩
      · rw [hzero, add_zero]
        exact hbefore
      · have hfit := hfits hfree (task, budgetDraw task ⟨c, plan⟩) (Option.mem_def.2 hdemand)
        exact hfit hle
  | commit place t rest s hperm hsub hwrites =>
    have ht : t ∈ w.running := hperm.mem_iff.2 List.mem_cons_self
    have hrest : ∀ u ∈ rest, u ∈ w.running := fun u hu => hsub.subset hu
    obtain ⟨haccounts, hwrote⟩ := budgetWrites_ok h.accounts hwrites
    obtain ⟨hpool, hbudgets⟩ := hwrote.balances (h.sound t ht).positive
    have hcovered : poolDraw t ≤ poolBalance w.committed := h.covered t ht
    have hpool : poolBalance w.committed - poolDraw t ≤ poolBalance s := hpool
    refine ⟨haccounts, hexclusive, fun u hu => h.sound u (hrest u hu), ?_, ?_, fun task => ?_⟩
    · show 0 ≤ poolBalance s
      omega
    · intro u hu
      -- two transactions that both draw on the pool would both hold its row
      by_cases hdraw : poolDraw u = 0
      · show poolDraw u ≤ poolBalance s
        omega
      · have hnone : poolDraw t = 0 := by
          by_contra hdraw'
          exact h.exclusive.of_perm (budgets ctx) hperm u hu
            ⟨_, (h.sound t ht).locked hdraw', (h.sound u (hrest u hu)).locked hdraw⟩
        have hle := h.covered u (hrest u hu)
        show poolDraw u ≤ poolBalance s
        omega
    · have hbefore := h.reserved task
      rw [Split.reserved_perm hperm] at hbefore
      have hafter : lockedBudget w.committed task - budgetDraw task t ≤ lockedBudget s task :=
        hbudgets task
      show Split.reserved (budgetDraw task) rest ≤ lockedBudget s task
      omega
  | finish m t rest hperm hsub =>
    have ht : t ∈ w.running := hperm.mem_iff.2 List.mem_cons_self
    refine ⟨h.accounts, hexclusive, fun u hu => h.sound u (hsub.subset hu), h.pool,
      fun u hu => h.covered u (hsub.subset hu), fun task => ?_⟩
    have hbefore := h.reserved task
    rw [Split.reserved_perm hperm] at hbefore
    have hdraw := (h.sound t ht).budgetDraw_nonneg task
    show Split.reserved (budgetDraw task) rest ≤ lockedBudget w.committed task
    omega

/-! ## Runs -/

theorem BudgetInv.budgetsCovered (h : BudgetInv w) : BudgetsCovered w.committed.credit := by
  refine ⟨⟨_, findPool_eq h.accounts (by decide), h.pool⟩, fun task => ?_⟩
  rw [taskLockedCreditBalance, pool_eq h.accounts (by decide)]
  exact ⟨_, rfl, (Split.reserved_nonneg fun t ht =>
    (h.sound t ht).budgetDraw_nonneg task).trans (h.reserved task)⟩

theorem BudgetsCovered.inv {s : BudgetState ctx} (hacc : AccountsOk ctx s.credit.accounts)
    (h : BudgetsCovered s.credit) : BudgetInv ⟨s, []⟩ := by
  obtain ⟨⟨account, hfind, hpool⟩, hlocked⟩ := h
  obtain rfl := Option.some.inj ((findPool_eq hacc (by decide)).symm.trans hfind)
  refine ⟨hacc, List.Pairwise.nil, fun t ht => absurd ht List.not_mem_nil, hpool,
    fun t ht => absurd ht List.not_mem_nil, fun task => ?_⟩
  obtain ⟨balance, hbalance, hle⟩ := hlocked task
  rw [taskLockedCreditBalance, pool_eq hacc (by decide)] at hbalance
  obtain rfl := Except.ok.inj hbalance
  exact hle

end

/-- **Budgets under interleaving.** From a database whose budgets are covered, any run of locks,
unlocks and accepting reviews keeps them covered, as long as every one that starts fits beside the
running ones. -/
theorem budgetRun_covered {s : BudgetState ctx} (hacc : AccountsOk ctx s.credit.accounts)
    (h : BudgetsCovered s.credit) {moves : List (Move (ReviewEnv × BudgetCall))}
    (hmoves : EachCall (budgets ctx).step Fits ⟨s, []⟩ moves) :
    BudgetsCovered (budgetRun s moves).committed.credit :=
  (hmoves.invariant (fun _ _ _ h hfits hstep => h.step hfits hstep)
    (h.inv hacc)).budgetsCovered

/-- The ledger that budgeted calls one after the other leave behind. -/
theorem creditRun_covered (ctx : Context) (cs : List (CallEnv × CreditCall))
    (hcs : ∀ c ∈ cs, Budgeted c.2) : AccountsOk ctx (creditRun ctx cs).accounts ∧
      BudgetsCovered (creditRun ctx cs) := by
  have heach : EachCall creditStep (fun _ c => Budgeted c.2) (initialState ctx) cs :=
    EachCall.of_forall _ fun c hc _ => hcs c hc
  obtain ⟨hacc, hinv⟩ := creditRun_invariant (fun accounts _ => balanceInv_fresh accounts)
    (fun s env c s' hacc h hc he => h.step hacc hc he) heach
  refine ⟨hacc, ⟨_, findPool_eq hacc (by decide), hinv.poolNonneg⟩, fun task => ?_⟩
  rw [taskLockedCreditBalance, pool_eq hacc (by decide)]
  exact ⟨_, rfl, hinv.lockedNonneg task⟩

/-! ## Two unlocks of one budget -/

def budgetEnv (n : Nat) : ReviewEnv where
  call := strokeEnv n
  directory := ⟨Table.empty, Table.empty, Table.empty, Table.empty, [], Table.empty, Table.empty⟩
  simulationDay := fun _ => .ok 1

/-- A task whose locked budget is 5. -/
def fiveLocked : BudgetState strokeContext where
  credit := creditRun strokeContext [(strokeEnv 1, .issue 5 "" 0 0 none),
    (strokeEnv 2, .lock "t" 5 "" none none)]
  tasks := Table.empty
  entries := Table.empty
  publicEvents := Table.empty

/-- Two unlocks that both read the budget before either of them commits. -/
def twoUnlocks (first second : Int) : List (Move (ReviewEnv × BudgetCall)) :=
  [.start (budgetEnv 3, .unlock "t" first "" none none),
    .start (budgetEnv 4, .unlock "t" second "" none none), .commit 0, .commit 0]

theorem fiveLocked_covered : AccountsOk strokeContext fiveLocked.credit.accounts ∧
    BudgetsCovered fiveLocked.credit :=
  creditRun_covered strokeContext _ (by simp [Budgeted])

theorem budgetRun_covered_fitting :
    BudgetsCovered (budgetRun fiveLocked (twoUnlocks 2 3)).committed.credit :=
  budgetRun_covered fiveLocked_covered.1 fiveLocked_covered.2 (by decide +kernel)

/-- Each unlock alone is within the budget; both together return it twice. -/
theorem twoUnlocks_overdraw : BudgetsCovered fiveLocked.credit ∧
    ¬ BudgetsCovered (budgetRun fiveLocked (twoUnlocks 5 5)).committed.credit := by
  refine ⟨fiveLocked_covered.2, fun h => ?_⟩
  obtain ⟨balance, hbalance, hle⟩ := h.locked "t"
  have hdrawn : (taskLockedCreditBalance
      (budgetRun fiveLocked (twoUnlocks 5 5)).committed.credit "t").toOption = some (-5) := by
    decide +kernel
  rw [hbalance] at hdrawn
  obtain rfl := Option.some.inj hdrawn
  exact absurd hle (by decide)

end LiveOs.Tasks
