import LiveOs.Credit.Services
import LiveOs.Credit.Verify.Posting

/-!
# What the posting services do

Each successful call returns a row with its type, amount and endpoints: one that carries the key of
the call already, or a new one, written after the check on the account it is drawn from.
-/

namespace LiveOs.Credit

open Lib EventLedger

variable {ctx : Context} {env : CallEnv} {s s' : CreditState ctx} {txn : CreditTransaction}

theorem findPostedOfType_mem {key : Option String} {txnType : TxnType} {t : CreditTransaction}
    (h : findPostedOfType s key txnType = some t) :
    t ∈ s.transactions.rows ∧ t.status = .posted ∧ t.transactionType = txnType ∧
      ∃ k, key = some k ∧ t.idempotencyKey = some k := by
  unfold findPostedOfType at h
  cases key with
  | none => cases h
  | some k =>
    obtain ⟨hmem, hp⟩ := Table.mem_of_first? h
    simp only [Bool.and_eq_true, decide_eq_true_eq] at hp
    exact ⟨hmem, hp.2, hp.1.2, k, rfl, hp.1.1⟩

/-- The lookup of a wrapper, when the fields it compares fix the row. -/
theorem Reused.of_lookup (hacc : AccountsOf ctx s.accounts) {key : Option String}
    {txnType : TxnType} (h : findPostedOfType s key txnType = some txn) : Reused s s key txn := by
  obtain ⟨hmem, hposted, -, hkey⟩ := findPostedOfType_mem h
  exact ⟨Grown.refl hacc, hmem, hposted, hkey⟩

variable {key : Option String} {amount : Int} {task reason : String} {initiatedBy : Option Nat}

theorem issueCreditsToPool_ok {initiator reviewer : Nat} (hacc : AccountsOk ctx s.accounts)
    (h : issueCreditsToPool env s amount reason initiator reviewer key = .ok (s', txn)) :
    (0 < amount ∧ txn.relatedTask = none ∧ txn.relatedLedgerEntry = none) ∧
      RowIs txn .issuance amount none (some (systemAccountId .issuancePool)) ∧
      (Reused s s' (normaliseIdemKey key) txn ∨
        Created s s' (normaliseIdemKey key) txn) := by
  unfold issueCreditsToPool at h
  rw [pool_eq hacc (by decide), ok_bind] at h
  obtain ⟨hpos, hrow, htask, hentry, hpost⟩ :=
    postCreditTransaction_ok hacc.known (TxnType.ofValue?_value .issuance) h
  exact ⟨⟨hpos, htask, hentry⟩, hrow, hpost.imp_right And.left⟩

theorem lockTaskCreditBudget_ok (hacc : AccountsOk ctx s.accounts)
    (h : lockTaskCreditBudget env s task amount reason initiatedBy key = .ok (s', txn)) :
    RowIs txn .lock amount (some (systemAccountId .issuancePool))
        (some (systemAccountId .taskLocked)) ∧ txn.relatedTask = some task ∧
      (Reused s s' (normaliseIdemKey key) txn ∨ Created s s' (normaliseIdemKey key) txn ∧
        amount ≤ creditBalance s (systemAccountId .issuancePool)) := by
  unfold lockTaskCreditBudget at h
  rw [findPool_eq hacc (by decide), findPool_eq hacc (by decide)] at h
  simp only at h
  split at h
  · rename_i existing hfind
    obtain ⟨_, hmatch, h⟩ := bind_eq_ok.1 h
    obtain ⟨rfl, rfl⟩ := Prod.mk.inj (pure_eq_ok.1 h)
    have hfields := assertIdempotentMatch_ok hmatch
    simp only [List.forall_mem_cons, decide_eq_true_eq] at hfields
    obtain ⟨hty, hamount, hsource, htarget, htask, -⟩ := hfields
    exact ⟨⟨hty, hamount, hsource, htarget⟩, htask, .inl (Reused.of_lookup hacc.known hfind)⟩
  · obtain ⟨hbalance, h⟩ := rejectIf_bind_eq_ok.1 h
    obtain ⟨-, hrow, htask, -, hpost⟩ :=
      postCreditTransaction_ok hacc.known (TxnType.ofValue?_value .lock) h
    rw [normaliseIdemKey_normaliseIdemKey] at hpost
    exact ⟨hrow, htask, hpost.imp_right fun hc => ⟨hc.1, not_lt.1 hbalance⟩⟩

theorem unlockUnusedTaskCreditBudget_ok (hacc : AccountsOk ctx s.accounts)
    (h : unlockUnusedTaskCreditBudget env s task amount reason initiatedBy key = .ok (s', txn)) :
    RowIs txn .unlock amount (some (systemAccountId .taskLocked))
        (some (systemAccountId .issuancePool)) ∧ txn.relatedTask = some task ∧
      (Reused s s' (normaliseIdemKey key) txn ∨ Created s s' (normaliseIdemKey key) txn ∧
        amount ≤ taskLockedSum s (systemAccountId .taskLocked) task) := by
  unfold unlockUnusedTaskCreditBudget at h
  rw [pool_eq hacc (by decide), pool_eq hacc (by decide), ok_bind, ok_bind] at h
  split at h
  · rename_i existing hfind
    obtain ⟨_, hmatch, h⟩ := bind_eq_ok.1 h
    obtain ⟨rfl, rfl⟩ := Prod.mk.inj (pure_eq_ok.1 h)
    have hfields := assertIdempotentMatch_ok hmatch
    simp only [List.forall_mem_cons, decide_eq_true_eq] at hfields
    obtain ⟨hty, hamount, hsource, htarget, htask, -⟩ := hfields
    exact ⟨⟨hty, hamount, hsource, htarget⟩, htask, .inl (Reused.of_lookup hacc.known hfind)⟩
  · rw [taskLockedCreditBalance, pool_eq hacc (by decide), ok_bind] at h
    obtain ⟨hguard, h⟩ := rejectIf_bind_eq_ok.1 h
    obtain ⟨-, hrow, htask, -, hpost⟩ :=
      postCreditTransaction_ok hacc.known (TxnType.ofValue?_value .unlock) h
    rw [normaliseIdemKey_normaliseIdemKey] at hpost
    have hle : amount ≤ taskLockedSum s (systemAccountId .taskLocked) task :=
      not_lt.1 fun hlt => hguard (.inr hlt)
    exact ⟨hrow, htask, hpost.imp_right fun hc => ⟨hc.1, hle⟩⟩

theorem transferMemberCredits_ok {fromMember toMember : Nat} (hacc : AccountsOk ctx s.accounts)
    (h : transferMemberCredits env s fromMember toMember amount reason initiatedBy key =
      .ok (s', txn)) :
    (0 < amount ∧ fromMember ≠ toMember) ∧
      RowIs txn .transfer amount (some (memberAccountId ctx fromMember))
        (some (memberAccountId ctx toMember)) ∧
      (Reused s s' (normaliseIdemKey key) txn ∨ Created s s' (normaliseIdemKey key) txn) ∧
      memberAccount ctx fromMember ∈ s'.accounts.rows ∧
      memberAccount ctx toMember ∈ s'.accounts.rows := by
  obtain ⟨hpos, h⟩ := rejectIf_bind_eq_ok.1 h
  obtain ⟨hne, h⟩ := rejectIf_bind_eq_ok.1 h
  have hargs : 0 < amount ∧ fromMember ≠ toMember := ⟨not_le.1 hpos, hne⟩
  obtain ⟨⟨s₁, fromAccount⟩, hfrom, h⟩ := bind_eq_ok.1 h
  obtain ⟨rfl, hg₁, hmem₁⟩ := getOrCreateMember_inv hacc.known hfrom
  obtain ⟨⟨s₂, toAccount⟩, hto, h⟩ := bind_eq_ok.1 h
  obtain ⟨rfl, hg₂, hmem₂⟩ := getOrCreateMember_inv hg₁.accounts.known hto
  have hg : Grown s s₂ := hg₁.trans hg₂
  have hmem₁ := hg₂.accounts.subset _ hmem₁
  simp only at h
  split at h
  · rename_i existing hfind
    obtain ⟨_, hmatch, h⟩ := bind_eq_ok.1 h
    obtain ⟨rfl, rfl⟩ := Prod.mk.inj (pure_eq_ok.1 h)
    have hfields := assertIdempotentMatch_ok hmatch
    simp only [List.forall_mem_cons, decide_eq_true_eq] at hfields
    obtain ⟨hty, hamount, hsource, htarget, -⟩ := hfields
    exact ⟨hargs, ⟨hty, hamount, hsource, htarget⟩,
      .inl ((Reused.of_lookup hg.accounts.known hfind).after hg), hmem₁, hmem₂⟩
  · obtain ⟨-, h⟩ := rejectIf_bind_eq_ok.1 h
    obtain ⟨-, h⟩ := rejectIf_bind_eq_ok.1 h
    obtain ⟨-, hrow, -, -, hpost⟩ :=
      postCreditTransaction_ok hg.accounts.known (TxnType.ofValue?_value .transfer) h
    refine ⟨hargs, hrow, hpost.imp (fun hr => hr.after hg) (fun hc => hc.1.after hg), ?_⟩
    rcases hpost with hr | ⟨hc, -⟩
    · exact ⟨hr.grown.accounts.subset _ hmem₁, hr.grown.accounts.subset _ hmem₂⟩
    · exact ⟨hc.accounts.subset _ hmem₁, hc.accounts.subset _ hmem₂⟩

theorem passiveDeductMemberCredits_ok {member : Nat} (hacc : AccountsOk ctx s.accounts)
    (h : passiveDeductMemberCredits env s member amount reason initiatedBy key = .ok (s', txn)) :
    (0 < amount ∧ txn.relatedTask = none ∧ txn.relatedLedgerEntry = none) ∧
      RowIs txn .correction amount (some (memberAccountId ctx member))
        (some (systemAccountId .burn)) ∧
      (Reused s s' (normaliseIdemKey key) txn ∨ Created s s' (normaliseIdemKey key) txn) ∧
      memberAccount ctx member ∈ s'.accounts.rows := by
  obtain ⟨-, h⟩ := rejectIf_bind_eq_ok.1 h
  obtain ⟨⟨s₁, account⟩, hmember, h⟩ := bind_eq_ok.1 h
  obtain ⟨rfl, hg, hmem⟩ := getOrCreateMember_inv hacc.known hmember
  simp only [pool_eq (hacc.grow hg.accounts) (show AccountType.burn ≠ .member by decide),
    ok_bind] at h
  obtain ⟨hpos, hrow, htask, hentry, hpost⟩ :=
    postCreditTransaction_ok hg.accounts.known (TxnType.ofValue?_value .correction) h
  refine ⟨⟨hpos, htask, hentry⟩, hrow, hpost.imp (fun hr => hr.after hg) (fun hc => hc.1.after hg), ?_⟩
  exact hpost.elim (fun hr => hr.grown.accounts.subset _ hmem) fun hc => hc.1.accounts.subset _ hmem

/-- The account a reward is drawn from. -/
def rewardSource (allowUnbudgetedGenesis : Bool) : AccountType :=
  if allowUnbudgetedGenesis then .issuancePool else .taskLocked

theorem postTaskRewardCreditTransaction_ok {member : Nat} {entry : LedgerEntryRef}
    {reviewer : Option Nat} {genesis : Bool} (hacc : AccountsOk ctx s.accounts)
    (h : postTaskRewardCreditTransaction env s task member amount entry reviewer reason genesis =
      .ok (s', txn)) :
    RowIs txn .taskReward amount (some (systemAccountId (rewardSource genesis)))
        (some (memberAccountId ctx member)) ∧ txn.relatedTask = some task ∧
      ((∃ key, Reused s s' key txn) ∨ Created s s' txn.idempotencyKey txn ∧
        (genesis = false → amount ≤ taskLockedSum s (systemAccountId .taskLocked) task)) ∧
      memberAccount ctx member ∈ s'.accounts.rows := by
  obtain ⟨⟨s₁, account⟩, hmember, h⟩ := bind_eq_ok.1 h
  obtain ⟨rfl, hg, hmem⟩ := getOrCreateMember_inv hacc.known hmember
  have hacc₁ := hacc.grow hg.accounts
  have hsource : (if genesis then pool s₁ .issuancePool else pool s₁ .taskLocked) =
      .ok (systemAccount (rewardSource genesis)) := by
    cases genesis
    · exact pool_eq hacc₁ (by decide)
    · exact pool_eq hacc₁ (by decide)
  obtain ⟨source, hsource', h⟩ := bind_eq_ok.1 h
  obtain rfl := Except.ok.inj (hsource.symm.trans hsource')
  obtain ⟨issuancePool, -, h⟩ := bind_eq_ok.1 h
  split at h
  · rename_i existing hfind
    obtain ⟨_, hmatch, h⟩ := bind_eq_ok.1 h
    obtain ⟨_, -, h⟩ := bind_eq_ok.1 h
    obtain ⟨-, h⟩ := rejectIf_bind_eq_ok.1 h
    obtain ⟨rfl, rfl⟩ := Prod.mk.inj (pure_eq_ok.1 h)
    have hfields := assertIdempotentMatch_ok hmatch
    simp only [List.forall_mem_cons, decide_eq_true_eq] at hfields
    obtain ⟨hty, hamount, hsource, htarget, htask, -⟩ := hfields
    exact ⟨⟨hty, hamount, hsource, htarget⟩, htask,
      .inl ⟨_, (Reused.of_lookup hg.accounts.known hfind).after hg⟩, hmem⟩
  · obtain ⟨metadata, hbudget, h⟩ := bind_eq_ok.1 h
    have hle : genesis = false → amount ≤ taskLockedSum s (systemAccountId .taskLocked) task := by
      rintro rfl
      simp only [Bool.false_eq_true, if_false, taskLockedCreditBalance, ok_bind,
        pool_eq hacc₁ (show AccountType.taskLocked ≠ .member by decide)] at hbudget
      have hle := not_lt.1 (rejectIf_bind_eq_ok.1 hbudget).1
      rwa [taskLockedSum, postedSum, postedSum, postedSum, hg.transactions] at hle
    obtain ⟨-, hrow, htask, -, hpost⟩ :=
      postCreditTransaction_ok hg.accounts.known (TxnType.ofValue?_value .taskReward) h
    refine ⟨hrow, htask, hpost.imp (fun hr => ⟨_, hr.after hg⟩) (fun hc => ⟨?_, hle⟩), ?_⟩
    · rw [hc.1.carries]
      exact hc.1.after hg
    · exact hpost.elim (fun hr => hr.grown.accounts.subset _ hmem)
        fun hc => hc.1.accounts.subset _ hmem

/-- A reversal mirrors an original that no posted row reverses yet, and is then linked to it. -/
theorem reverseCreditTransaction_ok {originalId : String} (hacc : AccountsOk ctx s.accounts)
    (h : reverseCreditTransaction env s originalId reason initiatedBy key = .ok (s', txn)) :
    ∃ original ∈ s.transactions.rows, original.transactionId = originalId ∧
      (∀ t ∈ s.transactions.rows, t.status = .posted → t.reversesTransaction ≠ some originalId) ∧
      ∃ s₁ reversal, s' = linkReversal s₁ reversal.transactionId originalId ∧
        txn = { reversal with reversesTransaction := some originalId } ∧
        RowIs reversal .reversal original.amount original.targetAccount original.sourceAccount ∧
        (Reused s s₁ (normaliseIdemKey key) reversal ∨
          Created s s₁ (normaliseIdemKey key) reversal) := by
  unfold reverseCreditTransaction at h
  split at h
  · cases h
  · rename_i original hget
    obtain ⟨hmem, rfl⟩ := Table.get?_eq_some.1 hget
    obtain ⟨hfresh, h⟩ := rejectIf_bind_eq_ok.1 h
    obtain ⟨⟨s₁, reversal⟩, hpost, h⟩ := bind_eq_ok.1 h
    obtain ⟨rfl, rfl⟩ := Prod.mk.inj (pure_eq_ok.1 h)
    obtain ⟨-, hrow, -, -, hpost⟩ :=
      postCreditTransaction_ok hacc.known (TxnType.ofValue?_value .reversal) hpost
    refine ⟨original, hmem, rfl, ?_, s₁, reversal, rfl, rfl, hrow, hpost.imp_right And.left⟩
    intro t ht hposted hlink
    exact hfresh ⟨t, ht, hlink, hposted⟩

end LiveOs.Credit
