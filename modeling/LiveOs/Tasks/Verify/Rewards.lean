import LiveOs.Tasks.Verify.Services

/-!
# One reward for a task

The reward of a task is recorded twice, in the point ledger and among the credit transactions. Both
rows are written by the one call that accepts the task, and an accepted task is never saved again,
so each ledger has one row for every task that was accepted with points, and none for any other.
-/

namespace LiveOs.Tasks

open Lib EventLedger Roles Credit

variable {ctx : Context} {s s' : BudgetState ctx} {row : TaskRow}

/-! ## The invariant -/

/-- Both ledgers have the rows of the tasks that were accepted with points, and no others. -/
structure Booked (s : BudgetState ctx) : Prop where
  accounts : AccountsOf ctx s.credit.accounts
  points : ∀ r ∈ s.tasks.rows, 0 ≤ r.basePoints
  entry : ∀ e ∈ s.entries.rows, ∃ r ∈ s.tasks.rows, Earning r ∧ EntryFor r e
  reward : ∀ t ∈ s.credit.transactions.rows, t.transactionType = .taskReward →
    ∃ r ∈ s.tasks.rows, Earning r ∧ RewardFor s.credit.accounts r t
  unique : ∀ task, ∀ t ∈ s.credit.transactions.rows, ∀ u ∈ s.credit.transactions.rows,
    IsReward task t → IsReward task u → t = u
  recorded : ∀ r ∈ s.tasks.rows, Earning r → (∃ e ∈ s.entries.rows, EntryFor r e) ∧
    ∃ t ∈ s.credit.transactions.rows, RewardFor s.credit.accounts r t

/-- A database with accounts, but without tasks, points and rewards. -/
structure Unrewarded (s : BudgetState ctx) : Prop where
  accounts : AccountsOf ctx s.credit.accounts
  tasks : s.tasks.rows = []
  entries : s.entries.rows = []
  rewards : ∀ t ∈ s.credit.transactions.rows, t.transactionType ≠ .taskReward

theorem Unrewarded.booked (h : Unrewarded s) : Booked s where
  accounts := h.accounts
  points r hr := by rw [h.tasks] at hr; cases hr
  entry e he := by rw [h.entries] at he; cases he
  reward t ht hty := absurd hty (h.rewards t ht)
  unique task t ht u hu hreward := absurd hreward.1 (h.rewards t ht)
  recorded r hr := by rw [h.tasks] at hr; cases hr

theorem RewardFor.grow {accounts accounts' : AccountTable} {t : CreditTransaction}
    (h : RewardFor accounts row t) (hg : ∀ a ∈ accounts.rows, a ∈ accounts'.rows) :
    RewardFor accounts' row t := by
  obtain ⟨account, hmem, htarget, hsome, hmember⟩ := h.account
  exact ⟨h.reward, h.amount, account, hg account hmem, htarget, hsome, hmember⟩

/-- A task that waits for its review has no reward. -/
theorem Booked.unrewarded (h : Booked s) : ∀ r ∈ s.tasks.rows, r.task.status = .pendingReview →
    ∀ t ∈ s.credit.transactions.rows, ¬ IsReward r.task.taskId t := by
  intro r hr hpending t ht hreward
  obtain ⟨r', hr', hearning, hfor⟩ := h.reward t ht hreward.1
  have hid : r'.task.taskId = r.task.taskId :=
    Option.some.inj (hfor.reward.2.symm.trans hreward.2)
  obtain rfl := s.tasks.eq_of_pk hr' hr hid
  rw [hearning.1] at hpending
  cases hpending

/-- An accepted row stays as it is. -/
theorem Kept.accepted (h : Kept s s') (hr : row ∈ s.tasks.rows) (hstatus : row.task.status = .accepted) :
    row ∈ s'.tasks.rows := by
  obtain ⟨r', hr', hlater⟩ := h row hr
  obtain rfl := hlater.final (by rw [hstatus]; rfl)
  exact hr'

/-- A call that writes no reward, and accepts no task with points. -/
theorem Booked.unpaid (hb : Booked s) (hentries : s'.entries = s.entries)
    (hcredit : Unrewarding s.credit s'.credit) (hkept : Kept s s')
    (hearning : ∀ r ∈ s'.tasks.rows, Earning r → r ∈ s.tasks.rows)
    (hpoints : ∀ r ∈ s'.tasks.rows, 0 ≤ r.basePoints) : Booked s' := by
  obtain ⟨new, hnew, hty⟩ := hcredit.rows
  -- a reward among the rows is an old one
  have hold : ∀ t ∈ s'.credit.transactions.rows, t.transactionType = .taskReward →
      t ∈ s.credit.transactions.rows := by
    intro t ht hreward
    rw [hnew] at ht
    exact (List.mem_append.1 ht).resolve_right fun hmem => hty t hmem hreward
  refine ⟨hcredit.accounts.known, hpoints, fun e he => ?_, fun t ht hreward => ?_,
    fun task t ht u hu hr hr' => hb.unique task t (hold t ht hr.1) u (hold u hu hr'.1) hr hr',
    fun r hr hearned => ?_⟩
  · rw [hentries] at he
    obtain ⟨r, hr, hearned, hfor⟩ := hb.entry e he
    exact ⟨r, hkept.accepted hr hearned.1, hearned, hfor⟩
  · obtain ⟨r, hr, hearned, hfor⟩ := hb.reward t (hold t ht hreward) hreward
    exact ⟨r, hkept.accepted hr hearned.1, hearned, hfor.grow hcredit.accounts.subset⟩
  · obtain ⟨⟨e, he, hentry⟩, t, ht, hfor⟩ := hb.recorded r (hearning r hr hearned) hearned
    refine ⟨⟨e, by rw [hentries]; exact he, hentry⟩, t, ?_, hfor.grow hcredit.accounts.subset⟩
    rw [hnew]
    exact List.mem_append_left _ ht

/-- Both rows of a reward are written together, for a task that had none. -/
theorem Booked.settled (hb : Booked s) (hsettled : Settled s s' row) (hkept : Kept s s')
    (hmem : row ∈ s'.tasks.rows) (hearned : Earning row)
    (hnone : ∀ t ∈ s.credit.transactions.rows, ¬ IsReward row.task.taskId t)
    (horigin : ∀ r ∈ s'.tasks.rows, r ∈ s.tasks.rows ∨ r = row)
    (hpoints : ∀ r ∈ s'.tasks.rows, 0 ≤ r.basePoints) : Booked s' := by
  obtain ⟨e₀, hentries, hentry⟩ := hsettled.entry
  obtain ⟨t₀, htransactions, hreward⟩ := hsettled.reward
  refine ⟨hsettled.accounts.known, hpoints, fun e he => ?_, fun t ht hty => ?_,
    fun task t ht u hu hr hr' => ?_, fun r hr hearning => ?_⟩
  · rw [hentries] at he
    rcases List.mem_append.1 he with hold | hnew
    · obtain ⟨r, hr, hearning, hfor⟩ := hb.entry e hold
      exact ⟨r, hkept.accepted hr hearning.1, hearning, hfor⟩
    · rw [List.mem_singleton.1 hnew]
      exact ⟨row, hmem, hearned, hentry⟩
  · rw [htransactions] at ht
    rcases List.mem_append.1 ht with hold | hnew
    · obtain ⟨r, hr, hearning, hfor⟩ := hb.reward t hold hty
      exact ⟨r, hkept.accepted hr hearning.1, hearning, hfor.grow hsettled.accounts.subset⟩
    · rw [List.mem_singleton.1 hnew]
      exact ⟨row, hmem, hearned, hreward⟩
  · -- the new reward is that of its task, which had none
    have hnew : ∀ v ∈ s.credit.transactions.rows, IsReward task v → ¬ IsReward task t₀ := by
      intro v hv hreward' hr₀
      obtain rfl : row.task.taskId = task := Option.some.inj (hreward.reward.2.symm.trans hr₀.2)
      exact hnone v hv hreward'
    rw [htransactions, List.mem_append, List.mem_singleton] at ht hu
    rcases ht with ht | rfl
    · rcases hu with hu | rfl
      · exact hb.unique task t ht u hu hr hr'
      · exact absurd hr' (hnew t ht hr)
    · rcases hu with hu | rfl
      · exact absurd hr (hnew u hu hr')
      · rfl
  · rcases horigin r hr with hold | rfl
    · obtain ⟨⟨e, he, hfor⟩, t, ht, hfor'⟩ := hb.recorded r hold hearning
      refine ⟨⟨e, ?_, hfor⟩, t, ?_, hfor'.grow hsettled.accounts.subset⟩
      · rw [hentries]
        exact List.mem_append_left _ he
      · rw [htransactions]
        exact List.mem_append_left _ ht
    · exact ⟨⟨e₀, by simp [hentries], hentry⟩, t₀, by simp [htransactions], hreward⟩

theorem TaskEffect.kept {accepts : Option String} (h : TaskEffect s s' accepts) : Kept s s' := by
  cases h with
  | quiet quiet => exact quiet.kept
  | accepted row metadata pending saved settled => exact saved.kept (by rw [pending]; rfl)

theorem TaskEffect.booked {accepts : Option String} (h : TaskEffect s s' accepts)
    (hb : Booked s) : Booked s' := by
  have hkept := h.kept
  cases h with
  | quiet quiet =>
    exact hb.unpaid quiet.entries quiet.credit hkept (fun r hr hearned => quiet.accepted r hr hearned.1)
      (quiet.points hb.points)
  | accepted row metadata pending saved settled =>
    have hpoints : ∀ r ∈ s'.tasks.rows, 0 ≤ r.basePoints := by
      intro r hr
      rcases saved.origin hr with hold | rfl
      · exact hb.points r hold
      · exact hb.points row saved.mem
    rcases settled with ⟨hzero, hentries, hcredit⟩ | ⟨hpaid, hsettled⟩
    · refine hb.unpaid hentries hcredit hkept (fun r hr hearned => ?_) hpoints
      refine (saved.origin hr).resolve_right ?_
      rintro rfl
      exact hearned.2 hzero
    · exact hb.settled hsettled hkept saved.new_mem ⟨rfl, hpaid⟩
        (hb.unrewarded row saved.mem pending) (fun r hr => saved.origin hr) hpoints

/-! ## Runs -/

theorem taskStep_booked {call : TaskEnv × TaskCall} (hb : Booked s) (h : taskStep s call = .ok s') :
    Booked s' :=
  (taskStep_effect hb.accounts hb.unrewarded h).booked hb

theorem taskRun_booked (hb : Booked s) (calls : List (TaskEnv × TaskCall)) :
    Booked (taskRun s calls) :=
  runCalls_invariant (fun _ _ _ hb h => taskStep_booked hb h) hb calls

theorem taskRun_kept (hb : Booked s) (calls : List (TaskEnv × TaskCall)) :
    Kept s (taskRun s calls) := by
  have hinv : ∀ (s : BudgetState ctx) c s', Booked s → True → taskStep s c = .ok s' → Booked s' :=
    fun _ _ _ hb _ h => taskStep_booked hb h
  have hstep : ∀ (s : BudgetState ctx) c s', Booked s → True → taskStep s c = .ok s' →
      Kept s s' := fun _ _ _ hb _ h => (taskStep_effect hb.accounts hb.unrewarded h).kept
  exact EachCall.rel Kept.refl (fun _ _ _ h h' => h.trans h') hinv hstep hb
    (EachCall.of_forall s fun _ _ _ => trivial)

/-- The run accepts the task of the row, as the row stands then. -/
def AcceptedIn (start : BudgetState ctx) (calls : List (TaskEnv × TaskCall)) (row : TaskRow) :
    Prop :=
  ∃ before call after s', calls = before ++ call :: after ∧
    taskStep (taskRun start before) call = .ok s' ∧
    call.2.accepts = some row.task.taskId ∧ row ∈ (taskRun start before).tasks.rows

/-- The accepted row of a task: its reward and its assignee are those of the acceptance. -/
structure AcceptedAs (row r : TaskRow) : Prop where
  id : r.task.taskId = row.task.taskId
  status : r.task.status = .accepted
  reward : rewardAmount r = rewardAmount row
  assignee : r.task.assigneeMember = row.task.assigneeMember

theorem AcceptedIn.append {start : BudgetState ctx} {calls : List (TaskEnv × TaskCall)}
    (h : AcceptedIn start calls row) (more : List (TaskEnv × TaskCall)) :
    AcceptedIn start (calls ++ more) row := by
  obtain ⟨before, call, after, s', rfl, hstep⟩ := h
  exact ⟨before, call, after ++ more, s', by simp, hstep⟩

/-- A task that was accepted is an accepted one at the end of the run. -/
theorem AcceptedIn.acceptedAs {start : BudgetState ctx} {calls : List (TaskEnv × TaskCall)}
    (hb : Booked start) (h : AcceptedIn start calls row) :
    ∃ r ∈ (taskRun start calls).tasks.rows, AcceptedAs row r ∧ 0 ≤ row.basePoints := by
  obtain ⟨before, call, after, s', rfl, hstep, haccepts, hrow⟩ := h
  have hb₁ := taskRun_booked hb before
  have heffect := taskStep_effect hb₁.accounts hb₁.unrewarded hstep
  have hrun : taskRun start (before ++ call :: after) = taskRun s' after := by
    have hafter : afterCall taskStep (runCalls taskStep start before) call = s' :=
      afterCall_ok hstep
    rw [taskRun, runCalls_append, runCalls_cons, hafter, taskRun]
  have hkept := taskRun_kept (heffect.booked hb₁) after
  rw [hrun]
  generalize call.2.accepts = accepts at heffect haccepts
  cases heffect with
  | quiet quiet => cases haccepts
  | accepted row' metadata pending saved settled =>
    obtain rfl := (taskRun start before).tasks.eq_of_pk saved.mem hrow (Option.some.inj haccepts)
    exact ⟨_, hkept.accepted saved.new_mem rfl, ⟨rfl, rfl, rfl, rfl⟩, hb₁.points _ hrow⟩

/-- An accepted task was accepted in the run, or before it. -/
theorem acceptedIn_of_status {start : BudgetState ctx} (hb : Booked start)
    (calls : List (TaskEnv × TaskCall)) {r : TaskRow} (hr : r ∈ (taskRun start calls).tasks.rows)
    (hstatus : r.task.status = .accepted) :
    r ∈ start.tasks.rows ∨ ∃ row, AcceptedIn start calls row ∧ AcceptedAs row r := by
  induction calls using List.reverseRecOn with
  | nil => exact .inl hr
  | append_singleton calls call ih =>
    have hrun : taskRun start (calls ++ [call]) = afterCall taskStep (taskRun start calls) call := by
      rw [taskRun, runCalls_append]
      rfl
    have hearlier : r ∈ (taskRun start calls).tasks.rows → r ∈ start.tasks.rows ∨
        ∃ row, AcceptedIn start (calls ++ [call]) row ∧ AcceptedAs row r := by
      intro hold
      rcases ih hold with hstart | ⟨row, haccepted, has⟩
      · exact .inl hstart
      · exact .inr ⟨row, haccepted.append [call], has⟩
    rw [hrun] at hr
    have hb₁ := taskRun_booked hb calls
    cases hstep : taskStep (taskRun start calls) call with
    | error e =>
      rw [afterCall_error hstep] at hr
      exact hearlier hr
    | ok s' =>
      rw [afterCall_ok hstep] at hr
      have heffect := taskStep_effect hb₁.accounts hb₁.unrewarded hstep
      have hcall : ∀ task, call.2.accepts = some task → ∀ row ∈ (taskRun start calls).tasks.rows,
          row.task.taskId = task → AcceptedIn start (calls ++ [call]) row := by
        rintro task haccepts row hrow rfl
        exact ⟨calls, call, [], s', rfl, hstep, haccepts, hrow⟩
      generalize call.2.accepts = accepts at heffect hcall
      cases heffect with
      | quiet quiet => exact hearlier (quiet.accepted r hr hstatus)
      | accepted row metadata pending saved settled =>
        rcases saved.origin hr with hold | rfl
        · exact hearlier hold
        · exact .inr ⟨row, hcall _ rfl row saved.mem rfl, rfl, rfl, rfl, rfl⟩

/-! ## The law -/

theorem mem_contributions {task : String} {e : EntryRow} :
    e ∈ contributions s task ↔ e ∈ s.entries.rows ∧ IsContribution task e := by
  simp [contributions]

theorem mem_rewards {task : String} {t : CreditTransaction} :
    t ∈ rewards s task ↔ t ∈ s.credit.transactions.rows ∧ IsReward task t := by
  simp [rewards]

/-- A list without repetitions whose members are all equal. -/
theorem length_le_one_of_nodup {α : Type} {xs : List α} (hnodup : xs.Nodup)
    (h : ∀ x ∈ xs, ∀ y ∈ xs, x = y) : xs.length ≤ 1 := by
  cases xs with
  | nil => exact Nat.zero_le 1
  | cons x xs =>
    cases xs with
    | nil => exact le_refl 1
    | cons y ys =>
      have heq := h x List.mem_cons_self y (List.mem_cons_of_mem _ List.mem_cons_self)
      exact absurd (heq ▸ List.mem_cons_self) (List.nodup_cons.1 hnodup).1

/-- The rows of one task in both ledgers, against the acceptances of the run. -/
structure OneReward (start : BudgetState ctx) (calls : List (TaskEnv × TaskCall)) (task : String) :
    Prop where
  contributions_le : (contributions (taskRun start calls) task).length ≤ 1
  rewards_le : (rewards (taskRun start calls) task).length ≤ 1
  contributed : contributions (taskRun start calls) task ≠ [] ↔
    ∃ row, AcceptedIn start calls row ∧ row.task.taskId = task ∧ taskExpectedReward row ≠ 0
  rewarded : rewards (taskRun start calls) task ≠ [] ↔
    ∃ row, AcceptedIn start calls row ∧ row.task.taskId = task ∧ taskExpectedReward row ≠ 0
  contribution : ∀ row, AcceptedIn start calls row → row.task.taskId = task →
    ∀ e ∈ contributions (taskRun start calls) task,
      e.entry.amount = taskExpectedReward row ∧ row.task.assigneeMember = some e.entry.member
  reward : ∀ row, AcceptedIn start calls row → row.task.taskId = task →
    ∀ t ∈ rewards (taskRun start calls) task, t.amount = taskExpectedReward row ∧
      ∃ account ∈ (taskRun start calls).credit.accounts.rows,
        t.targetAccount = some account.accountId ∧ account.member.isSome ∧
          account.member = row.task.assigneeMember

theorem Booked.contributions_le (hb : Booked s) (task : String) :
    (contributions s task).length ≤ 1 := by
  refine length_le_one_of_nodup ((List.Nodup.of_map _ s.entries.pkUnique).filter _) ?_
  intro e he e' he'
  obtain ⟨hmem, htask⟩ := mem_contributions.1 he
  obtain ⟨hmem', htask'⟩ := mem_contributions.1 he'
  obtain ⟨r, -, -, hfor⟩ := hb.entry e hmem
  obtain ⟨r', -, -, hfor'⟩ := hb.entry e' hmem'
  refine s.entries.eq_of_pk hmem hmem' ?_
  have hid : r.task.taskId = task := Option.some.inj (hfor.contribution.1.symm.trans htask.1)
  have hid' : r'.task.taskId = task := Option.some.inj (hfor'.contribution.1.symm.trans htask'.1)
  rw [hfor.id, hfor'.id, hid, hid']

theorem Booked.rewards_le (hb : Booked s) (task : String) : (rewards s task).length ≤ 1 := by
  refine length_le_one_of_nodup ((List.Nodup.of_map _ s.credit.transactions.pkUnique).filter _) ?_
  intro t ht u hu
  obtain ⟨hmem, htask⟩ := mem_rewards.1 ht
  obtain ⟨hmem', htask'⟩ := mem_rewards.1 hu
  exact hb.unique task t hmem u hmem' htask htask'

section

variable {start : BudgetState ctx} {calls : List (TaskEnv × TaskCall)}

/-- The accepted rows with points, read from the acceptances of the run. -/
theorem earning_iff (hstart : Unrewarded start) {task : String} :
    (∃ r ∈ (taskRun start calls).tasks.rows, Earning r ∧ r.task.taskId = task) ↔
      ∃ row, AcceptedIn start calls row ∧ row.task.taskId = task ∧ taskExpectedReward row ≠ 0 := by
  constructor
  · rintro ⟨r, hr, hearned, rfl⟩
    rcases acceptedIn_of_status hstart.booked calls hr hearned.1 with hold | ⟨row, haccepted, has⟩
    · rw [hstart.tasks] at hold
      cases hold
    · obtain ⟨-, -, -, hpoints⟩ := haccepted.acceptedAs hstart.booked
      refine ⟨row, haccepted, has.id.symm, ?_⟩
      rw [taskExpectedReward_eq hpoints, ← has.reward]
      exact hearned.2
  · rintro ⟨row, haccepted, rfl, hpaid⟩
    obtain ⟨r, hr, has, hpoints⟩ := haccepted.acceptedAs hstart.booked
    rw [taskExpectedReward_eq hpoints, ← has.reward] at hpaid
    exact ⟨r, hr, ⟨has.status, hpaid⟩, has.id⟩

/-- **One reward for a task.** After every run of task calls on a database without rewards, each task
has at most one posted contribution and at most one reward, and it has them exactly when the run
accepted it with a reward that is not zero: both of that amount, for its assignee. Whatever the run
goes on to do, no task leaves a final state. -/
theorem taskRun_oneReward (hstart : Unrewarded start) (calls : List (TaskEnv × TaskCall)) :
    (∀ task, OneReward start calls task) ∧ ∀ more, ∀ r ∈ (taskRun start calls).tasks.rows,
      ∃ r' ∈ (taskRun start (calls ++ more)).tasks.rows, Later r r' := by
  have hb := taskRun_booked hstart.booked calls
  refine ⟨fun task => ⟨hb.contributions_le task, hb.rewards_le task, ?_, ?_, ?_, ?_⟩,
    fun more r hr => ?_⟩
  · rw [← earning_iff hstart]
    constructor
    · intro hne
      obtain ⟨e, he⟩ := List.exists_mem_of_ne_nil _ hne
      obtain ⟨hmem, htask⟩ := mem_contributions.1 he
      obtain ⟨r, hr, hearned, hfor⟩ := hb.entry e hmem
      exact ⟨r, hr, hearned, Option.some.inj (hfor.contribution.1.symm.trans htask.1)⟩
    · rintro ⟨r, hr, hearned, rfl⟩
      obtain ⟨⟨e, he, hfor⟩, -⟩ := hb.recorded r hr hearned
      exact List.ne_nil_of_mem (mem_contributions.2 ⟨he, hfor.contribution⟩)
  · rw [← earning_iff hstart]
    constructor
    · intro hne
      obtain ⟨t, ht⟩ := List.exists_mem_of_ne_nil _ hne
      obtain ⟨hmem, htask⟩ := mem_rewards.1 ht
      obtain ⟨r, hr, hearned, hfor⟩ := hb.reward t hmem htask.1
      exact ⟨r, hr, hearned, Option.some.inj (hfor.reward.2.symm.trans htask.2)⟩
    · rintro ⟨r, hr, hearned, rfl⟩
      obtain ⟨-, t, ht, hfor⟩ := hb.recorded r hr hearned
      exact List.ne_nil_of_mem (mem_rewards.2 ⟨ht, hfor.reward⟩)
  · rintro row haccepted rfl e he
    obtain ⟨r, hr, has, hpoints⟩ := haccepted.acceptedAs hstart.booked
    obtain ⟨hmem, htask⟩ := mem_contributions.1 he
    obtain ⟨r', hr', -, hfor⟩ := hb.entry e hmem
    have hid : r'.task.taskId = row.task.taskId :=
      Option.some.inj (hfor.contribution.1.symm.trans htask.1)
    obtain rfl := (taskRun start calls).tasks.eq_of_pk hr hr' (has.id.trans hid.symm)
    rw [taskExpectedReward_eq hpoints, ← has.reward, ← has.assignee]
    exact ⟨hfor.amount, hfor.member⟩
  · rintro row haccepted rfl t ht
    obtain ⟨r, hr, has, hpoints⟩ := haccepted.acceptedAs hstart.booked
    obtain ⟨hmem, htask⟩ := mem_rewards.1 ht
    obtain ⟨r', hr', -, hfor⟩ := hb.reward t hmem htask.1
    have hid : r'.task.taskId = row.task.taskId :=
      Option.some.inj (hfor.reward.2.symm.trans htask.2)
    obtain rfl := (taskRun start calls).tasks.eq_of_pk hr hr' (has.id.trans hid.symm)
    rw [taskExpectedReward_eq hpoints, ← has.reward, ← has.assignee]
    exact ⟨hfor.amount, hfor.account⟩
  · rw [taskRun, runCalls_append]
    exact taskRun_kept hb more r hr

end

/-! ## A task that is paid -/

/-- A member who works. -/
def worker : Member where
  pk := 1
  memberNo := strokes 1
  user := none
  displayName := "w"
  status := .active
  profile := []

/-- The surroundings of the `n`-th call. -/
def workEnv (n : Nat) : TaskEnv where
  call := strokeEnv n
  directory := ⟨⟨[worker], List.nodup_singleton _, List.nodup_singleton _⟩, Table.empty, Table.empty,
    Table.empty, [], Table.empty, Table.empty⟩
  simulationDay := fun _ => .ok 1
  taskDraws := ["a"]
  actorType := "human_member"

/-- A database whose pool has 5 credits. -/
def fundedStart : BudgetState strokeContext where
  credit := creditRun strokeContext [(strokeEnv 1, .issue 5 "" 0 0 none)]
  tasks := Table.empty
  entries := Table.empty
  publicEvents := Table.empty

/-- A task of 4 points that is funded, claimed, submitted and accepted. -/
def paidWork : List (TaskEnv × TaskCall) := [
  (workEnv 2, .createTaskDraft ⟨"t", "repair", .scalar (.int 60), 4, ⟨1, 0⟩, "", "v1", []⟩),
  (workEnv 3, .fundAndPublishTask "task-a" [] 1 "lock"),
  (workEnv 4, .claimTask "task-a" worker),
  (workEnv 5, .submitLabor "task-a" worker "" []),
  (workEnv 6, .reviewTask "task-a" [] true "ok" false)]

theorem taskRun_oneReward_paid : OneReward fundedStart paidWork "task-a" ∧
    ((contributions (taskRun fundedStart paidWork) "task-a").map fun e => e.entry.amount) = [4] := by
  have hstart : Unrewarded fundedStart := by
    refine ⟨creditRun_accounts strokeContext _ |>.known, rfl, rfl, ?_⟩
    decide +kernel
  exact ⟨(taskRun_oneReward hstart paidWork).1 "task-a", by decide +kernel⟩

end LiveOs.Tasks
