import Mathlib.Algebra.BigOperators.Group.List.Basic
import LiveOs.Simulation.Verify.Checks

/-!
# Budgets and days of a run

After every call the budgets of a run add up to what it started with, what is spent is the cost of
the nodes that were executed, and the days of these nodes follow each other without a gap. A state
that becomes completed is that of the executed node, or of a node above it whose children are done.
-/

namespace LiveOs.Simulation

open Lib Planning Relation
open Procurement (PyDecimal)

variable {lang : Language} {py : Python} {db db' : SimDb} {runId : String} {call : AdvanceCall}
  {run : SimulationRun}

/-! ## Executed states -/

/-- The execution of a node leaves its duration with the state. -/
def wasExecuted (s : PlanNodeRunState) : Bool := (Json.get? s.metadata "duration_days").isSome

/-- The state belongs to the run, and its node was executed. -/
def executedIn (runId : String) (s : PlanNodeRunState) : Bool := s.run = runId && wasExecuted s

theorem executedIn_iff {s : PlanNodeRunState} :
    executedIn runId s = true ↔ s.run = runId ∧ wasExecuted s = true := by
  rw [executedIn, Bool.and_eq_true, decide_eq_true_eq]

/-- The states of a run whose nodes it has executed. -/
def executedStates (db : SimDb) (runId : String) : List PlanNodeRunState :=
  db.states.rows.filter (executedIn runId)

/-- `estimated_cost_expected` of the node of a state. -/
def nodeCost (db : SimDb) (s : PlanNodeRunState) : ℚ :=
  ((db.plan.nodes.get? s.planNode).map fun n => rational n.estimatedCostExpected.value).getD 0

/-- The days of the states follow each other from the first day up to the day before `current`. -/
def Consecutive : Nat → List PlanNodeRunState → Nat → Prop
  | day, [], current => day = current
  | day, s :: rest, current => ∃ first last : PositiveInt, s.startedDay = some first ∧
    s.completedDay = some last ∧ first.val = day ∧ first.val ≤ last.val ∧
      Consecutive (last.val + 1) rest current

theorem Consecutive.concat {day current : Nat} {states : List PlanNodeRunState}
    (h : Consecutive day states current) {s : PlanNodeRunState} {first last : PositiveInt}
    (hfirst : s.startedDay = some first) (hlast : s.completedDay = some last)
    (hcurrent : first.val = current) (hle : first.val ≤ last.val) :
    Consecutive day (states ++ [s]) (last.val + 1) := by
  induction states generalizing day with
  | nil => exact ⟨first, last, hfirst, hlast, hcurrent.trans h.symm, hle, rfl⟩
  | cons t states ih =>
    obtain ⟨a, b, ha, hb, hday, hab, hrest⟩ := h
    exact ⟨a, b, ha, hb, hday, hab, ih hrest⟩

theorem wasExecuted_executed {node : PlanNode} {first last : PositiveInt} {remaining : Decimal}
    {s : PlanNodeRunState} : wasExecuted (executed node first last remaining s) = true := by
  simp [wasExecuted, executed, merged, get?_upsert]

theorem wasExecuted_autoCompleted {day : PositiveInt} {s : PlanNodeRunState} :
    wasExecuted (autoCompleted day s) = wasExecuted s := by
  rw [wasExecuted, autoCompleted, get?_merged (by simp)]
  rfl

/-! ## The invariant -/

/-- The accounts of a run that started on a day with a budget. -/
structure Accounts (budget : PyDecimal) (startDay : Nat) (runId : String) (db : SimDb)
    (run : SimulationRun) (remaining spent : PyDecimal) : Prop where
  row : db.runs.get? runId = some run
  initialText : run.metadata.initialBudget = budget.text
  remainingText : run.metadata.remainingBudget = remaining.text
  spentText : run.metadata.spentBudget = spent.text
  plain : Plain remaining ∧ Plain spent
  total : rational remaining + rational spent = rational budget
  solvent : 0 ≤ rational budget → 0 ≤ rational remaining
  spent_eq : rational spent = ((executedStates db runId).map (nodeCost db)).sum
  days : ∃ order, order.Perm (executedStates db runId) ∧
    Consecutive startDay order run.currentDay.val
  completed : ∀ s ∈ executedStates db runId, s.status = .completed
  complete : AllStates db runId run.planRevision

section

variable {budget : PyDecimal} {startDay : Nat} {remaining spent : PyDecimal}

/-- The row of a run after a write to it. -/
theorem run_after_write {f : SimulationRun → SimulationRun} (hid : ∀ r, (f r).runId = r.runId)
    (hrow : db.runs.get? runId = some run)
    (hruns : db'.runs.rows = db.runs.rows.map fun r => if r.runId = runId then f r else r) :
    db'.runs.get? runId = some (f run) := by
  obtain ⟨hmem, hrunId⟩ := Table.get?_eq_some.1 hrow
  refine Table.get?_eq_some.2 ⟨?_, (hid run).trans hrunId⟩
  rw [hruns]
  exact List.mem_map.2 ⟨run, hmem, if_pos hrunId⟩

/-- The states under a map that keeps which nodes were executed and what their states say. -/
theorem Accounts.of_states (h : Accounts budget startDay runId db run remaining spent)
    {run' : SimulationRun} (hrow : db'.runs.get? runId = some run')
    (hmetadata : run'.metadata = run.metadata) (hday : run'.currentDay = run.currentDay)
    (hrevision : run'.planRevision = run.planRevision)
    (hexecuted : executedStates db' runId = executedStates db runId)
    (hnodes : db'.plan.nodes = db.plan.nodes) (hcomplete : AllStates db' runId run.planRevision) :
    Accounts budget startDay runId db' run' remaining spent := by
  have hcost : nodeCost db' = nodeCost db := by
    funext s
    rw [nodeCost, nodeCost, hnodes]
  refine ⟨hrow, by rw [hmetadata, h.initialText], by rw [hmetadata, h.remainingText],
    by rw [hmetadata, h.spentText], h.plain, h.total, h.solvent, ?_, ?_, ?_, ?_⟩
  · rw [hexecuted, hcost]
    exact h.spent_eq
  · rw [hexecuted, hday]
    exact h.days
  · rw [hexecuted]
    exact h.completed
  · rw [hrevision]
    exact hcomplete

theorem AllStates.of_mapped {g : PlanNodeRunState → PlanNodeRunState} {revision : RevisionId}
    (h : AllStates db runId revision) (hg : Mapped g db db') : AllStates db' runId revision := by
  intro n hn
  have hn' : n ∈ nodesOf db revision := by
    unfold nodesOf revisionNodes at hn ⊢
    rw [← hg.nodes]
    exact hn
  obtain ⟨s, hs⟩ := h n hn'
  exact ⟨g s, hg.stateOf? hs⟩

theorem SameProgress.mapped (h : SameProgress db db') : Mapped id db db' :=
  ⟨by rw [h.states, List.map_id], fun _ _ => ⟨rfl, rfl, rfl⟩, h.nodes⟩

theorem filter_map_kept {p : PlanNodeRunState → Bool} {g : PlanNodeRunState → PlanNodeRunState}
    {xs : List PlanNodeRunState} (h : ∀ s ∈ xs, p (g s) = p s ∧ (p s = true → g s = s)) :
    (xs.map g).filter p = xs.filter p := by
  induction xs with
  | nil => rfl
  | cons x xs ih =>
    have ih := ih fun s hs => h s (List.mem_cons_of_mem _ hs)
    obtain ⟨hx, hkept⟩ := h x List.mem_cons_self
    cases hp : p x with
    | true => rw [List.map_cons, hkept hp, List.filter_cons_of_pos hp, List.filter_cons_of_pos hp, ih]
    | false =>
      rw [List.map_cons, List.filter_cons_of_neg (by rw [hx, hp]; decide),
        List.filter_cons_of_neg (by rw [hp]; decide), ih]

/-- A map that leaves the executed states as they are and makes no further ones. -/
theorem executedStates_map {g : PlanNodeRunState → PlanNodeRunState} (hg : Mapped g db db')
    (hkept : ∀ s ∈ db.states.rows, s.run = runId → wasExecuted s = true → g s = s)
    (hnew : ∀ s ∈ db.states.rows, s.run = runId → wasExecuted (g s) = wasExecuted s) :
    executedStates db' runId = executedStates db runId := by
  unfold executedStates
  rw [hg.rows]
  refine filter_map_kept fun s hs => ⟨?_, fun hp => ?_⟩
  · rw [executedIn, executedIn, (hg.same s hs).run]
    by_cases hrun : s.run = runId
    · rw [hnew s hs hrun]
    · rw [decide_eq_false hrun, Bool.false_and, Bool.false_and]
  · obtain ⟨hrun, hex⟩ := executedIn_iff.1 hp
    exact hkept s hs hrun hex

/-! ## Executions -/

section

variable {state : PlanNodeRunState} {node : PlanNode} {completedDay nextDay : PositiveInt}
  {left used : Decimal} {g : PlanNodeRunState → PlanNodeRunState}

theorem Execution.mapped (hx : Execution lang run state node completedDay nextDay left used g db db') :
    Mapped g db db' := by
  refine ⟨hx.rows, fun s hs => ?_, hx.nodes⟩
  have heach := hx.each s hs
  generalize g s = t at heach
  cases heach with
  | kept other => exact ⟨rfl, rfl, rfl⟩
  | executed same => exact ⟨rfl, rfl, rfl⟩
  | completed p other ofRun unfinished parent above children => exact sameState_autoCompleted _ _

theorem Execution.of_state
    (hx : Execution lang run state node completedDay nextDay left used g db db')
    (hmem : state ∈ db.states.rows) :
    g state = executed node run.currentDay completedDay left state := by
  have heach := hx.each state hmem
  generalize g state = t at heach ⊢
  cases heach with
  | kept other => exact absurd rfl other
  | executed same => rfl
  | completed p other ofRun unfinished parent above children => exact absurd rfl other

/-- The executed states afterwards: those before, and that of the node. -/
theorem Execution.executedStates
    (hx : Execution lang run state node completedDay nextDay left used g db db')
    (hdone : ∀ s ∈ executedStates db runId, s.status = .completed) (hmem : state ∈ db.states.rows)
    (hrun : state.run = runId) (hopen : wasExecuted state = false) :
    (executedStates db' runId).Perm (executedStates db runId ++ [g state]) := by
  have hnodup : db.states.rows.Nodup := List.Nodup.of_map _ db.states.pkUnique
  obtain ⟨before, after, hsplit⟩ := List.append_of_mem hmem
  rw [hsplit, List.nodup_append, List.nodup_cons] at hnodup
  obtain ⟨-, ⟨hafter, -⟩, hbefore⟩ := hnodup
  have hother : ∀ xs : List PlanNodeRunState, (∀ s ∈ xs, s ∈ db.states.rows ∧ s ≠ state) →
      (xs.map g).filter (executedIn runId) = xs.filter (executedIn runId) := by
    intro xs hxs
    refine filter_map_kept fun s hs => ?_
    have heach := hx.each s (hxs s hs).1
    generalize g s = t at heach
    cases heach with
    | kept other => exact ⟨rfl, fun _ => rfl⟩
    | executed same => exact absurd same (hxs s hs).2
    | completed p other ofRun unfinished parent above children =>
      refine ⟨by rw [executedIn, wasExecuted_autoCompleted]; rfl, fun hp => ?_⟩
      exact absurd (hdone s (List.mem_filter.2 ⟨(hxs s hs).1, hp⟩)) unfinished
  have hg := hx.of_state hmem
  have hnew : executedIn runId (g state) = true :=
    executedIn_iff.2 ⟨by rw [hg]; exact hrun, by rw [hg, wasExecuted_executed]⟩
  have hold : ¬ executedIn runId state = true := by
    rw [executedIn, hopen, Bool.and_false]
    decide
  unfold Simulation.executedStates
  rw [hx.rows, hsplit, List.map_append, List.map_cons, List.filter_append, List.filter_append,
    List.filter_cons_of_pos hnew, List.filter_cons_of_neg hold, hother before, hother after]
  · rw [List.append_assoc]
    exact List.Perm.append_left _ (List.perm_append_singleton _ _).symm
  · intro s hs
    exact ⟨hsplit ▸ List.mem_append_right _ (List.mem_cons_of_mem _ hs),
      fun heq => hafter (heq ▸ hs)⟩
  · intro s hs
    exact ⟨hsplit ▸ List.mem_append_left _ hs, fun heq => hbefore _ (heq ▸ hs) _ List.mem_cons_self rfl⟩

end

end

section

variable {budget : PyDecimal} {startDay : Nat} {remaining spent : PyDecimal}
  {state : PlanNodeRunState} {node : PlanNode}

theorem Next.status (hnext : Next db runId state node) : state.status ≠ .completed := by
  intro heq
  have hdone := hnext.unfinished
  rw [isDone, heq] at hdone
  cases hdone

theorem Accounts.wasExecuted_of_next (h : Accounts budget startDay runId db run remaining spent)
    (hnext : Next db runId state node) : wasExecuted state = false := by
  cases hex : wasExecuted state with
  | false => rfl
  | true =>
    have hmem := List.mem_filter.2 ⟨hnext.mem, executedIn_iff.2 ⟨hnext.ofRun, hex⟩⟩
    exact absurd (h.completed state hmem) hnext.status

/-- **Executions.** -/
theorem Accounts.executed (h : Accounts budget startDay runId db run remaining spent)
    (hnext : Next db runId state node)
    (hfeasible : feasibilityFailureForNode lang db call.resources run node = .ok none)
    {completedDay nextDay : PositiveInt} {left used : Decimal}
    {g : PlanNodeRunState → PlanNodeRunState}
    (hx : Execution lang run state node completedDay nextDay left used g db db') :
    ∃ run' remaining' spent', Accounts budget startDay runId db' run' remaining' spent' := by
  have hrunId : run.runId = runId := (Table.get?_eq_some.1 h.row).2
  have hremaining : decimalFromText lang.py run.metadata.remainingBudget = .finite remaining := by
    rw [h.remainingText, decimalFromText_text _ h.plain.1]
  have hspent : decimalFromText lang.py run.metadata.spentBudget = .finite spent := by
    rw [h.spentText, decimalFromText_text _ h.plain.2]
  have hcostPlain : Plain ⟨-node.estimatedCostExpected.value.coefficient,
      node.estimatedCostExpected.value.exponent⟩ :=
    ⟨(plain_value (d := node.estimatedCostExpected)).1, (plain_value (d := node.estimatedCostExpected)).2⟩
  -- the two texts that are written
  have hleft := hx.subtracted
  rw [hremaining, Decimal.minus, Decimal.plus] at hleft
  have hused := hx.added
  rw [hspent, Decimal.plus] at hused
  obtain rfl := Except.ok.inj hleft
  obtain rfl := Except.ok.inj hused
  have hleftValue : rational (remaining.add ⟨-node.estimatedCostExpected.value.coefficient,
      node.estimatedCostExpected.value.exponent⟩) =
      rational remaining - rational node.estimatedCostExpected.value := by
    rw [rational_add, rational_neg]
    ring
  have hopen : wasExecuted state = false := h.wasExecuted_of_next hnext
  have hperm := hx.executedStates h.completed hnext.mem hnext.ofRun hopen
  have hg := hx.of_state hnext.mem
  have hcost : nodeCost db' = nodeCost db := by
    funext s
    rw [nodeCost, nodeCost, hx.nodes]
  have hnodeCost : nodeCost db (g state) = rational node.estimatedCostExpected.value := by
    rw [hg, nodeCost]
    show ((db.plan.nodes.get? state.planNode).map _).getD 0 = _
    rw [hnext.found]
    rfl
  have hlasted := hx.lasted
  have hcontinued := hx.continued
  have hduration : 1 ≤ nodeDuration node := le_max_left _ _
  have hruns := hx.runs
  rw [hrunId] at hruns
  have hrow := run_after_write (f := SimulationRun.executed nextDay _ _) (fun _ => rfl) h.row hruns
  refine ⟨_, _, _, ⟨hrow, h.initialText, rfl, rfl, ⟨plain_add h.plain.1 hcostPlain,
    plain_add h.plain.2 plain_value⟩, ?_, ?_, ?_, ?_, ?_, h.complete.of_mapped hx.mapped⟩⟩
  · rw [hleftValue, rational_add]
    linarith [h.total]
  · intro _
    rw [hleftValue]
    linarith [cost_le_remaining hfeasible hremaining]
  · rw [rational_add, (hperm.map _).sum_eq, List.map_append, List.sum_append, hcost,
      List.map_singleton, List.sum_singleton, hnodeCost, h.spent_eq]
  · obtain ⟨order, horder, hdays⟩ := h.days
    refine ⟨order ++ [g state], (horder.append_right _).trans hperm.symm, ?_⟩
    have hfirst : (g state).startedDay = some run.currentDay := by rw [hg]; rfl
    have hlast : (g state).completedDay = some completedDay := by rw [hg]; rfl
    have hconcat := hdays.concat hfirst hlast rfl (by omega)
    rw [← hcontinued] at hconcat
    exact hconcat
  · intro s hs
    rcases List.mem_append.1 (hperm.mem_iff.1 hs) with hold | hnew
    · exact h.completed s hold
    · obtain rfl := List.mem_singleton.1 hnew
      rw [hg]
      rfl

/-- **Steps.** -/
theorem Accounts.step (h : Accounts budget startDay runId db run remaining spent)
    (hstep : Step lang runId call db db') :
    ∃ run' remaining' spent', Accounts budget startDay runId db' run' remaining' spent' := by
  have hrunId : run.runId = runId := (Table.get?_eq_some.1 h.row).2
  have hunchanged : ∀ {run' : SimulationRun} {ensured : SimDb}, db.runs.get? runId = some run' →
      Ensured run' (nodesOf db run'.planRevision) db ensured → run = run' ∧ db = ensured := by
    intro run' ensured hrow hensured
    obtain rfl := Option.some.inj (h.row.symm.trans hrow)
    exact ⟨rfl, (hensured.unchanged (by rw [hrunId]; exact h.complete)).symm⟩
  cases hstep with
  | settled run' row status same =>
    exact ⟨run, remaining, spent, h.of_states (by rw [same.runs]; exact h.row) rfl rfl rfl
      (by rw [executedStates, same.states]; rfl) same.nodes (h.complete.of_mapped same.mapped)⟩
  | finished run' row status ensured states next runs same =>
    obtain ⟨rfl, rfl⟩ := hunchanged row states
    have hmapped : Mapped id db db' :=
      ⟨by rw [same.states, List.map_id], fun _ _ => ⟨rfl, rfl, rfl⟩, same.nodes⟩
    have hrow := run_after_write (f := SimulationRun.stopped .completed call.now "")
      (fun _ => rfl) h.row runs
    exact ⟨_, remaining, spent, h.of_states hrow rfl rfl rfl
      (by rw [executedStates, same.states]; rfl) same.nodes (h.complete.of_mapped hmapped)⟩
  | failed run' row status ensured states state node next data infeasible ids fails
      runs rows failure failures about nodes dependencies =>
    obtain ⟨rfl, rfl⟩ := hunchanged row states
    have hnext := nextExecutableState_some next
    have hmapped : Mapped (fun s => if s.stateId = state.stateId then failed run data s else s)
        db db' := by
      refine ⟨rows, fun s _ => ?_, nodes⟩
      split <;> exact ⟨rfl, rfl, rfl⟩
    have hopen : wasExecuted state = false := h.wasExecuted_of_next hnext
    have hrow := run_after_write (f := SimulationRun.stopped .failed call.now data.description)
      (fun _ => rfl) h.row runs
    refine ⟨_, remaining, spent, h.of_states hrow rfl rfl rfl
      (executedStates_map hmapped (fun s hs _ hex => ?_) fun s hs _ => ?_) nodes
      (h.complete.of_mapped hmapped)⟩
    · refine if_neg fun hid => ?_
      rw [db.states.eq_of_pk hs hnext.mem hid, hopen] at hex
      cases hex
    · split
      · rw [wasExecuted, failed, get?_merged (failure_metadata infeasible).2,
          get?_merged (by simp)]
        rfl
      · rfl
  | executed run' row status ensured states state node next feasible completedDay nextDay left used
      g execution =>
    obtain ⟨rfl, rfl⟩ := hunchanged row states
    exact h.executed (nextExecutableState_some next) feasible execution

end

end LiveOs.Simulation
