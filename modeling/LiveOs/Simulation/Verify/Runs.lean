import LiveOs.Planning.Verify.Isomorphism
import LiveOs.Simulation.Verify.Accounts

/-!
# Runs from their creation on

A created run has its accounts, and every call keeps them. A node that a call completes was
executed by it, after all checks, or lies above the executed node and has no open children left.
-/

namespace LiveOs.Simulation

open Lib Planning Relation
open Procurement (PyDecimal)

variable {lang : Language} {db db' db₁ : SimDb} {runId : String} {call : AdvanceCall}
  {run : SimulationRun}

/-! ## Creation -/

theorem generateId_fresh {head message id : String} {draws : List String} {taken : String → Bool}
    (h : generateId head draws taken message = .ok id) : taken id = false := by
  unfold generateId at h
  split at h
  · rename_i found hfound
    obtain rfl := Except.ok.inj h
    simpa using List.find?_some hfound
  · cases h

theorem get?_inserted {runs runs' : RunTable} {row : SimulationRun} {e : Halt}
    (h : runs.insert row e = .ok runs') : runs'.get? row.runId = some row := by
  refine Table.get?_eq_some.2 ⟨?_, rfl⟩
  rw [(Table.insert_ok h).1]
  exact List.mem_append_right _ (List.mem_singleton_self _)

/-- The states of a database belong to its runs: `run = ForeignKey(SimulationRun)`. -/
def StatesHaveRuns (db : SimDb) : Prop :=
  ∀ s ∈ db.states.rows, ∃ r ∈ db.runs.rows, r.runId = s.run

theorem wasExecuted_initialState {run : SimulationRun} {node : PlanNode} {id : String} :
    wasExecuted (initialState run node id) = false := by
  simp [wasExecuted, initialState, Json.get?]

theorem zero_text : PyDecimal.zero.text = "0" := by decide

/-- What the creation of a run writes: the run, and a state for each node of its revision. -/
structure Created (snapshot : WorldSnapshot) (planRevision : RevisionId) (runId : String)
    (run : SimulationRun) (db db₁ : SimDb) : Prop where
  fresh : ∀ r ∈ db.runs.rows, r.runId ≠ runId
  row : db₁.runs.get? runId = some run
  named : run.runId = runId
  revision : run.planRevision = planRevision
  currentDay : run.currentDay = snapshot.startDay
  initialBudget : run.metadata.initialBudget = (simulationAvailableBudget snapshot.resources).text
  remainingBudget : run.metadata.remainingBudget =
    (simulationAvailableBudget snapshot.resources).text
  spentBudget : run.metadata.spentBudget = "0"
  states : ∃ added, db₁.states.rows = db.states.rows ++ added ∧
    ∀ s ∈ added, ∃ n ∈ nodesOf db planRevision, ∃ id, s = initialState run n id
  complete : AllStates db₁ runId planRevision
  failures : db₁.failures = db.failures
  plan : db₁.plan = db.plan

theorem createSimulationRun_ok {draws : Draws} {snapshot : WorldSnapshot}
    {planRevision : RevisionId} {maxTurns : Int} {now : Nat}
    (h : createSimulationRun draws snapshot planRevision maxTurns now db = .ok runId db₁) :
    ∃ run, Created snapshot planRevision runId run db db₁ := by
  rw [createSimulationRun, run_atomic_ok] at h
  by_cases hturns : maxTurns ≤ 0
  · rw [if_pos hturns] at h
    cases h
  rw [if_neg hturns] at h
  obtain ⟨id, hid, h⟩ := attempt_bind_ok.1 h
  obtain ⟨turns, -, h⟩ := attempt_bind_ok.1 h
  obtain ⟨_, created, hcreate, h⟩ := run_bind_ok.1 h
  obtain ⟨runs, hruns, hcreate⟩ := bind_eq_ok.1 (run_update_ok.1 hcreate)
  obtain rfl := pure_eq_ok.1 hcreate
  obtain ⟨_, ensured, hensure, h⟩ := run_bind_ok.1 h
  obtain ⟨rfl, rfl⟩ := by simpa using h
  rw [ensurePlanNodeRunStates, run_get_bind] at hensure
  obtain ⟨honly, hstates, hfound⟩ := ensureStates_ok hensure
  have hrow := get?_inserted hruns
  refine ⟨_, fun r hr heq => ?_, by rw [honly]; exact hrow, rfl, rfl, rfl, rfl, rfl, rfl, hstates,
    fun n hn => hfound n ?_, by rw [honly], by rw [honly]⟩
  · have htaken := generateId_fresh hid
    simp only [List.any_eq_false, decide_eq_true_eq] at htaken
    exact htaken r hr heq
  · rw [honly] at hn
    exact hn

/-- **Creation.** -/
theorem Created.accounts {snapshot : WorldSnapshot} {planRevision : RevisionId}
    (h : Created snapshot planRevision runId run db db₁) (hstates : StatesHaveRuns db) :
    Accounts (simulationAvailableBudget snapshot.resources) snapshot.startDay.val runId db₁ run
      (simulationAvailableBudget snapshot.resources) .zero := by
  obtain ⟨added, hrows, hadded⟩ := h.states
  -- no state of the new run is that of an executed node
  have hnone : executedStates db₁ runId = [] := by
    refine List.filter_eq_nil_iff.2 fun s hs hex => ?_
    obtain ⟨hrun, hex⟩ := executedIn_iff.1 hex
    rw [hrows] at hs
    rcases List.mem_append.1 hs with hold | hnew
    · obtain ⟨r, hr, hid⟩ := hstates s hold
      exact h.fresh r hr (hid.trans hrun)
    · obtain ⟨n, -, stateId, rfl⟩ := hadded s hnew
      rw [wasExecuted_initialState] at hex
      cases hex
  refine ⟨h.row, h.initialBudget, h.remainingBudget, h.spentBudget.trans zero_text.symm,
    ⟨plain_availableStock _ _, by decide, by decide⟩, ?_, fun h => h, ?_, ?_, ?_, ?_⟩
  · rw [rational_zero, add_zero]
  · rw [hnone, rational_zero]
    rfl
  · exact ⟨[], by rw [hnone], congrArg PositiveInt.val h.currentDay.symm⟩
  · simp [hnone]
  · rw [h.revision]
    exact h.complete

/-! ## Completed nodes -/

/-- How a call completes the state of a node: it executes the node, which has passed every check
and whose dependencies are completed, or the node lies above the executed one and its required
children are done. -/
inductive CompletedBy (lang : Language) (runId : String) (call : AdvanceCall) (db db' : SimDb)
    (s s' : PlanNodeRunState) : Prop
  | execution (run : SimulationRun) (node : PlanNode) (row : db.runs.get? runId = some run)
    (found : db.plan.nodes.get? s.planNode = some node)
    (executable : isExecutablePlanNode node = true)
    (feasible : feasibilityFailureForNode lang db call.resources run node = .ok none)
    (dependencies : ∀ d ∈ db.plan.dependencies.rows, d.node = node.nodeId →
      ∃ t, stateOf? db runId d.dependsOn = some t ∧ t.status = .completed)
    (fresh : wasExecuted s = false) (executed : wasExecuted s' = true)
  | children (node : PlanNode) (first : PlanNodeRunState) (mem : first ∈ db.states.rows)
    (found : db.plan.nodes.get? first.planNode = some node)
    (below : TransGen (Parent db) first.planNode s.planNode)
    (done : childrenDone db' runId s.planNode = true)
    (unpaid : wasExecuted s' = false)

/-- The dependencies of a plan are between nodes: `depends_on = ForeignKey(PlanNode)`. -/
def DependenciesHaveNodes (db : SimDb) : Prop :=
  ∀ d ∈ db.plan.dependencies.rows, (db.plan.nodes.get? d.dependsOn).isSome

theorem Step.plan (h : Step lang runId call db db') :
    db'.plan.nodes = db.plan.nodes ∧ db'.plan.dependencies = db.plan.dependencies := by
  have hensured : ∀ {run : SimulationRun} {nodes : List PlanNode} {ensured : SimDb},
      Ensured run nodes db ensured → ensured.plan = db.plan := fun h => by rw [h.only]
  cases h with
  | settled run row status same => exact ⟨same.nodes, same.dependencies⟩
  | finished run row status ensured states next runs same =>
    exact ⟨by rw [same.nodes, hensured states], by rw [same.dependencies, hensured states]⟩
  | failed run row status ensured states state node next data infeasible ids fails
      runs rows failure failures about nodes dependencies => exact ⟨nodes, dependencies⟩
  | executed run row status ensured states state node next feasible completedDay nextDay left used
      g execution =>
    exact ⟨by rw [execution.nodes, hensured states],
      by rw [execution.dependencies, hensured states]⟩

section

variable {budget : PyDecimal} {startDay : Nat} {remaining spent : PyDecimal}
  {s s' : PlanNodeRunState}

/-- A map that completes no further state of the run. -/
theorem not_completes {g : PlanNodeRunState → PlanNodeRunState} (hg : Mapped g db db')
    (hkept : ∀ t ∈ db.states.rows, (g t).status = .completed → t.status = .completed)
    (hs : s ∈ db.states.rows) (hs' : s' ∈ db'.states.rows) (hid : s'.stateId = s.stateId)
    (hopen : s.status ≠ .completed) (hclosed : s'.status = .completed) : False := by
  rw [hg.rows] at hs'
  obtain ⟨t, ht, rfl⟩ := List.mem_map.1 hs'
  obtain rfl := db.states.eq_of_pk ht hs ((hg.same t ht).stateId.symm.trans hid)
  exact hopen (hkept t ht hclosed)

/-- **Completions.** -/
theorem Step.completedBy (h : Accounts budget startDay runId db run remaining spent)
    (hdependencies : DependenciesHaveNodes db) (hstep : Step lang runId call db db')
    (hs : s ∈ db.states.rows) (hs' : s' ∈ db'.states.rows) (hid : s'.stateId = s.stateId)
    (hopen : s.status ≠ .completed) (hclosed : s'.status = .completed) :
    CompletedBy lang runId call db db' s s' := by
  have hrunId : run.runId = runId := (Table.get?_eq_some.1 h.row).2
  have hunchanged : ∀ {run' : SimulationRun} {ensured : SimDb}, db.runs.get? runId = some run' →
      Ensured run' (nodesOf db run'.planRevision) db ensured → run = run' ∧ db = ensured := by
    intro run' ensured hrow hensured
    obtain rfl := Option.some.inj (h.row.symm.trans hrow)
    exact ⟨rfl, (hensured.unchanged (by rw [hrunId]; exact h.complete)).symm⟩
  cases hstep with
  | settled run' row status same =>
    exact (not_completes same.mapped (fun _ _ => id) hs hs' hid hopen hclosed).elim
  | finished run' row status ensured states next runs same =>
    obtain ⟨rfl, rfl⟩ := hunchanged row states
    have hmapped : Mapped id db db' :=
      ⟨by rw [same.states, List.map_id], fun _ _ => ⟨rfl, rfl, rfl⟩, same.nodes⟩
    exact (not_completes hmapped (fun _ _ => id) hs hs' hid hopen hclosed).elim
  | failed run' row status ensured states state node next data infeasible ids fails
      runs rows failure failures about nodes dependencies =>
    obtain ⟨rfl, rfl⟩ := hunchanged row states
    have hmapped : Mapped (fun s => if s.stateId = state.stateId then Simulation.failed run data s else s)
        db db' := by
      refine ⟨rows, fun s _ => ?_, nodes⟩
      split <;> exact ⟨rfl, rfl, rfl⟩
    refine (not_completes hmapped (fun t _ ht => ?_) hs hs' hid hopen hclosed).elim
    by_cases htid : t.stateId = state.stateId
    · rw [if_pos htid] at ht
      cases ht
    · rwa [if_neg htid] at ht
  | executed run' row status ensured states state node next feasible completedDay nextDay left used
      g execution =>
    obtain ⟨rfl, rfl⟩ := hunchanged row states
    have hnext := nextExecutableState_some next
    rw [execution.rows] at hs'
    obtain ⟨t, ht, rfl⟩ := List.mem_map.1 hs'
    obtain rfl := db.states.eq_of_pk ht hs ((execution.mapped.same t ht).stateId.symm.trans hid)
    have heach := execution.each t ht
    generalize g t = t' at heach hclosed
    cases heach with
    | kept other => exact absurd hclosed hopen
    | executed same =>
      subst same
      refine .execution run node h.row hnext.found hnext.executable feasible (fun d hd hnode => ?_)
        (h.wasExecuted_of_next hnext) wasExecuted_executed
      rw [← hrunId]
      exact dependencies_completed feasible hd hnode (hdependencies d hd)
    | completed p other ofRun unfinished parent above children =>
      refine .children node state hnext.mem hnext.found
        (.head' ⟨node, hnext.found, parent⟩ above) (hrunId ▸ children) ?_
      rw [wasExecuted_autoCompleted]
      cases hex : wasExecuted t with
      | false => rfl
      | true =>
        have hmem := List.mem_filter.2 ⟨ht, executedIn_iff.2 ⟨ofRun.trans hrunId, hex⟩⟩
        exact absurd (h.completed t hmem) unfinished

end

/-! ## Runs -/

/-- What a call keeps, whether it returns or not, stays true of a run. -/
theorem advance_invariant {I : SimDb → Prop}
    (hstep : ∀ call db db', I db → Step lang runId call db db' → I db') (h₀ : I db₁)
    (calls : List AdvanceCall) : I (runTx (advancePlanSimulationRun lang runId) db₁ calls) := by
  refine runTx_invariant (fun call s hs => ?_) h₀ calls
  cases hcall : advancePlanSimulationRun lang runId call s with
  | error e s' =>
    obtain ⟨rfl, -⟩ := run_atomic_error.1 hcall
    rwa [finalState_of_error hcall]
  | ok result s' =>
    rw [finalState_of_ok hcall]
    exact hstep call s s' hs (advance_ok hcall)

/-- What stays true of a run from its creation on. -/
structure Sound (budget : PyDecimal) (startDay : Nat) (runId : String) (plan : PlanDb)
    (db : SimDb) : Prop where
  accounts : ∃ run remaining spent, Accounts budget startDay runId db run remaining spent
  nodes : db.plan.nodes = plan.nodes
  dependencies : db.plan.dependencies = plan.dependencies

theorem Sound.step {budget : PyDecimal} {startDay : Nat} {plan : PlanDb}
    (h : Sound budget startDay runId plan db) (hstep : Step lang runId call db db') :
    Sound budget startDay runId plan db' := by
  obtain ⟨run, remaining, spent, haccounts⟩ := h.accounts
  exact ⟨haccounts.step hstep, by rw [hstep.plan.1, h.nodes], by rw [hstep.plan.2, h.dependencies]⟩

theorem priced_fits (cents : Nat) : ((min cents 99999999999999 : Nat) : Int).natAbs < 10 ^ 14 := by
  rw [Int.natAbs_natCast]
  exact Nat.lt_of_le_of_lt (Nat.min_le_right _ _) (by decide)

/-- An amount, cut to its column. -/
def priced {places : Nat} (units : Nat) : DecimalColumn 14 places :=
  ⟨(min units 99999999999999 : Nat), priced_fits units⟩

/-- The work that its child completes. -/
def pricedParent : PlanNode :=
  { pilotNode "node-p" "P" none (positive 20) with estimatedCostExpected := priced 10000 }

/-- The child of the priced work. -/
def pricedChild : PlanNode :=
  { pilotNode "node-c" "C" (some pricedParent.nodeId) (positive 10) with
    estimatedCostExpected := priced 500 }

/-- What the priced work depends on. -/
def pricedFirst : PlanNode := pilotNode "node-f" "F" none (positive 30)

/-- A plan whose nodes are executed in the order of their sequences: C, then P, then F. -/
def pricedPlan : SimDb where
  plan := { pilotDb with
    nodes := tableOf [pricedParent, pricedChild, pricedFirst]
    dependencies := tableOf [{
      dependencyId := keyOf key96_pos "dep-p-f"
      revision := pilotRevision.revisionId
      node := pricedParent.nodeId
      dependsOn := pricedFirst.nodeId
      dependencyType := .cut DependencyType.finishToStart
      description := ""
      metadata := .obj [] }] }
  runs := .empty
  states := .empty
  turns := .empty
  events := .empty
  failures := .empty
  proposals := .empty

def plainLanguage : Language := ⟨textPython, String.toLower⟩

/-- Draws that are never taken. -/
def numbered (n : Nat) : Draws where
  run := [toString n]
  state node := [node.text ++ "-" ++ toString n]
  turn := [toString n]
  event := [toString n]
  failure := [toString n]
  proposal := [toString n]
  changeSet := [toString n]
  operation sequence := [toString n ++ "-" ++ toString sequence]

/-- Cash of 1000. -/
def someCash : Resources := [("cash", priced 1000000)]

/-- A world with cash and nobody in it. -/
def pricedWorld : WorldSnapshot := ⟨someCash, positive 1, 0, [], "0"⟩

/-- The n-th call. -/
def pricedCall (n : Nat) : AdvanceCall := ⟨someCash, numbered n, n⟩

/-- The priced plan with a run on it. -/
def pricedRun : SimM String := createSimulationRun (numbered 0) pricedWorld pilotRevision.revisionId 90 0


/-- The priced plan, a run on it and a first call; the run, and the database before the call. -/
def pricedCalls : SimM (String × SimDb) := do
  let runId ← pricedRun
  let db ← get
  let _ ← advancePlanSimulationRun plainLanguage runId (pricedCall 1)
  return (runId, db)

/-- The states of a run that are completed now and were not before. -/
def becameCompleted (db db' : SimDb) (runId : String) : List PlanNodeRunState :=
  db'.states.rows.filter fun s => s.run = runId && s.status = .completed &&
    db.states.rows.all fun t => t.stateId ≠ s.stateId || t.status ≠ .completed

end LiveOs.Simulation
