import Mathlib.Logic.Relation
import LiveOs.Simulation.Verify.Steps

/-!
# Progress of a run

The execution of a node and the climb from it: the states of parents whose required children are
done become completed. What a climb changes is a map over the states that completes some of them.
-/

namespace LiveOs.Simulation

open Lib Planning Relation
open Procurement (PyDecimal)

variable {lang : Language} {db db' db₁ : SimDb} {draws : Draws} {now : Nat} {run : SimulationRun}
  {runId : String} {node : PlanNode} {day : PositiveInt} {g : PlanNodeRunState → PlanNodeRunState}

/-! ## Maps over the states -/

/-- The same state under another status. -/
structure SameState (s t : PlanNodeRunState) : Prop where
  stateId : t.stateId = s.stateId
  run : t.run = s.run
  planNode : t.planNode = s.planNode

theorem sameState_autoCompleted (day : PositiveInt) (s : PlanNodeRunState) :
    SameState s (autoCompleted day s) := ⟨rfl, rfl, rfl⟩

/-- The rows of the second state are those of the first one under a map. -/
structure Mapped (g : PlanNodeRunState → PlanNodeRunState) (db db' : SimDb) : Prop where
  rows : db'.states.rows = db.states.rows.map g
  same : ∀ s ∈ db.states.rows, SameState s (g s)
  nodes : db'.plan.nodes = db.plan.nodes

theorem Mapped.stateOf? (h : Mapped g db db') {node : NodeId} {s : PlanNodeRunState}
    (hs : stateOf? db runId node = some s) : stateOf? db' runId node = some (g s) := by
  obtain ⟨hmem, rfl, rfl⟩ := stateOf?_eq_some hs
  have hsame := h.same s hmem
  rw [← hsame.run, ← hsame.planNode]
  refine stateOf?_of_mem ?_
  rw [h.rows]
  exact List.mem_map_of_mem hmem

theorem Mapped.childStates (h : Mapped g db db') (parent : NodeId) :
    childStates db' runId parent = (childStates db runId parent).map g := by
  unfold Simulation.childStates
  rw [h.rows, List.filter_map, h.nodes]
  congr 1
  refine List.filter_congr fun s hs => ?_
  have hsame := h.same s hs
  simp only [Function.comp_apply, hsame.run, hsame.planNode]

/-- Done children stay done where the map keeps what is done. -/
theorem Mapped.childrenDone (h : Mapped g db db')
    (hdone : ∀ s ∈ db.states.rows, isDone s = true → isDone (g s) = true) {parent : NodeId}
    (hp : childrenDone db runId parent = true) : childrenDone db' runId parent = true := by
  unfold Simulation.childrenDone at hp ⊢
  rw [h.childStates]
  simp only [Bool.and_eq_true, Bool.not_eq_true', List.isEmpty_eq_false_iff, ne_eq,
    List.map_eq_nil_iff, List.all_eq_true, List.mem_map, forall_exists_index, and_imp,
    forall_apply_eq_imp_iff₂] at hp ⊢
  exact ⟨hp.1, fun s hs => hdone s (List.mem_of_mem_filter hs) (hp.2 s hs)⟩

/-! ## The climb -/

/-- `node.parent`. -/
def Parent (db : SimDb) (n p : NodeId) : Prop :=
  ∃ row, db.plan.nodes.get? n = some row ∧ row.parent = some p

/-- What a climb does to one state: nothing, or it completes the state of a node above the start
whose children are done in the end. -/
inductive MarkedState (runId : String) (day : PositiveInt) (start : Option NodeId) (db db' : SimDb)
    (s : PlanNodeRunState) : PlanNodeRunState → Prop
  | kept : MarkedState runId day start db db' s s
  | completed (p : NodeId) (ofRun : s.run = runId) (unfinished : s.status ≠ .completed)
    (begins : start = some p) (above : ReflTransGen (Parent db) p s.planNode)
    (children : childrenDone db' runId s.planNode = true) :
    MarkedState runId day start db db' s (autoCompleted day s)

/-- What a climb does. -/
structure Marked (runId : String) (day : PositiveInt) (start : Option NodeId)
    (g : PlanNodeRunState → PlanNodeRunState) (db db' : SimDb) : Prop where
  only : db' = { db with states := db'.states }
  rows : db'.states.rows = db.states.rows.map g
  each : ∀ s ∈ db.states.rows, MarkedState runId day start db db' s (g s)

section

variable {start : Option NodeId}

theorem MarkedState.same {s t : PlanNodeRunState} (h : MarkedState runId day start db db' s t) :
    SameState s t := by
  cases h with
  | kept => exact ⟨rfl, rfl, rfl⟩
  | completed p ofRun unfinished begins above children => exact sameState_autoCompleted day s

theorem MarkedState.isDone {s t : PlanNodeRunState} (h : MarkedState runId day start db db' s t)
    (hs : Simulation.isDone s = true) : Simulation.isDone t = true := by
  cases h with
  | kept => exact hs
  | completed p ofRun unfinished begins above children => rfl

theorem Marked.mapped (h : Marked runId day start g db db') : Mapped g db db' :=
  ⟨h.rows, fun s hs => (h.each s hs).same, by rw [h.only]⟩

theorem Marked.refl (runId : String) (day : PositiveInt) (start : Option NodeId) (db : SimDb) :
    Marked runId day start id db db :=
  ⟨rfl, (List.map_id _).symm, fun _ _ => .kept⟩

/-- A climb that goes on from the parent of the node it starts at. -/
theorem Marked.climb {p : NodeId} {next : Option NodeId} (h : Marked runId day next g db db')
    (hnext : ∀ q, next = some q → Parent db p q) : Marked runId day (some p) g db db' := by
  refine ⟨h.only, h.rows, fun s hs => ?_⟩
  generalize hgs : g s = t
  have hs' := h.each s hs
  rw [hgs] at hs'
  cases hs' with
  | kept => exact .kept
  | completed q ofRun unfinished begins above children =>
    exact .completed p ofRun unfinished rfl (.head (hnext q begins) above) children

/-- The state of the node itself is completed first. -/
theorem Marked.first {p : NodeId} {state : PlanNodeRunState} {states : StateTable}
    (hstate : stateOf? db runId p = some state) (hopen : state.status ≠ .completed)
    (hdone : childrenDone db runId p = true)
    (hrows : states.rows = db.states.rows.map fun s =>
      if s.stateId = state.stateId then autoCompleted day s else s)
    (h : Marked runId day (some p) g { db with states := states } db') :
    ∃ g', Marked runId day (some p) g' db db' := by
  obtain ⟨hmem, hrun, hnode⟩ := stateOf?_eq_some hstate
  -- both maps together, and what they do to one state
  have hfirst : Mapped (fun s => if s.stateId = state.stateId then autoCompleted day s else s) db
      { db with states := states } := by
    refine ⟨hrows, fun s _ => ?_, rfl⟩
    by_cases hid : s.stateId = state.stateId
    · simp only [if_pos hid]
      exact sameState_autoCompleted day s
    · simp only [if_neg hid]
      exact ⟨rfl, rfl, rfl⟩
  have hdone' : childrenDone db' runId p = true := by
    refine h.mapped.childrenDone (fun s hs hd => (h.each s hs).isDone hd) ?_
    refine hfirst.childrenDone (fun s _ hd => ?_) hdone
    split
    · rfl
    · exact hd
  refine ⟨g ∘ fun s => if s.stateId = state.stateId then autoCompleted day s else s, ?_, ?_, ?_⟩
  · rw [h.only]
  · rw [h.rows, hrows, List.map_map]
  · intro s hs
    have hmid : (if s.stateId = state.stateId then autoCompleted day s else s) ∈ states.rows := by
      rw [hrows]
      exact List.mem_map_of_mem hs
    have heach := h.each _ hmid
    simp only [Function.comp_apply]
    by_cases hid : s.stateId = state.stateId
    · obtain rfl := db.states.eq_of_pk hs hmem hid
      rw [if_pos rfl] at heach ⊢
      generalize g (autoCompleted day s) = t at heach
      cases heach with
      | kept => exact .completed p hrun hopen rfl (hnode ▸ .refl) (hnode ▸ hdone')
      | completed q ofRun unfinished begins above children => exact absurd rfl unfinished
    · rw [if_neg hid] at heach ⊢
      generalize g s = t at heach
      cases heach with
      | kept => exact .kept
      | completed q ofRun unfinished begins above children =>
        exact .completed q ofRun unfinished begins above children

theorem markParents_ok {fuel : Nat} (h : markParents runId day fuel start db = .ok () db') :
    ∃ g, Marked runId day start g db db' := by
  induction fuel generalizing db start with
  | zero =>
    cases start with
    | none =>
      obtain rfl := by simpa [markParents] using h
      exact ⟨id, .refl ..⟩
    | some p => cases h
  | succ fuel ih =>
    cases start with
    | none =>
      obtain rfl := by simpa [markParents] using h
      exact ⟨id, .refl ..⟩
    | some p =>
      rw [markParents, run_get_bind] at h
      have hnext : ∀ q, (db.plan.nodes.get? p).bind PlanNode.parent = some q → Parent db p q := by
        intro q hq
        obtain ⟨row, hrow, hparent⟩ := Option.bind_eq_some_iff.1 hq
        exact ⟨row, hrow, hparent⟩
      by_cases hdone : childrenDone db runId p = true
      · rw [if_pos hdone] at h
        cases hstate : stateOf? db runId p with
        | none =>
          simp only [hstate] at h
          obtain ⟨g, hg⟩ := ih h
          exact ⟨g, hg.climb hnext⟩
        | some state =>
          simp only [hstate] at h
          by_cases hopen : state.status ≠ .completed
          · rw [if_pos hopen] at h
            obtain ⟨_, db₁, hsave, h⟩ := run_bind_ok.1 h
            obtain rfl := pure_eq_ok.1 (run_update_ok.1 hsave)
            obtain ⟨g, hg⟩ := ih h
            exact Marked.first hstate hopen hdone rfl (hg.climb hnext)
          · rw [if_neg hopen] at h
            obtain ⟨g, hg⟩ := ih h
            exact ⟨g, hg.climb hnext⟩
      · rw [if_neg hdone] at h
        obtain rfl := by simpa using h
        exact ⟨id, .refl ..⟩

end

/-! ## The execution of a node -/

/-- The row of the run after a node is executed. -/
def SimulationRun.executed (nextDay : PositiveInt) (remaining spent : String) (r : SimulationRun) :
    SimulationRun :=
  { r with
    currentDay := nextDay
    status := .running
    metadata := { r.metadata with remainingBudget := remaining, spentBudget := spent } }

/-- What an execution does to one state. -/
inductive ExecutedState (run : SimulationRun) (state : PlanNodeRunState) (node : PlanNode)
    (completedDay : PositiveInt) (remaining : Decimal) (db db' : SimDb) (s : PlanNodeRunState) :
    PlanNodeRunState → Prop
  | kept (other : s ≠ state) : ExecutedState run state node completedDay remaining db db' s s
  | executed (same : s = state) : ExecutedState run state node completedDay remaining db db' s
      (executed node run.currentDay completedDay remaining s)
  | completed (p : NodeId) (other : s ≠ state) (ofRun : s.run = run.runId)
    (unfinished : s.status ≠ .completed) (parent : node.parent = some p)
    (above : ReflTransGen (Parent db) p s.planNode)
    (children : childrenDone db' run.runId s.planNode = true) :
    ExecutedState run state node completedDay remaining db db' s (autoCompleted completedDay s)

/-- What an execution does. -/
structure Execution (lang : Language) (run : SimulationRun) (state : PlanNodeRunState)
    (node : PlanNode) (completedDay nextDay : PositiveInt) (remaining spent : Decimal)
    (g : PlanNodeRunState → PlanNodeRunState) (db db' : SimDb) : Prop where
  subtracted : (decimalFromText lang.py run.metadata.remainingBudget).minus
    node.estimatedCostExpected.value = .ok remaining
  added : (decimalFromText lang.py run.metadata.spentBudget).plus
    node.estimatedCostExpected.value = .ok spent
  lasted : completedDay.val + 1 = run.currentDay.val + nodeDuration node
  continued : nextDay.val = completedDay.val + 1
  runs : db'.runs.rows = db.runs.rows.map fun r =>
    if r.runId = run.runId then r.executed nextDay remaining.text spent.text else r
  rows : db'.states.rows = db.states.rows.map g
  each : ∀ s ∈ db.states.rows,
    ExecutedState run state node completedDay remaining db db' s (g s)
  failures : db'.failures = db.failures
  nodes : db'.plan.nodes = db.plan.nodes
  dependencies : db'.plan.dependencies = db.plan.dependencies

theorem positiveInt_store_ok {i : Int} {n : PositiveInt} (h : PositiveInt.store i = .ok n) :
    (n.val : Int) = i := by
  unfold PositiveInt.store at h
  split at h
  · obtain rfl := Except.ok.inj h
    simp only
    omega
  · cases h

theorem completeSimulationNode_ok {state : PlanNodeRunState} (hstate : state ∈ db.states.rows)
    (h : completeSimulationNode lang draws now run state node db = .ok () db') :
    ∃ completedDay nextDay remaining spent g,
      Execution lang run state node completedDay nextDay remaining spent g db db' := by
  obtain ⟨remaining, hremaining, h⟩ := attempt_bind_ok.1 h
  obtain ⟨spent, hspent, h⟩ := attempt_bind_ok.1 h
  obtain ⟨completedDay, hcompleted, h⟩ := attempt_bind_ok.1 h
  obtain ⟨_, db₁, hsave, h⟩ := run_bind_ok.1 h
  obtain rfl := pure_eq_ok.1 (run_update_ok.1 hsave)
  obtain ⟨nextDay, hnext, h⟩ := attempt_bind_ok.1 h
  obtain ⟨_, db₂, hrun, h⟩ := run_bind_ok.1 h
  obtain rfl := pure_eq_ok.1 (run_update_ok.1 hrun)
  obtain ⟨_, db₃, hclimb, h⟩ := run_bind_ok.1 h
  have hlog := sameProgress_turnAndEvent h
  rw [markParentStagesCompletedIfReady, run_get_bind] at hclimb
  obtain ⟨g, hg⟩ := markParents_ok hclimb
  have hduration : 1 ≤ nodeDuration node := le_max_left _ _
  have hcompletedDay := positiveInt_store_ok hcompleted
  have hnextDay := positiveInt_store_ok hnext
  refine ⟨completedDay, nextDay, remaining, spent, g ∘ fun s => if s.stateId = state.stateId then
    executed node run.currentDay completedDay remaining s else s, hremaining, hspent, by omega,
    by omega, ?_, ?_, ?_, ?_, ?_, ?_⟩
  · rw [hlog.runs, hg.only]
    rfl
  · rw [hlog.states, hg.rows, ← List.map_map]
    rfl
  · intro s hs
    have heach := hg.each _ (List.mem_map_of_mem hs)
    have hchildren : ∀ p, childrenDone db₃ run.runId p = true →
        childrenDone db' run.runId p = true := by
      intro p hp
      rw [← hp]
      unfold childrenDone childStates
      rw [hlog.states, hlog.nodes]
    simp only [Function.comp_apply]
    by_cases hid : s.stateId = state.stateId
    · obtain rfl := db.states.eq_of_pk hs hstate hid
      rw [if_pos rfl] at heach ⊢
      generalize g (executed node run.currentDay completedDay remaining s) = t at heach
      cases heach with
      | kept => exact .executed rfl
      | completed p ofRun unfinished begins above children => exact absurd rfl unfinished
    · have hother : s ≠ state := fun heq => hid (heq ▸ rfl)
      rw [if_neg hid] at heach ⊢
      generalize g s = t at heach
      cases heach with
      | kept => exact .kept hother
      | completed p ofRun unfinished begins above children =>
        exact .completed p hother ofRun unfinished begins above (hchildren _ children)
  · rw [hlog.failures, hg.only]
  · rw [hlog.nodes, hg.only]
  · rw [hlog.dependencies, hg.only]

/-! ## Calls -/

/-- The row of a run that has failed. -/
def SimulationRun.stopped (status : RunStatus) (now : Nat) (summary : String) (r : SimulationRun) :
    SimulationRun :=
  { r with status := status, endedAt := some now, failureSummary := summary }

/-- The failure that is recorded for a node. -/
structure FailureOf (run : SimulationRun) (node : PlanNode) (data : FailureData)
    (failure : SimulationFailure) : Prop where
  run : failure.run = run.runId
  planNode : failure.planNode = node.nodeId
  failureType : failure.failureType = data.failureType
  metadata : failure.metadata = data.metadata

/-- What a call does to the run, its states and the plan. -/
inductive Step (lang : Language) (runId : String) (call : AdvanceCall) (db db' : SimDb) : Prop
  | settled (run : SimulationRun) (row : db.runs.get? runId = some run)
    (status : run.status = .failed ∨ run.status = .completed) (same : SameProgress db db')
  | finished (run : SimulationRun) (row : db.runs.get? runId = some run)
    (status : ¬ (run.status = .failed ∨ run.status = .completed)) (ensured : SimDb)
    (states : Ensured run (nodesOf db run.planRevision) db ensured)
    (next : nextExecutableState ensured runId = none)
    (runs : db'.runs.rows = db.runs.rows.map fun r =>
      if r.runId = runId then r.stopped .completed call.now "" else r)
    (same : SameProgress { ensured with runs := db'.runs } db')
  | failed (run : SimulationRun) (row : db.runs.get? runId = some run)
    (status : ¬ (run.status = .failed ∨ run.status = .completed)) (ensured : SimDb)
    (states : Ensured run (nodesOf db run.planRevision) db ensured)
    (state : PlanNodeRunState) (node : PlanNode)
    (next : nextExecutableState ensured runId = some (state, node)) (data : FailureData)
    (infeasible : feasibilityFailureForNode lang ensured call.resources run node = .ok (some data))
    (ids : String × String)
    (fails : failSimulationNode lang call.draws call.now run state node data ensured = .ok ids db')
    (runs : db'.runs.rows = db.runs.rows.map fun r =>
      if r.runId = runId then r.stopped .failed call.now data.description else r)
    (rows : db'.states.rows = ensured.states.rows.map fun s =>
      if s.stateId = state.stateId then Simulation.failed run data s else s)
    (failure : SimulationFailure) (failures : db'.failures.rows = db.failures.rows ++ [failure])
    (about : FailureOf run node data failure)
    (nodes : db'.plan.nodes = db.plan.nodes)
    (dependencies : db'.plan.dependencies = db.plan.dependencies)
  | executed (run : SimulationRun) (row : db.runs.get? runId = some run)
    (status : ¬ (run.status = .failed ∨ run.status = .completed)) (ensured : SimDb)
    (states : Ensured run (nodesOf db run.planRevision) db ensured)
    (state : PlanNodeRunState) (node : PlanNode)
    (next : nextExecutableState ensured runId = some (state, node))
    (feasible : feasibilityFailureForNode lang ensured call.resources run node = .ok none)
    (completedDay nextDay : PositiveInt) (remaining spent : Decimal)
    (g : PlanNodeRunState → PlanNodeRunState)
    (execution : Execution lang run state node completedDay nextDay remaining spent g ensured db')

theorem failSimulationNode_ok {state : PlanNodeRunState} {data : FailureData}
    {ids : String × String}
    (h : failSimulationNode lang draws now run state node data db = .ok ids db') :
    db'.runs.rows = (db.runs.rows.map fun r =>
      if r.runId = run.runId then r.stopped .failed now data.description else r) ∧
    db'.states.rows = (db.states.rows.map fun s =>
      if s.stateId = state.stateId then failed run data s else s) ∧
    (∃ failure, FailureOf run node data failure ∧
      db'.failures.rows = db.failures.rows ++ [failure]) ∧
    db'.plan.nodes = db.plan.nodes ∧ db'.plan.dependencies = db.plan.dependencies := by
  obtain ⟨_, db₁, hsave, h⟩ := run_bind_ok.1 h
  obtain rfl := pure_eq_ok.1 (run_update_ok.1 hsave)
  obtain ⟨_, db₂, hrun, h⟩ := run_bind_ok.1 h
  obtain rfl := pure_eq_ok.1 (run_update_ok.1 hrun)
  rw [run_get_bind] at h
  obtain ⟨failureId, -, h⟩ := attempt_bind_ok.1 h
  obtain ⟨title, -, h⟩ := attempt_bind_ok.1 h
  obtain ⟨_, db₃, hfailure, h⟩ := run_bind_ok.1 h
  obtain ⟨failures, hinserted, hfailure⟩ := bind_eq_ok.1 (run_update_ok.1 hfailure)
  obtain rfl := pure_eq_ok.1 hfailure
  rw [run_get_bind] at h
  obtain ⟨proposalId, -, h⟩ := attempt_bind_ok.1 h
  obtain ⟨title, -, h⟩ := attempt_bind_ok.1 h
  obtain ⟨_, db₄, hproposal, h⟩ := run_bind_ok.1 h
  obtain ⟨proposals, -, hproposal⟩ := bind_eq_ok.1 (run_update_ok.1 hproposal)
  obtain rfl := pure_eq_ok.1 hproposal
  obtain ⟨changeSetId, db₅, hchangeSet, h⟩ := run_bind_ok.1 h
  have hfeedback := sameProgress_createPlanChangeSet hchangeSet
  obtain ⟨_, db₆, hlog, h⟩ := run_bind_ok.1 h
  have hlog := sameProgress_turnAndEvent hlog
  obtain ⟨-, rfl⟩ := by simpa using h
  have hall := hfeedback.trans hlog
  exact ⟨by rw [hall.runs]; rfl, by rw [hall.states]; rfl,
    ⟨_, ⟨rfl, rfl, rfl, rfl⟩, by rw [hall.failures]; exact (Table.insert_ok hinserted).1⟩,
    by rw [hall.nodes], by rw [hall.dependencies]⟩

/-- **Calls.** -/
theorem advance_ok {call : AdvanceCall} {result : Advance}
    (h : advancePlanSimulationRun lang runId call db = .ok result db') :
    Step lang runId call db db' := by
  rw [advancePlanSimulationRun, run_atomic_ok, run_get_bind] at h
  cases hrun : db.runs.get? runId with
  | none =>
    simp only [hrun] at h
    cases h
  | some run =>
    simp only [hrun] at h
    have hid : run.runId = runId := (Table.get?_eq_some.1 hrun).2
    by_cases hstatus : run.status = .failed ∨ run.status = .completed
    · rw [if_pos hstatus] at h
      obtain ⟨-, rfl⟩ := by simpa using h
      exact .settled run hrun hstatus (.refl db)
    · rw [if_neg hstatus] at h
      obtain ⟨_, ensured, hensure, h⟩ := run_bind_ok.1 h
      rw [ensurePlanNodeRunStates, run_get_bind] at hensure
      have hstates := ensureStates_ok hensure
      have hruns : ensured.runs = db.runs := by rw [hstates.only]
      have hplan : ensured.plan = db.plan := by rw [hstates.only]
      rw [run_get_bind] at h
      cases hnext : nextExecutableState ensured runId with
      | none =>
        simp only [hnext] at h
        obtain ⟨_, finished, hfinish, h⟩ := run_bind_ok.1 h
        obtain ⟨-, rfl⟩ := by simpa using h
        obtain ⟨_, saved, hsave, hlog⟩ := run_bind_ok.1 hfinish
        obtain rfl := pure_eq_ok.1 (run_update_ok.1 hsave)
        have hlog := sameProgress_turnAndEvent hlog
        refine .finished run hrun hstatus ensured hstates hnext ?_
          ⟨rfl, hlog.states, hlog.failures, hlog.nodes, hlog.dependencies⟩
        rw [hlog.runs, ← hruns, ← hid]
        rfl
      | some pair =>
        obtain ⟨state, node⟩ := pair
        simp only [hnext] at h
        obtain ⟨failure, hfailure, h⟩ := attempt_bind_ok.1 h
        cases failure with
        | some data =>
          obtain ⟨ids, failed, hfail, h⟩ := run_bind_ok.1 h
          obtain ⟨-, rfl⟩ := by simpa using h
          obtain ⟨hfailedRuns, hfailedStates, ⟨record, habout, hfailures⟩, hnodes, hdependencies⟩ :=
            failSimulationNode_ok hfail
          exact .failed run hrun hstatus ensured hstates state node hnext data hfailure ids hfail
            (by rw [hfailedRuns, hruns, hid]) hfailedStates record
            (by rw [hfailures, hstates.only]) habout (by rw [hnodes, hplan])
            (by rw [hdependencies, hplan])
        | none =>
          obtain ⟨_, completed, hcomplete, h⟩ := run_bind_ok.1 h
          obtain ⟨-, rfl⟩ := by simpa using h
          obtain ⟨completedDay, nextDay, remaining, spent, g, hexecution⟩ :=
            completeSimulationNode_ok (nextExecutableState_some hnext).mem hcomplete
          exact .executed run hrun hstatus ensured hstates state node hnext hfailure completedDay
            nextDay remaining spent g hexecution

end LiveOs.Simulation
