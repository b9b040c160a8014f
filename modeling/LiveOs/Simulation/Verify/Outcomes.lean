import LiveOs.Simulation.Engine
import LiveOs.Simulation.Verify.Generated
import LiveOs.Simulation.Verify.Runs

/-!
# How a run ends

A turn finishes the run, fails a node or executes one. The completion of a run is a turn of its own,
so a run whose nodes use up the limit is paused although no node is left.
-/

namespace LiveOs.Simulation

open Lib Planning
open Procurement (PyDecimal)

variable {lang : Language} {db db' : SimDb} {draws : Draws} {now : Nat} {run : SimulationRun}
  {runId : String} {node : PlanNode}

/-! ## What a turn writes besides the progress -/

/-- The same failures, proposals and plan. -/
structure SameFeedback (db db' : SimDb) : Prop where
  failures : db'.failures = db.failures
  proposals : db'.proposals = db.proposals
  plan : db'.plan = db.plan

theorem SameFeedback.trans {a b c : SimDb} (h : SameFeedback a b) (h' : SameFeedback b c) :
    SameFeedback a c :=
  ⟨h'.failures.trans h.failures, h'.proposals.trans h.proposals, h'.plan.trans h.plan⟩

/-- The log writes turns and events. -/
theorem only_turnAndEvent {run title summary : String} {simulationDay : PositiveInt}
    {severity eventType : String} {payload : List (String × Json)}
    (h : createSimulationTurnAndEvent draws now run title summary simulationDay severity eventType
      payload db = .ok () db') : db' = { db with turns := db'.turns, events := db'.events } := by
  rw [createSimulationTurnAndEvent, run_get_bind] at h
  obtain ⟨turnId, -, h⟩ := attempt_bind_ok.1 h
  obtain ⟨turnNumber, -, h⟩ := attempt_bind_ok.1 h
  obtain ⟨_, db₁, hturn, h⟩ := run_bind_ok.1 h
  obtain ⟨turns, -, hturn⟩ := bind_eq_ok.1 (run_update_ok.1 hturn)
  obtain rfl := pure_eq_ok.1 hturn
  rw [run_get_bind] at h
  obtain ⟨eventId, -, h⟩ := attempt_bind_ok.1 h
  obtain ⟨title, -, h⟩ := attempt_bind_ok.1 h
  obtain ⟨events, -, h⟩ := bind_eq_ok.1 (run_update_ok.1 h)
  obtain rfl := pure_eq_ok.1 h
  rfl

theorem sameFeedback_turnAndEvent {run title summary : String} {simulationDay : PositiveInt}
    {severity eventType : String} {payload : List (String × Json)}
    (h : createSimulationTurnAndEvent draws now run title summary simulationDay severity eventType
      payload db = .ok () db') : SameFeedback db db' := by
  rw [only_turnAndEvent h]
  exact ⟨rfl, rfl, rfl⟩

theorem completeSimulationNode_feedback {state : PlanNodeRunState}
    (h : completeSimulationNode lang draws now run state node db = .ok () db') :
    SameFeedback db db' := by
  obtain ⟨remaining, -, h⟩ := attempt_bind_ok.1 h
  obtain ⟨spent, -, h⟩ := attempt_bind_ok.1 h
  obtain ⟨completedDay, -, h⟩ := attempt_bind_ok.1 h
  obtain ⟨_, db₁, hsave, h⟩ := run_bind_ok.1 h
  obtain rfl := pure_eq_ok.1 (run_update_ok.1 hsave)
  obtain ⟨nextDay, -, h⟩ := attempt_bind_ok.1 h
  obtain ⟨_, db₂, hrun, h⟩ := run_bind_ok.1 h
  obtain rfl := pure_eq_ok.1 (run_update_ok.1 hrun)
  obtain ⟨_, db₃, hclimb, h⟩ := run_bind_ok.1 h
  rw [markParentStagesCompletedIfReady, run_get_bind] at hclimb
  obtain ⟨g, hg⟩ := markParents_ok hclimb
  refine SameFeedback.trans ?_ (sameFeedback_turnAndEvent h)
  rw [hg.only]
  exact ⟨rfl, rfl, rfl⟩

/-- The feedback on a failure. -/
theorem createPlanChangeSet_rows {proposal : PlanRevisionProposal} {failure : SimulationFailure}
    {id : String} (hnew : ∀ c ∈ db.plan.changeSets.rows, c.proposal ≠ proposal.proposalId)
    (h : createPlanChangeSetForProposal lang draws proposal node failure db = .ok id db') :
    db'.failures = db.failures ∧ db'.proposals = db.proposals ∧
      ∃ c, db'.plan.changeSets.rows = db.plan.changeSets.rows ++ [c] ∧ c.run = proposal.run := by
  rw [createPlanChangeSetForProposal, run_get_bind] at h
  have hfind : db.plan.changeSets.rows.find? (fun c => c.proposal = proposal.proposalId) = none :=
    List.find?_eq_none.2 fun c hc => by simpa using hnew c hc
  simp only [hfind] at h
  obtain ⟨changeSetId, -, h⟩ := attempt_bind_ok.1 h
  obtain ⟨title, -, h⟩ := attempt_bind_ok.1 h
  obtain ⟨_, db₁, hset, h⟩ := run_bind_ok.1 h
  obtain ⟨changeSets, hinsert, hset⟩ := bind_eq_ok.1 (run_update_ok.1 hset)
  obtain rfl := pure_eq_ok.1 hset
  obtain ⟨drafts, -, h⟩ := attempt_bind_ok.1 h
  obtain ⟨_, db₂, hops, h⟩ := run_bind_ok.1 h
  obtain ⟨rfl, rfl⟩ := by simpa using h
  obtain ⟨rows, -, -, -, -, -, honly⟩ := createOperations_ok hops
  rw [honly]
  exact ⟨rfl, rfl, _, (Table.insert_ok hinsert).1, rfl⟩

/-- One more failure, one more proposal and one more change set, all of the run. -/
structure OneFeedback (runId : String) (db db' : SimDb) : Prop where
  failure : ∃ f, db'.failures.rows = db.failures.rows ++ [f] ∧ f.run = runId
  proposal : ∃ p, db'.proposals.rows = db.proposals.rows ++ [p] ∧ p.run = runId
  changeSet : ∃ c, db'.plan.changeSets.rows = db.plan.changeSets.rows ++ [c] ∧ c.run = runId

theorem failSimulationNode_feedback {state : PlanNodeRunState} {data : FailureData}
    {ids : String × String} (hkeys : FeedbackKeys db)
    (h : failSimulationNode lang draws now run state node data db = .ok ids db') :
    OneFeedback run.runId db db' := by
  obtain ⟨_, db₁, hsave, h⟩ := run_bind_ok.1 h
  obtain rfl := pure_eq_ok.1 (run_update_ok.1 hsave)
  obtain ⟨_, db₂, hrun, h⟩ := run_bind_ok.1 h
  obtain rfl := pure_eq_ok.1 (run_update_ok.1 hrun)
  rw [run_get_bind] at h
  obtain ⟨failureId, -, h⟩ := attempt_bind_ok.1 h
  obtain ⟨title, -, h⟩ := attempt_bind_ok.1 h
  obtain ⟨_, db₃, hfailure, h⟩ := run_bind_ok.1 h
  obtain ⟨failures, hfailures, hfailure⟩ := bind_eq_ok.1 (run_update_ok.1 hfailure)
  obtain rfl := pure_eq_ok.1 hfailure
  rw [run_get_bind] at h
  obtain ⟨proposalId, -, h⟩ := attempt_bind_ok.1 h
  obtain ⟨proposalTitle, -, h⟩ := attempt_bind_ok.1 h
  obtain ⟨_, db₄, hproposal, h⟩ := run_bind_ok.1 h
  obtain ⟨proposals, hproposals, hproposal⟩ := bind_eq_ok.1 (run_update_ok.1 hproposal)
  obtain rfl := pure_eq_ok.1 hproposal
  obtain ⟨changeSetId, db₅, hchangeSet, h⟩ := run_bind_ok.1 h
  obtain ⟨_, db₆, hlog, h⟩ := run_bind_ok.1 h
  obtain ⟨rfl, rfl⟩ := by simpa using h
  have hlog := sameFeedback_turnAndEvent hlog
  obtain ⟨hfailed, hproposed, c, hc, hof⟩ := createPlanChangeSet_rows (by
    intro c hc heq
    obtain ⟨p, hp, hid⟩ := hkeys.changeSets c hc
    exact (Table.insert_ok hproposals).2.1 p hp (hid.trans heq)) hchangeSet
  obtain ⟨f, hf, hfrun⟩ : ∃ f, failures.rows = db.failures.rows ++ [f] ∧ f.run = run.runId :=
    ⟨_, (Table.insert_ok hfailures).1, rfl⟩
  obtain ⟨p, hp, hprun⟩ : ∃ p, proposals.rows = db.proposals.rows ++ [p] ∧ p.run = run.runId :=
    ⟨_, (Table.insert_ok hproposals).1, rfl⟩
  refine ⟨⟨f, ?_, hfrun⟩, ⟨p, ?_, hprun⟩, c, ?_, hof⟩
  · rw [hlog.failures, hfailed]
    exact hf
  · rw [hlog.proposals, hproposed]
    exact hp
  · rw [hlog.plan, hc]

/-! ## Turns -/

/-- What one turn does to a run that is not settled. -/
inductive Turn (lang : Language) (runId : String) (call : AdvanceCall) (run : SimulationRun)
    (db db' : SimDb) : Prop
  | finished (left : nextExecutableState db runId = none)
    (row : ∃ r, db'.runs.get? runId = some r ∧ r.status = .completed)
    (states : db'.states = db.states) (feedback : SameFeedback db db')
  | failed (state : PlanNodeRunState) (node : PlanNode) (data : FailureData)
    (next : nextExecutableState db runId = some (state, node))
    (infeasible : feasibilityFailureForNode lang db call.resources run node = .ok (some data))
    (row : ∃ r, db'.runs.get? runId = some r ∧ r.status = .failed)
    (feedback : OneFeedback runId db db')
  | executed (state : PlanNodeRunState) (node : PlanNode)
    (next : nextExecutableState db runId = some (state, node))
    (feasible : feasibilityFailureForNode lang db call.resources run node = .ok none)
    (row : ∃ r, db'.runs.get? runId = some r ∧ r.status = .running ∧
      r.planRevision = run.planRevision)
    (complete : AllStates db' runId run.planRevision) (feedback : SameFeedback db db')

theorem advance_turn {call : AdvanceCall} {result : Advance}
    (hrow : db.runs.get? runId = some run) (hopen : run.status.isSettled = false)
    (hall : AllStates db runId run.planRevision) (hkeys : FeedbackKeys db)
    (h : advancePlanSimulationRun lang runId call db = .ok result db') :
    result.advanced = true ∧ Turn lang runId call run db db' := by
  have hid : run.runId = runId := (Table.get?_eq_some.1 hrow).2
  have hstatus : ¬ (run.status = .failed ∨ run.status = .completed) := by
    rw [RunStatus.isSettled, Bool.or_eq_false_iff, decide_eq_false_iff_not,
      decide_eq_false_iff_not] at hopen
    exact fun h => h.elim hopen.1 hopen.2
  rw [advancePlanSimulationRun, run_atomic_ok, run_get_bind] at h
  simp only [hrow] at h
  rw [if_neg hstatus] at h
  obtain ⟨_, ensured, hensure, hrest⟩ := run_bind_ok.1 h
  clear h
  rw [ensurePlanNodeRunStates, run_get_bind] at hensure
  have hsame := (ensureStates_ok hensure).unchanged (by rwa [hid])
  subst hsame
  rw [run_get_bind] at hrest
  cases hnext : nextExecutableState ensured runId with
  | none =>
    simp only [hnext] at hrest
    obtain ⟨_, finished, hfinish, hrest⟩ := run_bind_ok.1 hrest
    obtain ⟨rfl, rfl⟩ := by simpa using hrest
    obtain ⟨_, saved, hsave, hlog⟩ := run_bind_ok.1 hfinish
    obtain rfl := pure_eq_ok.1 (run_update_ok.1 hsave)
    have hsame := sameProgress_turnAndEvent hlog
    have hfeedback := sameFeedback_turnAndEvent hlog
    refine ⟨rfl, .finished hnext ⟨_, run_after_write (f := fun r => { r with
        status := .completed, endedAt := some call.now, failureSummary := "" }) (fun _ => rfl) hrow
        ?_, rfl⟩ hsame.states ⟨hfeedback.failures, hfeedback.proposals, hfeedback.plan⟩⟩
    rw [hsame.runs, ← hid]
    rfl
  | some pair =>
    obtain ⟨state, node⟩ := pair
    simp only [hnext] at hrest
    obtain ⟨failure, hfailure, hrest⟩ := attempt_bind_ok.1 hrest
    cases failure with
    | some data =>
      obtain ⟨ids, failed, hfail, hrest⟩ := run_bind_ok.1 hrest
      obtain ⟨rfl, rfl⟩ := by simpa using hrest
      obtain ⟨hruns, -, -, -, -⟩ := failSimulationNode_ok hfail
      refine ⟨rfl, .failed state node data hnext hfailure ⟨_, run_after_write
        (f := fun r => r.stopped .failed call.now data.description) (fun _ => rfl) hrow ?_, rfl⟩
        (hid ▸ failSimulationNode_feedback hkeys hfail)⟩
      rw [hruns, hid]
    | none =>
      obtain ⟨_, completed, hcomplete, hrest⟩ := run_bind_ok.1 hrest
      obtain ⟨rfl, rfl⟩ := by simpa using hrest
      obtain ⟨completedDay, nextDay, remaining, spent, g, hexecution⟩ :=
        completeSimulationNode_ok (nextExecutableState_some hnext).mem hcomplete
      have hfeedback := completeSimulationNode_feedback hcomplete
      refine ⟨rfl, .executed state node hnext hfailure ⟨_, run_after_write
        (f := fun r => r.executed nextDay remaining.text spent.text) (fun _ => rfl) hrow ?_, rfl,
        rfl⟩ ?_ hfeedback⟩
      · rw [hexecution.runs, hid]
      · intro n hn
        rw [nodesOf, hfeedback.plan] at hn
        obtain ⟨s, hs⟩ := hall n hn
        exact ⟨g s, hexecution.mapped.stateOf? hs⟩

/-! ## Nodes that are left -/

/-- A required node that is no stage is left: its state is neither completed nor skipped. -/
def NodeLeft (db : SimDb) (runId : String) : Prop :=
  ∃ s ∈ db.states.rows, s.run = runId ∧ isDone s = false ∧
    ∃ n, db.plan.nodes.get? s.planNode = some n ∧ isExecutablePlanNode n = true

theorem nextExecutableState_eq_none : nextExecutableState db runId = none ↔ ¬ NodeLeft db runId := by
  have hperm : ∀ {xs : List (PlanNodeRunState × PlanNode)}, xs.Perm [] ↔ xs = [] :=
    List.perm_nil
  rw [nextExecutableState, List.head?_eq_none_iff, ← hperm]
  rw [(orderBy_perm _ _ _).congr_left, hperm, List.filterMap_eq_nil_iff]
  constructor
  · rintro hnone ⟨s, hs, hrun, hopen, n, hn, hexecutable⟩
    have hs := hnone s (List.mem_filter.2 ⟨hs, by simp [hrun, hopen]⟩)
    rw [hn, Option.bind_some, if_pos hexecutable] at hs
    cases hs
  · intro hnone s hs
    obtain ⟨hs, htest⟩ := List.mem_filter.1 hs
    simp only [Bool.and_eq_true, decide_eq_true_eq, Bool.not_eq_true'] at htest
    cases hn : db.plan.nodes.get? s.planNode with
    | none => rfl
    | some n =>
      rw [Option.bind_some, if_neg]
      exact fun hexecutable => hnone ⟨s, hs, htest.1, htest.2, n, hn, hexecutable⟩

/-! ## Executed turns -/

/-- Every one of the first turns executes a node, and the database is then the given one. -/
inductive Executes (lang : Language) (runId : String) (steps : Nat → AdvanceCall) (db : SimDb) :
    Nat → SimDb → Prop
  | start : Executes lang runId steps db 0 db
  | turn {k : Nat} {db₁ db₂ : SimDb} {run : SimulationRun} {state : PlanNodeRunState}
    {node : PlanNode} {result : Advance} (before : Executes lang runId steps db k db₁)
    (row : db₁.runs.get? runId = some run)
    (next : nextExecutableState db₁ runId = some (state, node))
    (feasible : feasibilityFailureForNode lang db₁ (steps k).resources run node = .ok none)
    (advance : advancePlanSimulationRun lang runId (steps k) db₁ = .ok result db₂) :
    Executes lang runId steps db (k + 1) db₂

/-- The next node fails a check. -/
def NextFails (lang : Language) (runId : String) (call : AdvanceCall) (db : SimDb) : Prop :=
  ∃ run state node data, db.runs.get? runId = some run ∧
    nextExecutableState db runId = some (state, node) ∧
    feasibilityFailureForNode lang db call.resources run node = .ok (some data)

/-- The next node passes its checks. -/
def NextPasses (lang : Language) (runId : String) (call : AdvanceCall) (db : SimDb) : Prop :=
  ∃ run state node, db.runs.get? runId = some run ∧
    nextExecutableState db runId = some (state, node) ∧
    feasibilityFailureForNode lang db call.resources run node = .ok none

theorem NextPasses.not_fails {call : AdvanceCall} (h : NextPasses lang runId call db) :
    ¬ NextFails lang runId call db := by
  rintro ⟨run', state', node', data, hrow', hnext', hfails⟩
  obtain ⟨run, state, node, hrow, hnext, hpasses⟩ := h
  obtain rfl := Option.some.inj (hrow.symm.trans hrow')
  obtain ⟨rfl, rfl⟩ := Prod.mk.inj (Option.some.inj (hnext.symm.trans hnext'))
  cases hpasses.symm.trans hfails

theorem NextPasses.left {call : AdvanceCall} (h : NextPasses lang runId call db) :
    NodeLeft db runId := by
  obtain ⟨run, state, node, -, hnext, -⟩ := h
  by_contra hnone
  rw [nextExecutableState_eq_none.2 hnone] at hnext
  cases hnext

theorem NextFails.left {call : AdvanceCall} (h : NextFails lang runId call db) :
    NodeLeft db runId := by
  obtain ⟨run, state, node, data, -, hnext, -⟩ := h
  by_contra hnone
  rw [nextExecutableState_eq_none.2 hnone] at hnext
  cases hnext

section

variable {steps : Nat → AdvanceCall} {db₁ db₂ : SimDb} {k m : Nat}

/-- The turns determine the database. -/
theorem Executes.unique (h : Executes lang runId steps db k db₁)
    (h' : Executes lang runId steps db k db₂) : db₁ = db₂ := by
  induction h generalizing db₂ with
  | start =>
    cases h'
    rfl
  | turn before row next feasible advance ih =>
    cases h' with
    | turn before' row' next' feasible' advance' =>
      obtain rfl := ih before'
      rw [advance] at advance'
      exact (EStateM.Result.ok.inj advance').2

/-- Before the last of the turns the next node passes its checks. -/
theorem Executes.passes (h : Executes lang runId steps db m db₂) (hk : k < m) :
    ∃ db₁, Executes lang runId steps db k db₁ ∧ NextPasses lang runId (steps k) db₁ := by
  induction h with
  | start => exact absurd hk (Nat.not_lt_zero k)
  | turn before row next feasible advance ih =>
    rcases Nat.lt_succ_iff_lt_or_eq.1 hk with hk | rfl
    · exact ih hk
    · exact ⟨_, before, _, _, _, row, next, feasible⟩

/-- A turn at which no node passes is the last one that is reached. -/
theorem Executes.last (h : Executes lang runId steps db k db₁)
    (hstop : ¬ NextPasses lang runId (steps k) db₁) (h' : Executes lang runId steps db m db₂) :
    m ≤ k := by
  by_contra hlt
  obtain ⟨db₃, hex, hpasses⟩ := h'.passes (Nat.lt_of_not_le hlt)
  obtain rfl := hex.unique h
  exact hstop hpasses

end

/-! ## The three ends -/

/-- A turn within the limit finds no node left. -/
def FinishesWithin (lang : Language) (runId : String) (steps : Nat → AdvanceCall) (db : SimDb)
    (limit : Nat) : Prop :=
  ∃ k < limit, ∃ db', Executes lang runId steps db k db' ∧ ¬ NodeLeft db' runId

/-- A turn within the limit finds that the next node fails a check. -/
def FailsWithin (lang : Language) (runId : String) (steps : Nat → AdvanceCall) (db : SimDb)
    (limit : Nat) : Prop :=
  ∃ k < limit, ∃ db', Executes lang runId steps db k db' ∧ NextFails lang runId (steps k) db'

/-- Every turn within the limit executes a node. -/
def UsesUp (lang : Language) (runId : String) (steps : Nat → AdvanceCall) (db : SimDb)
    (limit : Nat) : Prop :=
  ∃ db', Executes lang runId steps db limit db'

section

variable {steps : Nat → AdvanceCall} {limit : Nat}

theorem FinishesWithin.not_fails (h : FinishesWithin lang runId steps db limit) :
    ¬ FailsWithin lang runId steps db limit := by
  obtain ⟨k, -, db₁, hk, hnone⟩ := h
  rintro ⟨m, -, db₂, hm, hfails⟩
  have hmk := hk.last (fun hpasses => hnone hpasses.left) hm
  have hkm := hm.last (fun hpasses => hpasses.not_fails hfails) hk
  obtain rfl := Nat.le_antisymm hmk hkm
  obtain rfl := hk.unique hm
  exact hnone hfails.left

theorem FinishesWithin.not_usesUp (h : FinishesWithin lang runId steps db limit) :
    ¬ UsesUp lang runId steps db limit := by
  obtain ⟨k, hlimit, db₁, hk, hnone⟩ := h
  rintro ⟨db₂, hall⟩
  exact absurd (hk.last (fun hpasses => hnone hpasses.left) hall) (Nat.not_le_of_lt hlimit)

theorem FailsWithin.not_usesUp (h : FailsWithin lang runId steps db limit) :
    ¬ UsesUp lang runId steps db limit := by
  obtain ⟨k, hlimit, db₁, hk, hfails⟩ := h
  rintro ⟨db₂, hall⟩
  exact absurd (hk.last (fun hpasses => hpasses.not_fails hfails) hall) (Nat.not_le_of_lt hlimit)

end

/-! ## The loop -/

theorem refreshed_of_row (h : db.runs.get? runId = some run) :
    refreshed runId db = .ok run db := by
  rw [refreshed, run_get_bind]
  simp only [h]
  rfl

/-- A run between two turns of the loop. -/
structure Ongoing (runId : String) (db₁ db : SimDb) (run : SimulationRun) (k : Nat) : Prop where
  row : db.runs.get? runId = some run
  status : run.status = .draft ∨ run.status = .running
  running : 0 < k → run.status = .running
  complete : AllStates db runId run.planRevision
  feedback : SameFeedback db₁ db

theorem Ongoing.not_settled {db₁ : SimDb} {k : Nat} (h : Ongoing runId db₁ db run k) :
    run.status.isSettled = false ∧ (run.status.isSettled || run.status = .paused) = false := by
  rcases h.status with hstatus | hstatus <;> rw [hstatus] <;> exact ⟨rfl, rfl⟩

theorem FeedbackKeys.of_same {db₁ : SimDb} (h : FeedbackKeys db₁) (hsame : SameFeedback db₁ db) :
    FeedbackKeys db := by
  constructor
  · rw [hsame.plan]
    exact h.operations
  · rw [hsame.plan, hsame.proposals]
    exact h.changeSets

/-- How the loop ends. -/
inductive LoopEnd (lang : Language) (runId : String) (steps : Nat → AdvanceCall) (db₁ : SimDb)
    (limit turnsRun : Nat) (db' : SimDb) : Prop
  | finished (row : ∃ r, db'.runs.get? runId = some r ∧ r.status = .completed)
    (within : FinishesWithin lang runId steps db₁ limit) (left : ¬ NodeLeft db' runId)
    (feedback : SameFeedback db₁ db')
  | failed (row : ∃ r, db'.runs.get? runId = some r ∧ r.status = .failed)
    (within : FailsWithin lang runId steps db₁ limit) (feedback : OneFeedback runId db₁ db')
  | usedUp (row : ∃ r, db'.runs.get? runId = some r ∧ (0 < limit → r.status = .running))
    (turns : turnsRun = limit) (all : Executes lang runId steps db₁ limit db')
    (feedback : SameFeedback db₁ db')

theorem NodeLeft.of_same (h : NodeLeft db' runId) (hstates : db'.states = db.states)
    (hplan : db'.plan = db.plan) : NodeLeft db runId := by
  rw [NodeLeft, hstates, hplan] at h
  exact h

/-- **The loop.** Each turn finishes the run, fails a node or goes on to the next turn. -/
theorem advanceLoop_returns {steps : Nat → AdvanceCall} {db₁ : SimDb} {limit : Nat}
    (hkeys : FeedbackKeys db₁)
    (hreturns : ∀ k < limit, ∀ db, Executes lang runId steps db₁ k db →
      ∃ result db', advancePlanSimulationRun lang runId (steps k) db = .ok result db')
    {rest k : Nat} (hlimit : k + rest = limit) (hex : Executes lang runId steps db₁ k db)
    (hongoing : Ongoing runId db₁ db run k) (latest : Advance) :
    ∃ turnsRun last db', advanceLoop lang runId limit steps (rest + 1) k k latest db =
      .ok (turnsRun, last) db' ∧ LoopEnd lang runId steps db₁ limit turnsRun db' := by
  induction rest generalizing k db run latest with
  | zero =>
    obtain rfl : k = limit := hlimit
    refine ⟨k, latest, db, ?_, .usedUp ⟨run, hongoing.row, hongoing.running⟩ rfl hex
      hongoing.feedback⟩
    rw [advanceLoop, if_pos le_rfl]
    rfl
  | succ rest ih =>
    have hlt : k < limit := by omega
    have hnot : ¬ (limit : Int) ≤ (k : Int) := by omega
    obtain ⟨hsettled, hstopped⟩ := hongoing.not_settled
    obtain ⟨result, db₂, hadvance⟩ := hreturns k hlt db hex
    obtain ⟨hadvanced, hturn⟩ := advance_turn hongoing.row hsettled hongoing.complete
      (hkeys.of_same hongoing.feedback) hadvance
    -- the loop up to the check after the turn
    have hloop : ∀ r, db₂.runs.get? runId = some r →
        advanceLoop lang runId limit steps (rest + 1 + 1) k k latest db =
          (if r.status.isSettled then (pure (k + 1, result) : SimM (Nat × Advance))
            else advanceLoop lang runId limit steps (rest + 1) (k + 1) (k + 1) result) db₂ := by
      intro r hr
      rw [advanceLoop, if_neg hnot, run_bind_of_ok (refreshed_of_row hongoing.row),
        if_neg (by rw [hstopped]; exact Bool.false_ne_true), run_bind_of_ok hadvance,
        if_pos hadvanced, run_bind_of_ok (refreshed_of_row hr)]
    cases hturn with
    | finished left row states feedback =>
      obtain ⟨r, hr, hstatus⟩ := row
      refine ⟨k + 1, result, db₂, ?_, .finished ⟨r, hr, hstatus⟩
        ⟨k, hlt, db, hex, nextExecutableState_eq_none.1 left⟩ ?_
        (hongoing.feedback.trans feedback)⟩
      · rw [hloop r hr, hstatus]
        rfl
      · exact fun h => nextExecutableState_eq_none.1 left (h.of_same states feedback.plan)
    | failed state node data next infeasible row feedback =>
      obtain ⟨r, hr, hstatus⟩ := row
      refine ⟨k + 1, result, db₂, ?_, .failed ⟨r, hr, hstatus⟩
        ⟨k, hlt, db, hex, run, state, node, data, hongoing.row, next, infeasible⟩ ?_⟩
      · rw [hloop r hr, hstatus]
        rfl
      · obtain ⟨⟨f, hf, hfrun⟩, ⟨p, hp, hprun⟩, c, hc, hcrun⟩ := feedback
        have hsame := hongoing.feedback
        exact ⟨⟨f, by rw [hf, hsame.failures], hfrun⟩, ⟨p, by rw [hp, hsame.proposals], hprun⟩, c,
          by rw [hc, hsame.plan], hcrun⟩
    | executed state node next feasible row complete feedback =>
      obtain ⟨r, hr, hstatus, hrevision⟩ := row
      have hsettled' : ¬ r.status.isSettled = true := by
        rw [hstatus]
        exact Bool.false_ne_true
      have hnext : Ongoing runId db₁ db₂ r (k + 1) :=
        ⟨hr, .inr hstatus, fun _ => hstatus, by rw [hrevision]; exact complete,
          hongoing.feedback.trans feedback⟩
      rw [hloop r hr, if_neg hsettled']
      exact ih (by omega) (.turn hex hongoing.row next feasible hadvance) hnext result

/-! ## The end of a run -/

/-- A pause at the limit. -/
theorem pauseSimulationRunAtLimit_ok (hrow : db.runs.get? runId = some run)
    (h : pauseSimulationRunAtLimit draws now run db = .ok () db') :
    (∃ r, db'.runs.get? runId = some r ∧ r.status = .paused) ∧ SameFeedback db db' := by
  have hid : run.runId = runId := (Table.get?_eq_some.1 hrow).2
  obtain ⟨_, saved, hsave, hlog⟩ := run_bind_ok.1 h
  obtain rfl := pure_eq_ok.1 (run_update_ok.1 hsave)
  have hsame := sameProgress_turnAndEvent hlog
  have hfeedback := sameFeedback_turnAndEvent hlog
  refine ⟨⟨_, run_after_write (f := fun r => { r with
    status := .paused, endedAt := some now }) (fun _ => rfl) hrow ?_, rfl⟩,
    hfeedback.failures, hfeedback.proposals, hfeedback.plan⟩
  rw [hsame.runs, ← hid]
  rfl

/-- No step of the loop raises, nor does the pause. -/
structure StepsReturn (lang : Language) (runId : String) (call : UntilCall) (limit : Nat)
    (db₁ : SimDb) : Prop where
  advance : ∀ k < limit, ∀ db, Executes lang runId call.steps db₁ k db →
    ∃ result db', advancePlanSimulationRun lang runId (call.steps k) db = .ok result db'
  pause : ∀ db run, Executes lang runId call.steps db₁ limit db →
    db.runs.get? runId = some run →
    ∃ db', pauseSimulationRunAtLimit call.pauseDraws call.pauseNow run db = .ok () db'

/-- Failures, proposals and change sets belong to runs. -/
structure RunKeys (db : SimDb) : Prop where
  failures : ∀ f ∈ db.failures.rows, ∃ r ∈ db.runs.rows, r.runId = f.run
  proposals : ∀ p ∈ db.proposals.rows, ∃ r ∈ db.runs.rows, r.runId = p.run
  changeSets : ∀ c ∈ db.plan.changeSets.rows, ∃ r ∈ db.runs.rows, r.runId = c.run

/-- How many failures, proposals and change sets a run has. -/
structure FeedbackCount (db : SimDb) (runId : String) (n : Nat) : Prop where
  failures : db.failures.rows.countP (fun f => f.run = runId) = n
  proposals : db.proposals.rows.countP (fun p => p.run = runId) = n
  changeSets : db.plan.changeSets.rows.countP (fun c => c.run = runId) = n

theorem FeedbackCount.of_same {n : Nat} {db₁ : SimDb} (h : FeedbackCount db₁ runId n)
    (hsame : SameFeedback db₁ db) : FeedbackCount db runId n := by
  refine ⟨?_, ?_, ?_⟩
  · rw [hsame.failures]
    exact h.failures
  · rw [hsame.proposals]
    exact h.proposals
  · rw [hsame.plan]
    exact h.changeSets

theorem FeedbackCount.of_one {n : Nat} {db₁ : SimDb} (h : FeedbackCount db₁ runId n)
    (hone : OneFeedback runId db₁ db) : FeedbackCount db runId (n + 1) := by
  obtain ⟨⟨f, hf, hfrun⟩, ⟨p, hp, hprun⟩, c, hc, hcrun⟩ := hone
  refine ⟨?_, ?_, ?_⟩
  · rw [hf, List.countP_append, h.failures, List.countP_singleton]
    simp [hfrun]
  · rw [hp, List.countP_append, h.proposals, List.countP_singleton]
    simp [hprun]
  · rw [hc, List.countP_append, h.changeSets, List.countP_singleton]
    simp [hcrun]

/-- A run that was just created. -/
theorem createSimulationRun_fresh {draws : Draws} {snapshot : WorldSnapshot}
    {planRevision : RevisionId} {maxTurns : Int} {now : Nat} {db₁ : SimDb} (hkeys : RunKeys db)
    (h : createSimulationRun draws snapshot planRevision maxTurns now db = .ok runId db₁) :
    SameFeedback db db₁ ∧ FeedbackCount db₁ runId 0 ∧
      ∃ run, db₁.runs.get? runId = some run ∧ run.status = .draft ∧
        AllStates db₁ runId run.planRevision := by
  obtain ⟨run, hcreated⟩ := createSimulationRun_ok h
  have hdraft : SameFeedback db db₁ ∧ ∃ run, db₁.runs.get? runId = some run ∧
      run.status = .draft := by
    rw [createSimulationRun, run_atomic_ok] at h
    by_cases hturns : maxTurns ≤ 0
    · rw [if_pos hturns] at h
      cases h
    rw [if_neg hturns] at h
    obtain ⟨id, -, h⟩ := attempt_bind_ok.1 h
    obtain ⟨turns, -, h⟩ := attempt_bind_ok.1 h
    obtain ⟨_, created, hcreate, h⟩ := run_bind_ok.1 h
    obtain ⟨runs, hruns, hcreate⟩ := bind_eq_ok.1 (run_update_ok.1 hcreate)
    obtain rfl := pure_eq_ok.1 hcreate
    obtain ⟨_, ensured, hensure, h⟩ := run_bind_ok.1 h
    obtain ⟨rfl, rfl⟩ := by simpa using h
    rw [ensurePlanNodeRunStates, run_get_bind] at hensure
    have honly := (ensureStates_ok hensure).only
    rw [honly]
    exact ⟨⟨rfl, rfl, rfl⟩, _, get?_inserted hruns, rfl⟩
  obtain ⟨hsame, run', hrow', hstatus⟩ := hdraft
  obtain rfl := Option.some.inj (hcreated.row.symm.trans hrow')
  have hcount : FeedbackCount db runId 0 := by
    refine ⟨?_, ?_, ?_⟩ <;> rw [List.countP_eq_zero] <;> intro x hx hrun
    · obtain ⟨r, hr, hid⟩ := hkeys.failures x hx
      exact hcreated.fresh r hr (hid.trans (of_decide_eq_true hrun))
    · obtain ⟨r, hr, hid⟩ := hkeys.proposals x hx
      exact hcreated.fresh r hr (hid.trans (of_decide_eq_true hrun))
    · obtain ⟨r, hr, hid⟩ := hkeys.changeSets x hx
      exact hcreated.fresh r hr (hid.trans (of_decide_eq_true hrun))
  refine ⟨hsame, hcount.of_same hsame, run, hrow', hstatus, ?_⟩
  rw [hcreated.revision]
  exact hcreated.complete

/-- How `run_simulation_until_failure` leaves a run. -/
structure UntilOutcome (lang : Language) (runId : String) (steps : Nat → AdvanceCall) (limit : Nat)
    (db₁ db' : SimDb) (run : SimulationRun) : Prop where
  row : db'.runs.get? runId = some run
  ended : run.status = .completed ∨ run.status = .failed ∨ run.status = .paused
  completed_iff : run.status = .completed ↔ FinishesWithin lang runId steps db₁ limit
  failed_iff : run.status = .failed ↔ FailsWithin lang runId steps db₁ limit
  paused_iff : run.status = .paused ↔ UsesUp lang runId steps db₁ limit
  /-- A completed run has no node left. -/
  left : run.status = .completed → ¬ NodeLeft db' runId
  /-- A failed run has one failure, one proposal and one change set. -/
  feedback : FeedbackCount db' runId (if run.status = .failed then 1 else 0)

section

variable {steps : Nat → AdvanceCall} {limit : Nat} {db₁ : SimDb}

theorem UntilOutcome.of_finished (hrow : db'.runs.get? runId = some run)
    (hstatus : run.status = .completed) (hwithin : FinishesWithin lang runId steps db₁ limit)
    (hleft : ¬ NodeLeft db' runId) (hcount : FeedbackCount db' runId 0) :
    UntilOutcome lang runId steps limit db₁ db' run where
  row := hrow
  ended := .inl hstatus
  completed_iff := iff_of_true hstatus hwithin
  failed_iff := iff_of_false (by rw [hstatus]; decide) hwithin.not_fails
  paused_iff := iff_of_false (by rw [hstatus]; decide) hwithin.not_usesUp
  left := fun _ => hleft
  feedback := by
    rw [if_neg (by rw [hstatus]; decide)]
    exact hcount

theorem UntilOutcome.of_failed (hrow : db'.runs.get? runId = some run)
    (hstatus : run.status = .failed) (hwithin : FailsWithin lang runId steps db₁ limit)
    (hcount : FeedbackCount db' runId 1) : UntilOutcome lang runId steps limit db₁ db' run where
  row := hrow
  ended := .inr (.inl hstatus)
  completed_iff := iff_of_false (by rw [hstatus]; decide) fun h => h.not_fails hwithin
  failed_iff := iff_of_true hstatus hwithin
  paused_iff := iff_of_false (by rw [hstatus]; decide) hwithin.not_usesUp
  left := fun h => by
    rw [hstatus] at h
    cases h
  feedback := by
    rw [if_pos hstatus]
    exact hcount

theorem UntilOutcome.of_usedUp (hrow : db'.runs.get? runId = some run)
    (hstatus : run.status = .paused) (hall : UsesUp lang runId steps db₁ limit)
    (hcount : FeedbackCount db' runId 0) : UntilOutcome lang runId steps limit db₁ db' run where
  row := hrow
  ended := .inr (.inr hstatus)
  completed_iff := iff_of_false (by rw [hstatus]; decide) fun h => h.not_usesUp hall
  failed_iff := iff_of_false (by rw [hstatus]; decide) fun h => h.not_usesUp hall
  paused_iff := iff_of_true hstatus hall
  left := fun h => by
    rw [hstatus] at h
    cases h
  feedback := by
    rw [if_neg (by rw [hstatus]; decide)]
    exact hcount

/-- What follows the loop. -/
theorem pauseAtLimit_returns {call : UntilCall} {turnsRun : Nat} (hlimit : 0 < limit)
    (hcount : FeedbackCount db₁ runId 0)
    (hpause : ∀ db run, Executes lang runId call.steps db₁ limit db →
      db.runs.get? runId = some run →
      ∃ db', pauseSimulationRunAtLimit call.pauseDraws call.pauseNow run db = .ok () db')
    (h : LoopEnd lang runId call.steps db₁ limit turnsRun db) :
    ∃ run db', pauseAtLimit runId limit call turnsRun db = .ok () db' ∧
      UntilOutcome lang runId call.steps limit db₁ db' run := by
  -- without a pause the database stays as the loop left it
  have hquiet : ∀ r, db.runs.get? runId = some r → r.status ≠ .running →
      pauseAtLimit runId limit call turnsRun db = .ok () db := by
    intro r hr hstatus
    rw [pauseAtLimit, run_bind_of_ok (refreshed_of_row hr), if_neg fun h => hstatus h.2]
    rfl
  cases h with
  | finished row within left feedback =>
    obtain ⟨r, hr, hstatus⟩ := row
    exact ⟨r, db, hquiet r hr (by rw [hstatus]; decide),
      .of_finished hr hstatus within left (hcount.of_same feedback)⟩
  | failed row within feedback =>
    obtain ⟨r, hr, hstatus⟩ := row
    exact ⟨r, db, hquiet r hr (by rw [hstatus]; decide),
      .of_failed hr hstatus within (hcount.of_one feedback)⟩
  | usedUp row turns all feedback =>
    obtain ⟨r, hr, hstatus⟩ := row
    obtain ⟨db', hpaused⟩ := hpause db r all hr
    obtain ⟨⟨r', hr', hstatus'⟩, hsame⟩ := pauseSimulationRunAtLimit_ok hr hpaused
    refine ⟨r', db', ?_, .of_usedUp hr' hstatus' ⟨db, all⟩
      (hcount.of_same (feedback.trans hsame))⟩
    rw [pauseAtLimit, run_bind_of_ok (refreshed_of_row hr), if_pos ⟨by rw [turns], hstatus hlimit⟩]
    exact hpaused

end

/-- The database after the first calls. -/
def afterCalls (lang : Language) (runId : String) (steps : Nat → AdvanceCall) (db₁ : SimDb)
    (k : Nat) : SimDb :=
  runTx (advancePlanSimulationRun lang runId) db₁ ((List.range k).map steps)

theorem Executes.eq_afterCalls {steps : Nat → AdvanceCall} {db₁ : SimDb} {k : Nat}
    (h : Executes lang runId steps db₁ k db) : db = afterCalls lang runId steps db₁ k := by
  induction h with
  | start => rfl
  | turn before row next feasible advance ih =>
    rw [afterCalls, List.range_succ, List.map_append, runTx_append, ← afterCalls, ← ih]
    exact (finalState_of_ok advance).symm

/-- Steps that return can be checked along the calls. -/
theorem StepsReturn.of_checks {call : UntilCall} {limit : Nat} {db₁ : SimDb}
    (hadvance : ∀ k < limit, returns (advancePlanSimulationRun lang runId (call.steps k))
      (afterCalls lang runId call.steps db₁ k) = true)
    (hpause : ∀ run, (afterCalls lang runId call.steps db₁ limit).runs.get? runId = some run →
      returns (pauseSimulationRunAtLimit call.pauseDraws call.pauseNow run)
        (afterCalls lang runId call.steps db₁ limit) = true) :
    StepsReturn lang runId call limit db₁ where
  advance := by
    intro k hk db hex
    rw [hex.eq_afterCalls]
    exact returns_iff.1 (hadvance k hk)
  pause := by
    intro db run hex hrow
    obtain rfl := hex.eq_afterCalls
    obtain ⟨_, db', hpaused⟩ := returns_iff.1 (hpause run hrow)
    exact ⟨db', hpaused⟩

/-- The priced plan before any change. -/
def unchangedPlan : SimDb :=
  { pricedPlan with plan := { pricedPlan.plan with changeSets := .empty, operations := .empty } }

/-- A call on the priced plan. -/
def pricedUntil (turns : Int) : UntilCall where
  maxTurns := some turns
  steps := fun k => pricedCall (k + 1)
  pauseDraws := numbered 50
  pauseNow := 50

end LiveOs.Simulation
