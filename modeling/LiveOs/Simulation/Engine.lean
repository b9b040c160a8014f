import LiveOs.Simulation.Feedback

/-!
# The engine

`simulation/run_state.py`, `simulation/run_progress.py`, `simulation/failure_handling.py`,
`simulation/feedback_services.py` and `simulation/engine.py`: a run is created with one state for
each node of its revision, and every call advances it by one node.
-/

namespace LiveOs.Simulation

open Lib Planning
open Procurement (PyDecimal)

variable (lang : Language)

/-! ## Writes -/

/-- `SimulationRun.objects.create(...)`. -/
def createRun (run : SimulationRun) : SimM Unit :=
  update fun db => do
    let runs ← db.runs.insert run (Halt.raised .integrity)
    return { db with runs := runs }

/-- `run.save(update_fields=[...])`. -/
def saveRun (runId : String) (fields : SimulationRun → SimulationRun)
    (hfields : ∀ r, (fields r).runId = r.runId) : SimM Unit :=
  update fun db => return { db with runs := db.runs.modify runId fields hfields fun _ => rfl }

/-- `PlanNodeRunState.objects.create(...)`. -/
def createState (state : PlanNodeRunState) : SimM Unit :=
  update fun db => do
    let states ← db.states.insert state (Halt.raised .integrity)
    return { db with states := states }

/-- `state.save(update_fields=[...])`. -/
def saveState (stateId : String) (fields : PlanNodeRunState → PlanNodeRunState)
    (hid : ∀ s, (fields s).stateId = s.stateId)
    (hkey : ∀ s, some ((fields s).run, (fields s).planNode) = some (s.run, s.planNode)) :
    SimM Unit :=
  update fun db => return { db with states := db.states.modify stateId fields hid hkey }

theorem zero_fits {digits : Nat} : (0 : Int).natAbs < 10 ^ digits := by
  rw [Int.natAbs_zero]
  exact Nat.pow_pos (by decide)

theorem hundred_fits : (10000 : Int).natAbs < 10 ^ 5 := by decide

/-- `Decimal("0")` in a column. -/
def zeroColumn {digits places : Nat} : DecimalColumn digits places := ⟨0, zero_fits⟩

/-- `Decimal("100.00")` in the column of a progress. -/
def fullProgress : DecimalColumn 5 2 := ⟨10000, hundred_fits⟩

/-! ## States of nodes -/

/-- The nodes of a revision, `order_by("sequence", "node_id")`. -/
def nodesOf (db : SimDb) (revision : RevisionId) : List PlanNode := revisionNodes db.plan revision

/-- The state of a node that has none yet. -/
def initialState (run : SimulationRun) (node : PlanNode) (stateId : String) : PlanNodeRunState :=
  let completed : Bool := node.status.text = NodeStatus.completed
  { stateId := stateId
    run := run.runId
    planNode := node.nodeId
    status := if completed then .completed
      else if node.status.text = NodeStatus.cancelled then .skipped else .pending
    startedDay := if completed then node.plannedStartDay else none
    -- `node.planned_end_day or run.current_day`
    completedDay := if completed then
        match node.plannedEndDay with
        | some day => if day.val = 0 then some run.currentDay else some day
        | none => some run.currentDay
      else none
    progressPercent := if completed then fullProgress else zeroColumn
    actualCost := if completed then node.estimatedCostExpected else zeroColumn
    actualPersonDays := if completed then node.requiredPersonDays else zeroColumn
    blockerReason := ""
    metadata := [("source_plan_status", .str node.status.text)] }

/-- One turn of `ensure_plan_node_run_states`: `get_or_create` evaluates its defaults first. -/
def ensureState (draws : Draws) (run : SimulationRun) (node : PlanNode) : SimM Unit := do
  let db ← get
  let stateId ← attempt (generateId "state-" (draws.state node.nodeId)
    (fun id => db.states.rows.any fun s => s.stateId = id) "无法生成节点模拟状态 ID，请重试。")
  match stateOf? db run.runId node.nodeId with
  | some _ => pure ()
  | none => createState (initialState run node stateId)

/-- `for x in xs: f(x)`. -/
def forEach {α : Type} (xs : List α) (f : α → SimM Unit) : SimM Unit :=
  xs.foldlM (fun _ x => f x) ()

/-- `ensure_plan_node_run_states(run)`. -/
def ensurePlanNodeRunStates (draws : Draws) (run : SimulationRun) : SimM Unit := do
  forEach (nodesOf (← get) run.planRevision) (ensureState draws run)

/-- `create_simulation_run(plan_revision=plan_revision, max_turns=max_turns)`. -/
def createSimulationRun (draws : Draws) (snapshot : WorldSnapshot) (planRevision : RevisionId)
    (maxTurns : Int) (now : Nat) : SimM String := atomic do
  if maxTurns ≤ 0 then throw (.raised (.domain "最大推进步数必须大于 0。"))
  let db ← get
  let runId ← attempt (generateId "sim-run-" draws.run
    (fun id => db.runs.rows.any fun r => r.runId = id) "无法生成模拟运行 ID，请重试。")
  let turns ← attempt (PositiveInt.store maxTurns)
  let budget := (simulationAvailableBudget snapshot.resources).text
  let run : SimulationRun := {
    runId := runId
    planRevision := planRevision
    status := .draft
    currentDay := snapshot.startDay
    maxTurns := turns
    startedAt := now
    endedAt := none
    failureSummary := ""
    metadata := {
      initialBudget := budget
      remainingBudget := budget
      spentBudget := "0"
      availablePeople := snapshot.availablePeople
      availableSkills := snapshot.availableSkills
      averageFatigue := snapshot.averageFatigue } }
  createRun run
  ensurePlanNodeRunStates draws run
  return runId

/-! ## Turns and events -/

/-- `next_turn_number(run)`. -/
def nextTurnNumber (db : SimDb) (run : String) : Nat :=
  ((db.turns.rows.filter fun t => t.run = run).map fun t => t.turnNumber.val).foldl max 0 + 1

/-- `create_simulation_turn_and_event(...)`. -/
def createSimulationTurnAndEvent (draws : Draws) (now : Nat) (run title summary : String)
    (simulationDay : PositiveInt) (severity eventType : String) (payload : List (String × Json)) :
    SimM Unit := do
  let db ← get
  let turnId ← attempt (generateId "turn-" draws.turn
    (fun id => db.turns.rows.any fun t => t.turnId = id) "无法生成模拟推进日志 ID，请重试。")
  let turnNumber ← attempt (PositiveInt.store (nextTurnNumber db run))
  update fun db => do
    let turns ← db.turns.insert {
      turnId := turnId
      run := run
      turnNumber := turnNumber
      simulationDay := simulationDay
      summary := summary
      occurredAt := now
      metadata := merged [("title", .str title), ("severity", .str severity),
        ("event_type", .str eventType)] payload } (Halt.raised .integrity)
    return { db with turns := turns }
  let db ← get
  let eventId ← attempt (generateId "event-sim-" draws.event
    (fun id => db.events.rows.any fun e => e.eventId = id) "无法生成仿真事件 ID，请重试。")
  let title ← attempt (VarChar.store title)
  update fun db => do
    let events ← db.events.insert {
      eventId := eventId
      eventType := eventType
      simulationDay := simulationDay
      run := run
      severity := severity
      title := title
      summary := summary
      occurredAt := now
      payload := merged [("source", .str "observer_auto_run"), ("run_id", .str run),
        ("turn_id", .str turnId)] payload } (Halt.raised .integrity)
    return { db with events := events }

/-! ## Progress -/

/-- The states of the required children of a node. -/
def childStates (db : SimDb) (run : String) (parent : NodeId) : List PlanNodeRunState :=
  db.states.rows.filter fun s => s.run = run && match db.plan.nodes.get? s.planNode with
    | some n => n.parent = some parent && n.isRequired
    | none => false

/-- `status in [COMPLETED, SKIPPED]`. -/
def isDone (state : PlanNodeRunState) : Bool := state.status = .completed || state.status = .skipped

/-- The node has required children, and all of them are done. -/
def childrenDone (db : SimDb) (run : String) (parent : NodeId) : Bool :=
  !(childStates db run parent).isEmpty && (childStates db run parent).all isDone

/-- The state of a node that its children complete. -/
def autoCompleted (completedDay : PositiveInt) (state : PlanNodeRunState) : PlanNodeRunState :=
  { state with
    status := .completed
    progressPercent := fullProgress
    completedDay := some completedDay
    blockerReason := ""
    metadata := merged state.metadata [("auto_completed_by_children", .scalar (.bool true))] }

/-- The loop of `mark_parent_stages_completed_if_ready` from a parent on. A climb that passes more
nodes than there are passes one twice, and then it goes round for ever. -/
def markParents (run : String) (completedDay : PositiveInt) : Nat → Option NodeId → SimM Unit
  | _, none => pure ()
  | 0, some _ => throw .loops
  | fuel + 1, some parentId => do
    let db ← get
    if childrenDone db run parentId then
      match stateOf? db run parentId with
      | some state =>
        if state.status ≠ .completed then
          saveState state.stateId (autoCompleted completedDay) (fun _ => rfl) fun _ => rfl
      | none => pure ()
      markParents run completedDay fuel ((db.plan.nodes.get? parentId).bind PlanNode.parent)

/-- `mark_parent_stages_completed_if_ready(run=run, node=node, completed_day=completed_day)`. -/
def markParentStagesCompletedIfReady (run : String) (node : PlanNode) (completedDay : PositiveInt) :
    SimM Unit := do
  markParents run completedDay ((← get).plan.nodes.rows.length + 1) node.parent

/-- A node that the engine executes at some time: `is_executable_plan_node(node)`. -/
def isExecutablePlanNode (node : PlanNode) : Bool :=
  node.isRequired && node.nodeType.text ≠ NodeType.stage

/-- `next_executable_state(run)`, with the node of the state. -/
def nextExecutableState (db : SimDb) (run : String) : Option (PlanNodeRunState × PlanNode) :=
  (orderBy (fun p => p.2.sequence.val) (fun p => p.2.nodeId.text)
    ((db.states.rows.filter fun s => s.run = run && !isDone s).filterMap fun s =>
      (db.plan.nodes.get? s.planNode).bind fun n =>
        if isExecutablePlanNode n then some (s, n) else none)).head?

/-- The days of a node that starts on the given day. -/
def nodeDuration (node : PlanNode) : Nat := max 1 node.plannedDurationDays.val

/-- The state of an executed node. -/
def executed (node : PlanNode) (startDay completedDay : PositiveInt) (remaining : Decimal)
    (state : PlanNodeRunState) : PlanNodeRunState :=
  { state with
    status := .completed
    startedDay := some startDay
    completedDay := some completedDay
    progressPercent := fullProgress
    actualCost := node.estimatedCostExpected
    actualPersonDays := node.requiredPersonDays
    blockerReason := ""
    metadata := merged state.metadata [
      ("duration_days", .scalar (.int (nodeDuration node))),
      ("remaining_budget_after_completion", .str remaining.text)] }

/-- `complete_simulation_node(run=run, state=state)`. -/
def completeSimulationNode (draws : Draws) (now : Nat) (run : SimulationRun)
    (state : PlanNodeRunState) (node : PlanNode) : SimM Unit := do
  let startDay := run.currentDay
  let cost := node.estimatedCostExpected.value
  let remaining ← attempt
    ((decimalFromText lang.py run.metadata.remainingBudget).minus cost)
  let spent ← attempt ((decimalFromText lang.py run.metadata.spentBudget).plus cost)
  let completedDay ← attempt (PositiveInt.store (startDay.val + nodeDuration node - 1 : Nat))
  saveState state.stateId (executed node startDay completedDay remaining) (fun _ => rfl) fun _ => rfl
  let nextDay ← attempt (PositiveInt.store (completedDay.val + 1 : Nat))
  saveRun run.runId (fun r => { r with
      currentDay := nextDay
      status := .running
      metadata := { r.metadata with
        remainingBudget := remaining.text
        spentBudget := spent.text } }) fun _ => rfl
  markParentStagesCompletedIfReady run.runId node completedDay
  let dayRange := if startDay = completedDay then "D" ++ toString startDay.val
    else "D" ++ toString startDay.val ++ "-D" ++ toString completedDay.val
  createSimulationTurnAndEvent draws now run.runId ("完成计划节点：" ++ nodeLabel node)
    (dayRange ++ " 完成 " ++ nodeLabel node ++ "，消耗预算 " ++ cost.text ++ " 元，投入 " ++
      node.requiredPersonDays.value.text ++ " 人天。剩余模拟预算 " ++ remaining.text ++ " 元。")
    startDay "info" "simulation_day" [
      ("plan_node_id", .str node.nodeId.text),
      ("actual_cost", .str cost.text),
      ("actual_person_days", .str node.requiredPersonDays.value.text),
      ("remaining_budget", .str remaining.text)]

/-- `complete_simulation_run(run)`. -/
def completeSimulationRun (draws : Draws) (now : Nat) (run : SimulationRun) : SimM Unit := do
  saveRun run.runId (fun r => { r with
    status := .completed, endedAt := some now, failureSummary := "" }) fun _ => rfl
  createSimulationTurnAndEvent draws now run.runId "自动模拟完成"
    "当前计划版本中的必要可执行节点已全部在本次模拟中完成，未发现阻断性失败。" run.currentDay
    "info" "simulation_day" [("completed", .scalar (.bool true))]

/-! ## Failures -/

/-- The state of a node that failed its checks. -/
def failed (run : SimulationRun) (data : FailureData) (state : PlanNodeRunState) :
    PlanNodeRunState :=
  { state with
    status := .failed
    -- `state.started_day or run.current_day`
    startedDay := match state.startedDay with
      | some day => if day.val = 0 then some run.currentDay else some day
      | none => some run.currentDay
    blockerReason := data.description
    metadata := merged (merged state.metadata [("failure_type", .str data.failureType.value)])
      data.metadata }

/-- One turn of the loop of `create_plan_change_set_for_proposal`. -/
def createOperation (draws : Draws) (changeSetId : String) (item : OperationDraft × Nat) :
    SimM Unit := do
  let db ← get
  let operationId ← attempt (generateId "changeop-" (draws.operation item.2)
    (fun id => db.plan.operations.rows.any fun o => o.operationId = id)
    "无法生成计划变更操作 ID，请重试。")
  update fun db => do
    let operations ← db.plan.operations.insert {
      operationId := operationId
      changeSet := changeSetId
      sequence := item.2 * 10
      operationType := item.1.operationType.value
      targetId := item.1.targetId
      targetField := item.1.targetField
      newValue := .obj item.1.newValue
      rationale := item.1.rationale
      isRequired := item.1.isRequired } (Halt.raised .integrity)
    return { db with plan := { db.plan with operations := operations } }

/-- `create_plan_change_set_for_proposal(proposal=proposal)`, the id of the change set. -/
def createPlanChangeSetForProposal (draws : Draws) (proposal : PlanRevisionProposal)
    (node : PlanNode) (failure : SimulationFailure) : SimM String := do
  let db ← get
  match db.plan.changeSets.rows.find? fun c => c.proposal = proposal.proposalId with
  | some existing => return existing.changeSetId
  | none => do
    let changeSetId ← attempt (generateId "changeset-" draws.changeSet
      (fun id => db.plan.changeSets.rows.any fun c => c.changeSetId = id)
      "无法生成计划变更集 ID，请重试。")
    let _title ← attempt (VarChar.store ("结构化变更：" ++ proposal.title.text) :
      Except PyError (VarChar 255))
    update fun db => do
      let changeSets ← db.plan.changeSets.insert {
        changeSetId := changeSetId
        run := proposal.run
        proposal := proposal.proposalId
        planRevision := proposal.planRevision
        status := .draft
        appliedAt := none
        appliedRevision := none
        metadata := .obj [("source", .str "observer_auto_run"),
          ("proposal_type", .str proposal.proposalType.value)] } (Halt.raised .integrity)
      return { db with plan := { db.plan with changeSets := changeSets } }
    let operations ← attempt (changeOperationsForProposal lang proposal node failure)
    forEach (operations.zipIdx 1) (createOperation draws changeSetId)
    return changeSetId

/-- `fail_simulation_node(run=run, state=state, failure_data=failure_data)`, the ids of the failure
and of the proposal. -/
def failSimulationNode (draws : Draws) (now : Nat) (run : SimulationRun)
    (state : PlanNodeRunState) (node : PlanNode) (data : FailureData) :
    SimM (String × String) := do
  saveState state.stateId (failed run data) (fun _ => rfl) fun _ => rfl
  saveRun run.runId (fun r => { r with
    status := .failed, endedAt := some now, failureSummary := data.description }) fun _ => rfl
  let db ← get
  let failureId ← attempt (generateId "failure-" draws.failure
    (fun id => db.failures.rows.any fun f => f.failureId = id) "无法生成模拟失败 ID，请重试。")
  let title ← attempt (VarChar.store data.title)
  let failure : SimulationFailure := {
    failureId := failureId
    run := run.runId
    planNode := node.nodeId
    failureType := data.failureType
    title := title
    description := data.description
    simulationDay := run.currentDay
    detectedAt := now
    metadata := data.metadata }
  update fun db => do
    let failures ← db.failures.insert failure (Halt.raised .integrity)
    return { db with failures := failures }
  let db ← get
  let proposalId ← attempt (generateId "proposal-" draws.proposal
    (fun id => db.proposals.rows.any fun p => p.proposalId = id) "无法生成计划修订建议 ID，请重试。")
  let title ← attempt (VarChar.store ("根据失败修订 " ++ nodeLabel node))
  let proposal : PlanRevisionProposal := {
    proposalId := proposalId
    run := run.runId
    sourceFailure := failureId
    planRevision := run.planRevision
    planNode := node.nodeId
    proposalType := proposalTypeForFailure data.failureType
    title := title
    rationale := failure.description
    suggestedChanges := suggestedChangesForFailure node failure.failureType failure.metadata
    createdAt := now }
  update fun db => do
    let proposals ← db.proposals.insert proposal (Halt.raised .integrity)
    return { db with proposals := proposals }
  let changeSetId ← createPlanChangeSetForProposal lang draws proposal node failure
  createSimulationTurnAndEvent draws now run.runId ("自动模拟失败：" ++ nodeLabel node)
    (failure.description ++ " 已生成计划修订建议 " ++ proposalId ++ " 和结构化变更集 " ++ changeSetId ++
      "，等待人工审核。") run.currentDay "critical" "random_incident" [
      ("failure_id", .str failureId), ("proposal_id", .str proposalId),
      ("change_set_id", .str changeSetId), ("plan_node_id", .str node.nodeId.text),
      ("failure_type", .str data.failureType.value)]
  return (failureId, proposalId)

/-! ## The service -/

/-- One call of `advance_plan_simulation_run`. -/
structure AdvanceCall where
  resources : Resources
  draws : Draws
  now : Nat

/-- What `advance_plan_simulation_run` returns, without the run. -/
structure Advance where
  advanced : Bool
  failure : Option String
  proposal : Option String := none
deriving DecidableEq

/-- `run.failures.first()`, `ordering = ["-detected_at", "failure_id"]`. -/
def firstFailureOf (db : SimDb) (run : String) : Option String :=
  ((db.failures.rows.filter fun f => f.run = run).insertionSort fun a b =>
    b.detectedAt < a.detectedAt ∨ a.detectedAt = b.detectedAt ∧ a.failureId ≤ b.failureId).head?.map
      SimulationFailure.failureId

/-- `advance_plan_simulation_run(run)`. -/
def advancePlanSimulationRun (runId : String) (call : AdvanceCall) : SimM Advance := atomic do
  let db ← get
  match db.runs.get? runId with
  | none => throw (.raised .doesNotExist)
  | some run =>
    if run.status = .failed ∨ run.status = .completed then
      return { advanced := false, failure := firstFailureOf db runId }
    ensurePlanNodeRunStates call.draws run
    let db ← get
    match nextExecutableState db runId with
    | none => do
      completeSimulationRun call.draws call.now run
      return { advanced := true, failure := none }
    | some (state, node) => do
      match ← attempt (feasibilityFailureForNode lang db call.resources run node) with
      | some data => do
        let (failure, proposal) ← failSimulationNode lang call.draws call.now run state node data
        return { advanced := true, failure := some failure, proposal := some proposal }
      | none => do
        completeSimulationNode lang call.draws call.now run state node
        return { advanced := true, failure := none }

/-! ## Runs until a failure

The loop of `simulation/engine.py`: `run_simulation_until_failure` advances a run until it has
failed or is completed, or until a number of turns has passed. Every turn is a transaction of its
own. -/

/-- `run.refresh_from_db()`. -/
def refreshed (runId : String) : SimM SimulationRun := do
  let db ← get
  match db.runs.get? runId with
  | some run => return run
  | none => throw (.raised .doesNotExist)

/-- What a call takes from outside: a step for each turn, and the draws and the time of a pause. -/
structure UntilCall where
  maxTurns : Option Int := none
  steps : Nat → AdvanceCall
  pauseDraws : Draws
  pauseNow : Nat

/-- `max_turns or run.max_turns`. -/
def turnLimit (run : SimulationRun) : Option Int → Int
  | none => run.maxTurns.val
  | some turns => if turns = 0 then run.maxTurns.val else turns

/-- `status in {FAILED, COMPLETED}`. -/
def RunStatus.isSettled (status : RunStatus) : Bool := status = .failed || status = .completed

/-- The loop of `run_simulation_until_failure`, with the number of iterations so far. Every one of
them but the last counts a turn, so that the loop ends before its fuel does. -/
def advanceLoop (runId : String) (limit : Int) (steps : Nat → AdvanceCall) :
    Nat → Nat → Nat → Advance → SimM (Nat × Advance)
  | 0, _, _, _ => throw .loops
  | fuel + 1, iteration, turnsRun, latest =>
    if limit ≤ turnsRun then return (turnsRun, latest)
    else do
      let run ← refreshed runId
      if run.status.isSettled || run.status = .paused then return (turnsRun, latest)
      else do
        let latest ← advancePlanSimulationRun lang runId (steps iteration)
        let turnsRun := if latest.advanced then turnsRun + 1 else turnsRun
        let run ← refreshed runId
        if run.status.isSettled then return (turnsRun, latest)
        else advanceLoop runId limit steps fuel (iteration + 1) turnsRun latest

/-- `pause_simulation_run_at_limit(run)`. -/
def pauseSimulationRunAtLimit (draws : Draws) (now : Nat) (run : SimulationRun) : SimM Unit := do
  saveRun run.runId (fun r => { r with status := .paused, endedAt := some now }) fun _ => rfl
  createSimulationTurnAndEvent draws now run.runId "自动模拟暂停"
    "本次模拟达到最大推进步数，尚未失败或完成。可以提高步数后重新运行新的模拟。" run.currentDay
    "warning" "simulation_day" [("pause_reason", .str "max_turns")]

/-- `run.failures.order_by("-detected_at").first()`. -/
def latestFailureOf (db : SimDb) (run : String) : Option String :=
  ((db.failures.rows.filter fun f => f.run = run).insertionSort fun a b =>
    b.detectedAt ≤ a.detectedAt).head?.map SimulationFailure.failureId

/-- `run.proposals.order_by("-created_at").first()`. -/
def latestProposalOf (db : SimDb) (run : String) : Option String :=
  ((db.proposals.rows.filter fun p => p.run = run).insertionSort fun a b =>
    b.createdAt ≤ a.createdAt).head?.map PlanRevisionProposal.proposalId

/-- What `run_simulation_until_failure` returns, without the run. -/
structure UntilResult where
  turnsRun : Nat
  failure : Option String
  proposal : Option String
  advanced : Bool

/-- The pause after the loop. -/
def pauseAtLimit (runId : String) (limit : Int) (call : UntilCall) (turnsRun : Nat) : SimM Unit := do
  let run ← refreshed runId
  if limit ≤ turnsRun ∧ run.status = .running then
    pauseSimulationRunAtLimit call.pauseDraws call.pauseNow run
  else pure ()

/-- `run_simulation_until_failure(run=run, max_turns=max_turns)`. -/
def runSimulationUntilFailure (runId : String) (call : UntilCall) : SimM UntilResult := do
  let run ← refreshed runId
  let limit := turnLimit run call.maxTurns
  let (turnsRun, latest) ← advanceLoop lang runId limit call.steps (limit.toNat + 1) 0 0
    { advanced := false, failure := none }
  pauseAtLimit runId limit call turnsRun
  let db ← get
  return {
    turnsRun := turnsRun
    failure := latestFailureOf db runId
    proposal := latestProposalOf db runId
    advanced := latest.advanced }

end LiveOs.Simulation
