import LiveOs.Simulation.Verify.Generated
import LiveOs.Simulation.Verify.Runs

/-!
# Runs on a revision in order

A run takes its nodes by sequence and id. On a revision in order every prerequisite that can be
executed is completed before its dependent node comes up, so no such node fails for its dependencies.
-/

namespace LiveOs.Simulation

open Lib Planning

variable {lang : Language} {plan : PlanDb} {db db' db₁ : SimDb} {runId : String} {call : AdvanceCall}
  {run : SimulationRun} {revision : RevisionId} {node : PlanNode}

/-! ## The order of a run -/

theorem mem_nodesOf {n : PlanNode} :
    n ∈ nodesOf db revision ↔ n ∈ nodesIn db.plan revision := by
  rw [nodesOf, mem_revisionNodes, mem_nodesIn]

theorem orderBy_head {α : Type} {sequence : α → Nat} {key : α → String} {rows : List α} {x y : α}
    (h : (orderBy sequence key rows).head? = some x) (hy : y ∈ rows) :
    sequence x < sequence y ∨ sequence x = sequence y ∧ key x ≤ key y := by
  have hsorted : (orderBy sequence key rows).Pairwise fun a b =>
      sequence a < sequence b ∨ sequence a = sequence b ∧ key a ≤ key b := by
    have htotal : Std.Total fun a b : α =>
        sequence a < sequence b ∨ sequence a = sequence b ∧ key a ≤ key b := by
      refine ⟨fun a b => ?_⟩
      rcases lt_trichotomy (sequence a) (sequence b) with hlt | heq | hlt
      · exact .inl (.inl hlt)
      · exact (le_total (key a) (key b)).imp (fun hle => .inr ⟨heq, hle⟩)
          fun hle => .inr ⟨heq.symm, hle⟩
      · exact .inr (.inl hlt)
    have htrans : IsTrans α fun a b =>
        sequence a < sequence b ∨ sequence a = sequence b ∧ key a ≤ key b := by
      refine ⟨fun a b c hab hbc => ?_⟩
      rcases hab with hab | ⟨hab, hkab⟩
      · rcases hbc with hbc | ⟨hbc, -⟩
        · exact .inl (hab.trans hbc)
        · exact .inl (hbc ▸ hab)
      · rcases hbc with hbc | ⟨hbc, hkbc⟩
        · exact .inl (hab ▸ hbc)
        · exact .inr ⟨hab.trans hbc, hkab.trans hkbc⟩
    exact List.pairwise_insertionSort _ rows
  have hmem : y ∈ orderBy sequence key rows := (orderBy_perm _ _ _).mem_iff.2 hy
  cases horder : orderBy sequence key rows with
  | nil =>
    rw [horder] at h
    cases h
  | cons z zs =>
    rw [horder] at h hsorted hmem
    obtain rfl := Option.some.inj h
    rcases List.mem_cons.1 hmem with rfl | hmem
    · exact .inr ⟨rfl, le_refl _⟩
    · exact (List.pairwise_cons.1 hsorted).1 y hmem

/-- No open node that can be executed precedes the next one. -/
theorem nextExecutableState_first {state t : PlanNodeRunState} {p : PlanNode}
    (h : nextExecutableState db runId = some (state, node)) (ht : t ∈ db.states.rows)
    (hrun : t.run = runId) (hopen : isDone t = false)
    (hfound : db.plan.nodes.get? t.planNode = some p) (hexecutable : isExecutablePlanNode p = true) :
    ¬ Precedes p node := by
  have hmem : (t, p) ∈ (db.states.rows.filter fun s => s.run = runId && !isDone s).filterMap
      fun s => (db.plan.nodes.get? s.planNode).bind fun n =>
        if isExecutablePlanNode n then some (s, n) else none := by
    refine List.mem_filterMap.2 ⟨t, List.mem_filter.2 ⟨ht, ?_⟩, ?_⟩
    · rw [hopen, decide_eq_true hrun]
      rfl
    · rw [hfound, Option.bind_some, if_pos hexecutable]
  have hfirst := orderBy_head h hmem
  simp only at hfirst
  rintro (hlt | ⟨heq, hlt⟩)
  · rcases hfirst with hlt' | ⟨heq, -⟩
    · exact lt_asymm hlt hlt'
    · exact absurd heq.symm (ne_of_lt hlt)
  · rcases hfirst with hlt' | ⟨-, hle⟩
    · exact absurd heq.symm (ne_of_lt hlt')
    · exact absurd hlt (not_lt.2 hle)

/-! ## Runs -/

/-- The node can be executed: it is required, no stage and not cancelled. -/
def CanExecute (plan : PlanDb) (id : NodeId) : Prop :=
  ∃ p, plan.nodes.get? id = some p ∧ isExecutablePlanNode p = true ∧
    p.status.text ≠ NodeStatus.cancelled

/-- The failure is not for unmet dependencies, or one of them cannot be executed. -/
def Excused (plan : PlanDb) (failure : SimulationFailure) : Prop :=
  failure.failureType = .dependencyUnmet →
    ∃ d ∈ plan.dependencies.rows, d.node = failure.planNode ∧ ¬ CanExecute plan d.dependsOn

/-- What is known of a run on a revision. -/
structure Follows (plan : PlanDb) (revision : RevisionId) (runId : String) (db : SimDb) : Prop where
  row : ∃ run, db.runs.get? runId = some run ∧ run.planRevision = revision
  complete : AllStates db runId revision
  states : ∀ s ∈ db.states.rows, s.run = runId → ∃ n ∈ nodesIn plan revision,
    n.nodeId = s.planNode ∧ (s.status = .skipped → n.status.text = NodeStatus.cancelled)
  nodes : db.plan.nodes = plan.nodes
  dependencies : db.plan.dependencies = plan.dependencies

theorem nodesIn_congr {a b : PlanDb} (h : a.nodes = b.nodes) :
    nodesIn a revision = nodesIn b revision := by
  rw [nodesIn, nodesIn, h]

theorem Created.follows {snapshot : WorldSnapshot} (h : Created snapshot revision runId run db db₁)
    (hstates : StatesHaveRuns db) : Follows db.plan revision runId db₁ := by
  obtain ⟨added, hrows, hadded⟩ := h.states
  refine ⟨⟨run, h.row, h.revision⟩, h.complete, fun s hs hrun => ?_, by rw [h.plan], by rw [h.plan]⟩
  rw [hrows] at hs
  rcases List.mem_append.1 hs with hold | hnew
  · obtain ⟨r, hr, hid⟩ := hstates s hold
    exact absurd (hid.trans hrun) (h.fresh r hr)
  · obtain ⟨n, hn, id, rfl⟩ := hadded s hnew
    refine ⟨n, mem_nodesOf.1 hn, rfl, fun hskipped => ?_⟩
    by_contra hstatus
    simp only [initialState, if_neg hstatus] at hskipped
    split at hskipped <;> cases hskipped

/-- The node that comes next belongs to the revision of the run. -/
theorem Follows.next_mem (h : Follows plan revision runId db) {state : PlanNodeRunState}
    (hnext : nextExecutableState db runId = some (state, node)) : node ∈ nodesIn plan revision := by
  have hfound := nextExecutableState_some hnext
  obtain ⟨n, hn, hid, -⟩ := h.states state hfound.mem hfound.ofRun
  obtain ⟨hrow, hnodeId⟩ := Table.get?_eq_some.1 (h.nodes ▸ hfound.found :
    plan.nodes.get? state.planNode = some node)
  have hsame : n = node := plan.nodes.eq_of_pk (mem_nodesIn.1 hn).1 hrow (hid.trans hnodeId.symm)
  exact hsame ▸ hn

/-- The next node fails for a dependency only where one of them cannot be executed. -/
theorem Follows.excused (h : Follows plan revision runId db) (horder : InOrder plan revision)
    (hown : OwnDependencies plan revision) (hrun : run.runId = runId) {state : PlanNodeRunState}
    {data : FailureData} {failure : SimulationFailure} {resources : Resources}
    (hnext : nextExecutableState db runId = some (state, node))
    (hinfeasible : feasibilityFailureForNode lang db resources run node = .ok (some data))
    (habout : FailureOf run node data failure) : Excused plan failure := by
  intro htype
  obtain ⟨d, hd, hdnode, hopen⟩ := unmet_of_failure hinfeasible (habout.failureType.symm.trans htype)
  rw [hrun] at hopen
  rw [h.dependencies] at hd
  refine ⟨d, hd, hdnode.trans habout.planNode.symm, ?_⟩
  rintro ⟨p, hp, hexecutable, hactive⟩
  -- the next node belongs to the revision, and so does its dependency
  have hn := h.next_mem hnext
  have hdrevision := hown d hd ⟨node, hn, hdnode.symm⟩
  obtain ⟨n', hn', p', hp', hn'id, hp'id, hprecedes⟩ := horder node.nodeId d.dependsOn
    ⟨d, List.mem_filter.2 ⟨hd, decide_eq_true hdrevision⟩, hdnode, rfl⟩
  obtain rfl := node_unique hn' hn hn'id
  obtain ⟨hprow, hpid⟩ := Table.get?_eq_some.1 hp
  have hsame : p' = p :=
    plan.nodes.eq_of_pk (mem_nodesIn.1 hp').1 hprow (hp'id.trans hpid.symm)
  subst hsame
  -- the state of the prerequisite
  obtain ⟨t, ht⟩ := h.complete p' (mem_nodesOf.2 (nodesIn_congr h.nodes ▸ hp'))
  obtain ⟨htmem, htrun, htnode⟩ := stateOf?_eq_some ht
  have hnotCompleted := hopen t (by rw [← hpid]; exact ht)
  cases hdone : isDone t with
  | false =>
    have hpfound : db.plan.nodes.get? t.planNode = some p' := by rw [h.nodes, htnode, hpid, hp]
    exact nextExecutableState_first hnext htmem htrun hdone hpfound hexecutable hprecedes
  | true =>
    have hskipped : t.status = .skipped := by
      simpa [isDone, hnotCompleted] using hdone
    obtain ⟨m, hm, hmid, hcancelled⟩ := h.states t htmem htrun
    obtain rfl := node_unique hm hp' (hmid.trans htnode)
    exact hactive (hcancelled hskipped)

theorem run_after_map {f : SimulationRun → SimulationRun} (hid : ∀ r, (f r).runId = r.runId)
    (hrevision : ∀ r, (f r).planRevision = r.planRevision)
    (h : ∃ run, db.runs.get? runId = some run ∧ run.planRevision = revision)
    (hruns : db'.runs.rows = db.runs.rows.map fun r => if r.runId = runId then f r else r) :
    ∃ run, db'.runs.get? runId = some run ∧ run.planRevision = revision := by
  obtain ⟨run, hrow, rfl⟩ := h
  exact ⟨f run, run_after_write hid hrow hruns, hrevision run⟩

/-- A map that skips no further node. -/
theorem Follows.mapped {g : PlanNodeRunState → PlanNodeRunState}
    (h : Follows plan revision runId db) (hg : Mapped g db db')
    (hskipped : ∀ s ∈ db.states.rows, (g s).status = .skipped → s.status = .skipped)
    (hrow : ∃ run, db'.runs.get? runId = some run ∧ run.planRevision = revision)
    (hdependencies : db'.plan.dependencies = db.plan.dependencies) :
    Follows plan revision runId db' := by
  refine ⟨hrow, h.complete.of_mapped hg, fun s hs hrun => ?_, hg.nodes.trans h.nodes,
    hdependencies.trans h.dependencies⟩
  rw [hg.rows] at hs
  obtain ⟨t, ht, rfl⟩ := List.mem_map.1 hs
  have hsame := hg.same t ht
  obtain ⟨n, hn, hid, hcancelled⟩ := h.states t ht (hsame.run.symm.trans hrun)
  exact ⟨n, hn, hid.trans hsame.planNode.symm, fun hs => hcancelled (hskipped t ht hs)⟩

/-- A run that has its states gets no further ones. -/
theorem Follows.ensured (h : Follows plan revision runId db) {ensured : SimDb}
    (hrow : db.runs.get? runId = some run)
    (hensured : Ensured run (nodesOf db run.planRevision) db ensured) :
    run.runId = runId ∧ run.planRevision = revision ∧ db = ensured := by
  obtain ⟨known, hknown, hrevision⟩ := h.row
  obtain rfl := Option.some.inj (hknown.symm.trans hrow)
  have hrunId := (Table.get?_eq_some.1 hrow).2
  refine ⟨hrunId, hrevision, (hensured.unchanged ?_).symm⟩
  rw [hrunId, hrevision]
  exact h.complete

/-- **Steps.** -/
theorem Follows.step (h : Follows plan revision runId db) (hstep : Step lang runId call db db') :
    Follows plan revision runId db' := by
  cases hstep with
  | settled run row status same =>
    exact h.mapped same.mapped (fun _ _ hs => hs) (by rw [same.runs]; exact h.row) same.dependencies
  | finished run row status ensured states next runs same =>
    obtain ⟨-, -, rfl⟩ := h.ensured row states
    have hmapped : Mapped id db db' :=
      ⟨by rw [same.states, List.map_id], fun _ _ => ⟨rfl, rfl, rfl⟩, same.nodes⟩
    exact h.mapped hmapped (fun _ _ hs => hs)
      (run_after_map (f := SimulationRun.stopped .completed call.now "") (fun _ => rfl)
        (fun _ => rfl) h.row runs) same.dependencies
  | failed run row status ensured states state node next data infeasible ids fails
      runs rows failure failures about nodes dependencies =>
    obtain ⟨-, -, rfl⟩ := h.ensured row states
    have hmapped : Mapped (fun s => if s.stateId = state.stateId then Simulation.failed run data s
        else s) db db' := by
      refine ⟨rows, fun s _ => ?_, nodes⟩
      split <;> exact ⟨rfl, rfl, rfl⟩
    refine h.mapped hmapped (fun s _ hs => ?_)
      (run_after_map (f := SimulationRun.stopped .failed call.now data.description) (fun _ => rfl)
        (fun _ => rfl) h.row runs) dependencies
    split at hs
    · cases hs
    · exact hs
  | executed run row status ensured states state node next feasible completedDay nextDay left used
      g execution =>
    obtain ⟨hrunId, -, rfl⟩ := h.ensured row states
    have hruns := execution.runs
    rw [hrunId] at hruns
    refine h.mapped execution.mapped (fun s hs hskipped => ?_)
      (run_after_map (f := SimulationRun.executed nextDay _ _) (fun _ => rfl) (fun _ => rfl) h.row
        hruns) execution.dependencies
    have heach := execution.each s hs
    generalize g s = t at heach hskipped
    cases heach with
    | kept other => exact hskipped
    | executed same => cases hskipped
    | completed p other ofRun unfinished parent above children => cases hskipped

theorem Follows.failures_step (h : Follows plan revision runId db) (horder : InOrder plan revision)
    (hown : OwnDependencies plan revision) (hstep : Step lang runId call db db') :
    ∀ f ∈ db'.failures.rows, f ∈ db.failures.rows ∨ Excused plan f := by
  intro f hf
  cases hstep with
  | settled run row status same => exact .inl (same.failures ▸ hf)
  | finished run row status ensured states next runs same =>
    obtain ⟨-, -, rfl⟩ := h.ensured row states
    exact .inl (same.failures ▸ hf)
  | failed run row status ensured states state node next data infeasible ids fails
      runs rows failure failures about nodes dependencies =>
    obtain ⟨hrunId, -, rfl⟩ := h.ensured row states
    rcases List.mem_append.1 (failures ▸ hf : f ∈ db.failures.rows ++ [failure]) with hold | hnew
    · exact .inl hold
    · rw [List.mem_singleton.1 hnew]
      exact .inr (h.excused horder hown hrunId next infeasible about)
  | executed run row status ensured states state node next feasible completedDay nextDay left used
      g execution =>
    obtain ⟨-, -, rfl⟩ := h.ensured row states
    exact .inl (execution.failures ▸ hf)

/-- **Feedback.** Every failure that a call records has a generated change set. -/
theorem Follows.generated (h : Follows plan revision runId db) (hkeys : FeedbackKeys db)
    (hstep : Step lang runId call db db') {f : SimulationFailure} (hf : f ∈ db'.failures.rows)
    (hnew : f ∉ db.failures.rows) :
    ∃ c ∈ db'.plan.changeSets.rows, ∃ node, node.nodeId = f.planNode ∧ c.status = .draft ∧
      c.planRevision = revision ∧ Generated lang db'.plan c node f := by
  cases hstep with
  | settled run row status same => exact absurd (same.failures ▸ hf) hnew
  | finished run row status ensured states next runs same =>
    obtain ⟨-, -, rfl⟩ := h.ensured row states
    exact absurd (same.failures ▸ hf) hnew
  | failed run row status ensured states state node next data infeasible ids fails
      runs rows failure failures about nodes dependencies =>
    obtain ⟨-, hrevision, rfl⟩ := h.ensured row states
    have hnode : node ∈ nodesIn db.plan run.planRevision := by
      rw [nodesIn_congr h.nodes, hrevision]
      exact h.next_mem next
    obtain ⟨f', hrows, habout, c, hc, hdraft, hcrevision, hgenerated⟩ :=
      failSimulationNode_generated hkeys hnode fails
    rcases List.mem_append.1 (hrows ▸ hf : f ∈ db.failures.rows ++ [f']) with hold | hlast
    · exact absurd hold hnew
    · obtain rfl := List.mem_singleton.1 hlast
      exact ⟨c, hc, node, habout.planNode.symm, hdraft, hcrevision.trans hrevision, hgenerated⟩
  | executed run row status ensured states state node next feasible completedDay nextDay left used
      g execution =>
    obtain ⟨-, -, rfl⟩ := h.ensured row states
    exact absurd (execution.failures ▸ hf) hnew

/-- The failures of a database belong to its runs: `run = ForeignKey(SimulationRun)`. -/
def FailuresHaveRuns (db : SimDb) : Prop :=
  ∀ f ∈ db.failures.rows, ∃ r ∈ db.runs.rows, r.runId = f.run

/-- On a revision in order, a node whose dependencies can all be executed does not fail for them. -/
theorem run_excused {draws : Draws} {snapshot : WorldSnapshot} {maxTurns : Int} {now : Nat}
    (horder : InOrder db.plan revision) (hown : OwnDependencies db.plan revision)
    (hstates : StatesHaveRuns db) (hfailures : FailuresHaveRuns db)
    (h : createSimulationRun draws snapshot revision maxTurns now db = .ok runId db₁)
    (calls : List AdvanceCall) :
    ∀ f ∈ (runTx (advancePlanSimulationRun lang runId) db₁ calls).failures.rows, f.run = runId →
      Excused db.plan f := by
  obtain ⟨run, hcreated⟩ := createSimulationRun_ok h
  have hrun : Follows db.plan revision runId
        (runTx (advancePlanSimulationRun lang runId) db₁ calls) ∧
      ∀ f ∈ (runTx (advancePlanSimulationRun lang runId) db₁ calls).failures.rows, f.run = runId →
        Excused db.plan f := by
    refine advance_invariant (I := fun s => Follows db.plan revision runId s ∧
      ∀ f ∈ s.failures.rows, f.run = runId → Excused db.plan f) ?_ ?_ calls
    · rintro call s s' ⟨hfollows, hexcused⟩ hstep
      refine ⟨hfollows.step hstep, fun f hf hrun => ?_⟩
      exact (hfollows.failures_step horder hown hstep f hf).elim (fun hold => hexcused f hold hrun) id
    · refine ⟨hcreated.follows hstates, fun f hf hrun => ?_⟩
      rw [hcreated.failures] at hf
      obtain ⟨r, hr, hid⟩ := hfailures f hf
      exact absurd (hid.trans hrun) (hcreated.fresh r hr)
  exact hrun.2

/-! ## Feedback on a revision in order -/

/-- No dependency of the revision joins nodes of one sequence. -/
def NoTies (plan : PlanDb) (revision : RevisionId) : Prop :=
  ∀ n ∈ nodesIn plan revision, ∀ p ∈ nodesIn plan revision,
    DependsOn plan revision n.nodeId p.nodeId → n.sequence.val ≠ p.sequence.val

theorem bySequence_iff : BySequence plan revision ↔ InOrder plan revision ∧ NoTies plan revision := by
  constructor
  · intro h
    refine ⟨h.inOrder, fun n hn p hp hdepends => ?_⟩
    obtain ⟨n', hn', p', hp', hnid, hpid, hlt⟩ := h _ _ hdepends
    obtain rfl := node_unique hn' hn hnid
    obtain rfl := node_unique hp' hp hpid
    exact (ne_of_lt hlt).symm
  · rintro ⟨horder, hties⟩ x y hxy
    obtain ⟨n, hn, p, hp, rfl, rfl, hprecedes⟩ := horder x y hxy
    refine ⟨n, hn, p, hp, rfl, rfl, hprecedes.resolve_right fun htie => ?_⟩
    exact hties n hn p hp hxy htie.1.symm

/-- Dependencies name nodes: `node = ForeignKey(PlanNode)`. -/
def DependenciesOfNodes (plan : PlanDb) : Prop :=
  ∀ d ∈ plan.dependencies.rows, ∃ n ∈ plan.nodes.rows, n.nodeId = d.node

/-- The node whose skill nobody has. -/
def skilledNode : PlanNode :=
  { pilotNode "node-w" "W" none (positive 20) with requiredSkills := .arr [.str "welding"] }

/-- A plan with work before the node whose skill nobody has. -/
def skilledPlan : SimDb where
  plan := { pilotDb with
    nodes := tableOf [pilotNode "node-f" "F" none (positive 10), skilledNode]
    dependencies := tableOf [{
      dependencyId := keyOf key96_pos "dep-w-f"
      revision := pilotRevision.revisionId
      node := skilledNode.nodeId
      dependsOn := keyOf key96_pos "node-f"
      dependencyType := .cut DependencyType.finishToStart
      description := ""
      metadata := .obj [] }]
    changeSets := .empty
    operations := .empty }
  runs := .empty
  states := .empty
  turns := .empty
  events := .empty
  failures := .empty
  proposals := .empty

/-- A service on the plan, among the simulation tables. -/
def onPlan {α : Type} (m : PlanM α) : SimM α := fun db =>
  match m db.plan with
  | .ok a plan => .ok a { db with plan := plan }
  | .error e plan => .error (.raised e) { db with plan := plan }

/-- The change set of the second call. -/
def applySecond : ApplyCall := { changeSetId := "changeset-2", now := 3 }

/-- A round of feedback on the plan and a second run: what stands before the failure, after it and
after the application. -/
structure Round where
  first : String
  before : SimDb
  failed : SimDb
  revision : RevisionId
  applied : SimDb
  second : String

/-- A run fails at its second call, its change set is applied, and a second run is called twice. -/
def skilledRound : SimM Round := do
  let first ← createSimulationRun (numbered 0) pricedWorld pilotRevision.revisionId 90 0
  let _ ← advancePlanSimulationRun plainLanguage first (pricedCall 1)
  let before ← get
  let _ ← advancePlanSimulationRun plainLanguage first (pricedCall 2)
  let failed ← get
  let revision ← onPlan (applyPlanChangeSet textPython applySecond)
  let applied ← get
  let second ← createSimulationRun (numbered 3) pricedWorld revision 90 3
  let _ ← advancePlanSimulationRun plainLanguage second (pricedCall 4)
  let _ ← advancePlanSimulationRun plainLanguage second (pricedCall 5)
  return ⟨first, before, failed, revision, applied, second⟩

/-- The dependencies of the node that failed can be executed. -/
def unexcused (plan : PlanDb) (f : SimulationFailure) : Bool :=
  f.failureType = .dependencyUnmet && plan.dependencies.rows.all fun d => d.node ≠ f.planNode ||
    (plan.nodes.get? d.dependsOn).any fun p =>
      isExecutablePlanNode p && p.status.text ≠ NodeStatus.cancelled

theorem not_excused {f : SimulationFailure} (h : unexcused plan f = true) : ¬ Excused plan f := by
  simp only [unexcused, Bool.and_eq_true, decide_eq_true_eq, List.all_eq_true, Bool.or_eq_true,
    Option.any_eq_true] at h
  intro hexcused
  obtain ⟨d, hd, hnode, hcannot⟩ := hexcused h.1
  rcases h.2 d hd with hother | ⟨p, hp, hexecutable, hactive⟩
  · exact hother hnode
  · exact hcannot ⟨p, hp, hexecutable, hactive⟩

/-- What the round shows. -/
def roundShows (round : Round) (db : SimDb) : Bool :=
  JoinsAll Precedes round.failed.plan pilotRevision.revisionId &&
    JoinsSome (fun p n => ¬ Precedes p n) round.applied.plan round.revision &&
    (round.before.failures.rows.isEmpty && round.before.plan.operations.rows.isEmpty &&
      round.before.plan.changeSets.rows.isEmpty && !round.failed.failures.rows.isEmpty) &&
    round.failed.plan.changeSets.rows.all (fun c => c.changeSetId = applySecond.changeSetId) &&
    db.failures.rows.any fun f => f.run = round.second && unexcused round.applied.plan f

theorem skilledRound_shows : returnsWith roundShows skilledRound skilledPlan = true := by
  decide +kernel

/-- The change set of the round was generated from its failure. -/
theorem skilledRound_generated {round : Round} {db : SimDb}
    (h : skilledRound skilledPlan = .ok round db) (hshows : roundShows round db = true) :
    ∃ locked ∈ round.failed.plan.changeSets.rows, ∃ node, ∃ failure ∈ round.failed.failures.rows,
      locked.changeSetId = applySecond.changeSetId ∧ locked.status = .draft ∧
      locked.planRevision = pilotRevision.revisionId ∧
      Generated plainLanguage round.failed.plan locked node failure ∧
      applyPlanChangeSet textPython applySecond round.failed.plan =
        .ok round.revision round.applied.plan := by
  obtain ⟨first, created, hcreate, h⟩ := run_bind_ok.1 h
  obtain ⟨_, before, hexecute, h⟩ := run_bind_ok.1 h
  rw [run_get_bind] at h
  obtain ⟨_, failed, hfail, h⟩ := run_bind_ok.1 h
  rw [run_get_bind] at h
  obtain ⟨revision, applied, happly, h⟩ := run_bind_ok.1 h
  rw [run_get_bind] at h
  obtain ⟨second, _, -, h⟩ := run_bind_ok.1 h
  obtain ⟨_, _, -, h⟩ := run_bind_ok.1 h
  obtain ⟨_, _, -, h⟩ := run_bind_ok.1 h
  obtain ⟨rfl, rfl⟩ := by simpa using h
  simp only [roundShows, Bool.and_eq_true, decide_eq_true_eq, List.isEmpty_iff, List.all_eq_true,
    Bool.not_eq_true', List.isEmpty_eq_false_iff] at hshows
  obtain ⟨⟨⟨-, ⟨⟨hfailures, hoperations⟩, hchangeSets⟩, hfailed⟩, hids⟩, -⟩ := hshows
  -- the run on the plan, up to the failing call
  obtain ⟨run, hcreated⟩ := createSimulationRun_ok hcreate
  have hfollows := (hcreated.follows fun s hs => absurd hs List.not_mem_nil).step
    (advance_ok hexecute)
  have hkeys : FeedbackKeys before :=
    ⟨fun o ho => absurd ho (by simp [hoperations]), fun c hc => absurd hc (by simp [hchangeSets])⟩
  obtain ⟨f, hf⟩ := List.exists_mem_of_ne_nil _ hfailed
  obtain ⟨c, hc, node, -, hdraft, hrevision, hgenerated⟩ :=
    hfollows.generated hkeys (advance_ok hfail) hf (by simp [hfailures])
  refine ⟨c, hc, node, f, hf, hids c hc, hdraft, hrevision, hgenerated, ?_⟩
  unfold onPlan at happly
  cases hplan : applyPlanChangeSet textPython applySecond failed.plan with
  | error e plan =>
    rw [hplan] at happly
    cases happly
  | ok newId plan =>
    rw [hplan] at happly
    cases happly
    rfl

/-- The keys of the plan are there, and the failure is one that adds prerequisites. -/
def roundFits (round : Round) (_ : SimDb) : Bool :=
  let plan := round.failed.plan
  (decide (∀ n ∈ plan.nodes.rows, ∃ r ∈ plan.revisions.rows, r.revisionId = n.revision) &&
    decide (∀ d ∈ plan.dependencies.rows, ∃ r ∈ plan.revisions.rows, r.revisionId = d.revision) &&
    decide (∀ d ∈ plan.dependencies.rows, ∃ n ∈ plan.nodes.rows, n.nodeId = d.node) &&
    plan.requirements.rows.isEmpty && plan.impacts.rows.isEmpty) &&
  (round.failed.failures.rows.all (fun f => f.failureType.addsPrerequisites) &&
    plan.nodes.rows.all fun n => n.code.text.toList.head?.all fun c => !isSpace c)

theorem skilledRound_fits :
    returnsWith (fun round db => roundShows round db && roundFits round db) skilledRound
      skilledPlan = true := by
  decide +kernel

end LiveOs.Simulation
