import LiveOs.Planning.Verify.Copy
import LiveOs.Simulation.Verify.Numbers

/-!
# What a call does to a run

A call finds the run settled, finishes it, fails a node or executes one. Whatever else it writes
belongs to the log or to the feedback, and leaves runs, states, failures and the plan's nodes and
dependencies as they are.
-/

namespace LiveOs.Simulation

open Lib Planning
open Procurement (PyDecimal)

variable {lang : Language} {db db' : SimDb} {draws : Draws} {now : Nat} {run : SimulationRun}
  {runId : String} {node : PlanNode}

/-! ## Rules -/

theorem attempt_ok {α : Type} {x : Except PyError α} {a : α} :
    attempt x db = .ok a db' ↔ x = .ok a ∧ db = db' := by
  rw [attempt, run_compute_ok]
  cases x <;> simp [Except.mapError]

/-- A computing step in front. -/
theorem attempt_bind_ok {α β : Type} {x : Except PyError α} {f : α → SimM β} {b : β} :
    (attempt x >>= f) db = .ok b db' ↔ ∃ a, x = .ok a ∧ f a db = .ok b db' := by
  rw [attempt, run_compute_bind_ok]
  cases x <;> simp [Except.mapError]

/-- A key that is not merged in keeps its value. -/
theorem get?_merged {es fs : List (String × Json)} {key : String} (h : ∀ e ∈ fs, e.1 ≠ key) :
    Json.get? (merged es fs) key = Json.get? es key := by
  unfold merged
  induction fs generalizing es with
  | nil => rfl
  | cons f fs ih =>
    rw [List.foldl_cons, ih fun e he => h e (List.mem_cons_of_mem _ he), get?_upsert,
      if_neg (h f List.mem_cons_self).symm]

/-! ## What the log and the feedback leave alone -/

/-- The same runs, states, failures, nodes and dependencies. -/
structure SameProgress (db db' : SimDb) : Prop where
  runs : db'.runs = db.runs
  states : db'.states = db.states
  failures : db'.failures = db.failures
  nodes : db'.plan.nodes = db.plan.nodes
  dependencies : db'.plan.dependencies = db.plan.dependencies

theorem SameProgress.refl (db : SimDb) : SameProgress db db := ⟨rfl, rfl, rfl, rfl, rfl⟩

theorem SameProgress.trans {a b c : SimDb} (h : SameProgress a b) (h' : SameProgress b c) :
    SameProgress a c :=
  ⟨h'.runs.trans h.runs, h'.states.trans h.states, h'.failures.trans h.failures,
    h'.nodes.trans h.nodes, h'.dependencies.trans h.dependencies⟩

theorem sameProgress_turnAndEvent {run title summary : String} {simulationDay : PositiveInt}
    {severity eventType : String} {payload : List (String × Json)}
    (h : createSimulationTurnAndEvent draws now run title summary simulationDay severity eventType
      payload db = .ok () db') : SameProgress db db' := by
  rw [createSimulationTurnAndEvent, run_get_bind] at h
  obtain ⟨turnId, -, h⟩ := attempt_bind_ok.1 h
  obtain ⟨turnNumber, -, h⟩ := attempt_bind_ok.1 h
  obtain ⟨_, db₁, hturn, h⟩ := run_bind_ok.1 h
  obtain ⟨turns, -, hturn⟩ := bind_eq_ok.1 (run_update_ok.1 hturn)
  obtain rfl := pure_eq_ok.1 hturn
  rw [run_get_bind] at h
  obtain ⟨eventId, -, h⟩ := attempt_bind_ok.1 h
  obtain ⟨title, -, h⟩ := attempt_bind_ok.1 h
  obtain ⟨events, -, h⟩ := bind_eq_ok.1 (run_update_ok.1 h)
  obtain rfl := pure_eq_ok.1 h
  exact ⟨rfl, rfl, rfl, rfl, rfl⟩

/-- The log writes nothing of the plan. -/
theorem plan_turnAndEvent {run title summary : String} {simulationDay : PositiveInt}
    {severity eventType : String} {payload : List (String × Json)}
    (h : createSimulationTurnAndEvent draws now run title summary simulationDay severity eventType
      payload db = .ok () db') : db'.plan = db.plan := by
  rw [createSimulationTurnAndEvent, run_get_bind] at h
  obtain ⟨turnId, -, h⟩ := attempt_bind_ok.1 h
  obtain ⟨turnNumber, -, h⟩ := attempt_bind_ok.1 h
  obtain ⟨_, db₁, hturn, h⟩ := run_bind_ok.1 h
  obtain ⟨turns, -, hturn⟩ := bind_eq_ok.1 (run_update_ok.1 hturn)
  obtain rfl := pure_eq_ok.1 hturn
  rw [run_get_bind] at h
  obtain ⟨eventId, -, h⟩ := attempt_bind_ok.1 h
  obtain ⟨title, -, h⟩ := attempt_bind_ok.1 h
  obtain ⟨events, -, h⟩ := bind_eq_ok.1 (run_update_ok.1 h)
  obtain rfl := pure_eq_ok.1 h
  rfl

theorem sameProgress_createOperation {changeSetId : String} {item : OperationDraft × Nat}
    (h : createOperation draws changeSetId item db = .ok () db') : SameProgress db db' := by
  rw [createOperation, run_get_bind] at h
  obtain ⟨operationId, -, h⟩ := attempt_bind_ok.1 h
  obtain ⟨operations, -, h⟩ := bind_eq_ok.1 (run_update_ok.1 h)
  obtain rfl := pure_eq_ok.1 h
  exact ⟨rfl, rfl, rfl, rfl, rfl⟩

theorem sameProgress_createPlanChangeSet {proposal : PlanRevisionProposal}
    {failure : SimulationFailure} {id : String}
    (h : createPlanChangeSetForProposal lang draws proposal node failure db = .ok id db') :
    SameProgress db db' := by
  rw [createPlanChangeSetForProposal, run_get_bind] at h
  cases hfind : db.plan.changeSets.rows.find? fun c => c.proposal = proposal.proposalId with
  | some existing =>
    simp only [hfind] at h
    obtain ⟨-, rfl⟩ := by simpa using h
    exact .refl db
  | none =>
    simp only [hfind] at h
    obtain ⟨changeSetId, -, h⟩ := attempt_bind_ok.1 h
    obtain ⟨title, -, h⟩ := attempt_bind_ok.1 h
    obtain ⟨_, db₁, hset, h⟩ := run_bind_ok.1 h
    obtain ⟨changeSets, -, hset⟩ := bind_eq_ok.1 (run_update_ok.1 hset)
    obtain rfl := pure_eq_ok.1 hset
    obtain ⟨operations, -, h⟩ := attempt_bind_ok.1 h
    obtain ⟨_, db₂, hops, h⟩ := run_bind_ok.1 h
    obtain ⟨-, rfl⟩ := by simpa using h
    have hloop : SameProgress { db with plan := { db.plan with changeSets := changeSets } } db₂ :=
      foldlM_rel (R := fun p q => SameProgress p.2 q.2) (fun p => .refl p.2)
        (fun _ _ _ hpq hqr => hpq.trans hqr)
        (fun _ _ _ _ _ _ hx => sameProgress_createOperation hx) hops
    exact ⟨hloop.runs, hloop.states, hloop.failures, hloop.nodes, hloop.dependencies⟩

/-! ## States for the nodes -/

theorem stateOf?_eq_some {node : NodeId} {state : PlanNodeRunState}
    (h : stateOf? db runId node = some state) :
    state ∈ db.states.rows ∧ state.run = runId ∧ state.planNode = node := by
  have hp := List.find?_some h
  simp only [Bool.and_eq_true, decide_eq_true_eq] at hp
  exact ⟨List.mem_of_find?_eq_some h, hp⟩

/-- The state of a node in a run is the only one. -/
theorem stateOf?_of_mem {state : PlanNodeRunState} (h : state ∈ db.states.rows) :
    stateOf? db state.run state.planNode = some state := by
  cases hfind : stateOf? db state.run state.planNode with
  | none =>
    have hall := List.find?_eq_none.1 hfind state h
    simp at hall
  | some other =>
    obtain ⟨hmem, hrun, hnode⟩ := stateOf?_eq_some hfind
    exact congrArg some (db.states.eq_of_alt hmem h (by rw [hrun, hnode]) rfl)

theorem ensureState_ok (h : ensureState draws run node db = .ok () db') :
    (∃ s, stateOf? db run.runId node.nodeId = some s ∧ db' = db) ∨
      ∃ states id, stateOf? db run.runId node.nodeId = none ∧ db' = { db with states := states } ∧
        states.rows = db.states.rows ++ [initialState run node id] := by
  rw [ensureState, run_get_bind] at h
  obtain ⟨id, -, h⟩ := attempt_bind_ok.1 h
  cases hstate : stateOf? db run.runId node.nodeId with
  | some s =>
    simp only [hstate] at h
    obtain rfl := by simpa using h
    exact .inl ⟨s, rfl, rfl⟩
  | none =>
    simp only [hstate] at h
    obtain ⟨states, hins, h⟩ := bind_eq_ok.1 (run_update_ok.1 h)
    obtain rfl := pure_eq_ok.1 h
    exact .inr ⟨states, id, rfl, rfl, (Table.insert_ok hins).1⟩

/-- Every node of the revision has a state in the run. -/
def AllStates (db : SimDb) (runId : String) (revision : RevisionId) : Prop :=
  ∀ n ∈ nodesOf db revision, ∃ s, stateOf? db runId n.nodeId = some s

/-- What the loop over the nodes does: it appends states of nodes that had none. -/
structure Ensured (run : SimulationRun) (nodes : List PlanNode) (db db' : SimDb) : Prop where
  only : db' = { db with states := db'.states }
  rows : ∃ added, db'.states.rows = db.states.rows ++ added ∧
    ∀ s ∈ added, ∃ n ∈ nodes, ∃ id, s = initialState run n id
  found : ∀ n ∈ nodes, ∃ s, stateOf? db' run.runId n.nodeId = some s

theorem stateOf?_append {db₁ : SimDb} {added : List PlanNodeRunState}
    (h : db₁.states.rows = db.states.rows ++ added) {node : NodeId} {s : PlanNodeRunState}
    (hs : stateOf? db runId node = some s) : stateOf? db₁ runId node = some s := by
  obtain ⟨hmem, rfl, rfl⟩ := stateOf?_eq_some hs
  refine stateOf?_of_mem ?_
  rw [h]
  exact List.mem_append_left _ hmem

theorem forEach_cons_ok {α : Type} {x : α} {xs : List α} {f : α → SimM Unit} :
    forEach (x :: xs) f db = .ok () db' ↔
      ∃ db₁, f x db = .ok () db₁ ∧ forEach xs f db₁ = .ok () db' := by
  rw [forEach, List.foldlM_cons, run_bind_ok]
  exact ⟨fun ⟨_, db₁, hx, hxs⟩ => ⟨db₁, hx, hxs⟩, fun ⟨db₁, hx, hxs⟩ => ⟨(), db₁, hx, hxs⟩⟩

theorem forEach_nil_ok {α : Type} {f : α → SimM Unit} :
    forEach [] f db = .ok () db' ↔ db = db' := by
  simp [forEach, List.foldlM_nil]

theorem ensureStates_ok {nodes : List PlanNode}
    (h : forEach nodes (ensureState draws run) db = .ok () db') : Ensured run nodes db db' := by
  induction nodes generalizing db with
  | nil =>
    obtain rfl := forEach_nil_ok.1 h
    exact ⟨rfl, ⟨[], by simp, by simp⟩, by simp⟩
  | cons n nodes ih =>
    obtain ⟨db₁, hn, h⟩ := forEach_cons_ok.1 h
    obtain ⟨honly, ⟨added, hrows, hadded⟩, hfound⟩ := ih h
    rcases ensureState_ok hn with ⟨s, hs, rfl⟩ | ⟨states, id, -, rfl, hstates⟩
    · refine ⟨honly, ⟨added, hrows, fun t ht => ?_⟩, fun m hm => ?_⟩
      · obtain ⟨m, hm, id, heq⟩ := hadded t ht
        exact ⟨m, List.mem_cons_of_mem _ hm, id, heq⟩
      · rcases List.mem_cons.1 hm with rfl | hm
        · exact ⟨s, stateOf?_append hrows hs⟩
        · exact hfound m hm
    · refine ⟨honly, ⟨initialState run n id :: added, ?_, fun t ht => ?_⟩, fun m hm => ?_⟩
      · rw [hrows, hstates, List.append_assoc]
        rfl
      · rcases List.mem_cons.1 ht with rfl | ht
        · exact ⟨n, List.mem_cons_self, id, rfl⟩
        · obtain ⟨m, hm, id, heq⟩ := hadded t ht
          exact ⟨m, List.mem_cons_of_mem _ hm, id, heq⟩
      · rcases List.mem_cons.1 hm with rfl | hm
        · have hmem : initialState run m id ∈ db'.states.rows := by
            rw [hrows, hstates]
            exact List.mem_append_left _ (List.mem_append_right _ List.mem_cons_self)
          exact ⟨initialState run m id, stateOf?_of_mem hmem⟩
        · exact hfound m hm

theorem table_eq {ρ κ α : Type} {pk : ρ → κ} {alt : ρ → Option α} {t u : Table ρ κ α pk alt}
    (h : t.rows = u.rows) : t = u := by
  cases t
  cases u
  cases h
  rfl

/-- Where every node has its state, nothing is added. -/
theorem Ensured.unchanged (h : Ensured run (nodesOf db run.planRevision) db db')
    (hall : AllStates db run.runId run.planRevision) : db' = db := by
  obtain ⟨added, hrows, hadded⟩ := h.rows
  have hnodup : db'.states.rows.Nodup := List.Nodup.of_map _ db'.states.pkUnique
  have hempty : added = [] := by
    refine List.eq_nil_iff_forall_not_mem.2 fun s hs => ?_
    obtain ⟨n, hn, id, rfl⟩ := hadded s hs
    obtain ⟨t, ht⟩ := hall n hn
    obtain ⟨hmem, hrun, hnode⟩ := stateOf?_eq_some ht
    -- the two states are of one node in one run
    have heq := db'.states.eq_of_alt (a := (run.runId, n.nodeId))
      (hrows ▸ List.mem_append_left _ hmem) (hrows ▸ List.mem_append_right _ hs)
      (by rw [hrun, hnode]) rfl
    rw [hrows, List.nodup_append] at hnodup
    exact hnodup.2.2 _ hmem _ hs heq
  rw [hempty, List.append_nil] at hrows
  have hstates : db'.states = db.states := table_eq hrows
  rw [h.only, hstates]

/-! ## The next node -/

/-- What is known of the node that comes next. -/
structure Next (db : SimDb) (runId : String) (state : PlanNodeRunState) (node : PlanNode) : Prop where
  mem : state ∈ db.states.rows
  ofRun : state.run = runId
  found : db.plan.nodes.get? state.planNode = some node
  executable : isExecutablePlanNode node = true
  unfinished : isDone state = false

theorem nextExecutableState_some {state : PlanNodeRunState}
    (h : nextExecutableState db runId = some (state, node)) : Next db runId state node := by
  have hmem := (orderBy_perm _ _ _).mem_iff.1 (List.mem_of_mem_head? h)
  obtain ⟨s, hs, hbind⟩ := List.mem_filterMap.1 hmem
  obtain ⟨hs, hopen⟩ := List.mem_filter.1 hs
  obtain ⟨n, hn, hite⟩ := Option.bind_eq_some_iff.1 hbind
  split at hite
  · rename_i hexecutable
    simp only [Option.some.injEq, Prod.mk.injEq] at hite
    obtain ⟨rfl, rfl⟩ := hite
    simp only [Bool.and_eq_true, decide_eq_true_eq, Bool.not_eq_true'] at hopen
    exact ⟨hs, hopen.1, hn, hexecutable, hopen.2⟩
  · cases hite

end LiveOs.Simulation
