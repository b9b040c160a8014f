import LiveOs.Planning.Verify.Order
import LiveOs.Simulation.Verify.Progress

/-!
# Generated change sets

The change set of a failure has the operations of its type, in their order. Two types of failures
add nodes and make the failed node depend on them; the others add no dependency.
-/

namespace LiveOs.Simulation

open Lib Planning
open Procurement (PyDecimal)

variable {lang : Language} {db db' : SimDb} {draws : Draws} {node : PlanNode}
  {failure : SimulationFailure} {proposal : PlanRevisionProposal}

/-! ## Drafts -/

/-- The failures whose change sets add nodes that the failed node is to depend on. -/
def FailureType.addsPrerequisites : FailureType → Bool
  | .skillShortage => true
  | .responsibilityClosureMissing => true
  | _ => false

/-- The draft neither sets a sequence nor adds a dependency. -/
def OperationDraft.keepsOrder (draft : OperationDraft) : Prop :=
  (draft.operationType = .updateNodeField → draft.targetField ≠ "sequence") ∧
    draft.operationType ≠ .addDependency

theorem drafts_keepOrder {drafts : List OperationDraft}
    (hdrafts : changeOperationsForProposal lang proposal node failure = .ok drafts)
    (htype : failure.failureType.addsPrerequisites = false) : ∀ d ∈ drafts, d.keepsOrder := by
  unfold changeOperationsForProposal at hdrafts
  cases hfailure : failure.failureType with
  | skillShortage =>
    rw [hfailure] at htype
    cases htype
  | responsibilityClosureMissing =>
    rw [hfailure] at htype
    cases htype
  | budgetUnrealistic =>
    simp only [hfailure] at hdrafts
    obtain rfl := Except.ok.inj hdrafts
    simp [budgetUnrealisticOperations, OperationDraft.keepsOrder]
  | laborShortage =>
    simp only [hfailure] at hdrafts
    obtain ⟨days, -, hdrafts⟩ := bind_eq_ok.1 hdrafts
    obtain rfl := pure_eq_ok.1 hdrafts
    simp [OperationDraft.keepsOrder]
  | resourceShortage =>
    simp only [hfailure] at hdrafts
    obtain ⟨shortages, -, hdrafts⟩ := bind_eq_ok.1 hdrafts
    obtain rfl := pure_eq_ok.1 hdrafts
    simp [OperationDraft.keepsOrder]
  | personnelIssue =>
    simp only [hfailure] at hdrafts
    obtain rfl := Except.ok.inj hdrafts
    simp [personnelIssueOperations, OperationDraft.keepsOrder]
  | dependencyUnmet =>
    simp only [hfailure] at hdrafts
    obtain rfl := Except.ok.inj hdrafts
    simp [dependencyUnmetOperations, OperationDraft.keepsOrder]

/-- The drafts begin with a node without a sequence and the dependency of the failed node on it. -/
structure Prerequisite (node : PlanNode) (suffix : String) (drafts : List OperationDraft) : Prop where
  begins : ∃ addition description rationale rest,
    drafts = addition :: dependencyOnAdded node suffix description rationale :: rest ∧
    addition.operationType = .addNode ∧
    getKey addition.newValue "sequence" = .scalar .none ∧
    getKey addition.newValue "code" = .str (suffixedCode node suffix) ∧ addition.newValue ≠ []
  noUpdates : ∀ d ∈ drafts, d.operationType ≠ .updateNodeField

/-- The suffix of the first node that a failure adds. -/
def FailureType.firstSuffix : FailureType → String
  | .skillShortage => "SKILL"
  | _ => "GRID-PRESCREEN"

theorem getKey_merged {es fs : List (String × Json)} {key : String} (h : ∀ e ∈ fs, e.1 ≠ key) :
    getKey (merged es fs) key = getKey es key := by
  rw [getKey, getKey, get?_merged h]

theorem merged_ne_nil {es fs : List (String × Json)} (h : es ≠ []) : merged es fs ≠ [] := by
  have hupsert : ∀ (es : List (String × Json)) (e : String × Json), Json.upsert es e ≠ [] := by
    intro es e
    cases es with
    | nil => simp [Json.upsert]
    | cons f es =>
      rw [Json.upsert]
      split <;> simp
  unfold merged
  induction fs generalizing es with
  | nil => exact h
  | cons f fs ih =>
    rw [List.foldl_cons]
    exact ih (hupsert es f)

theorem payload_sequence {suffix title : String} {days : Nat} {cost : PyDecimal} :
    getKey (planNodePayloadForPreparation node suffix title days cost) "sequence" =
      .scalar .none := by
  simp [planNodePayloadForPreparation, getKey, Json.get?]

theorem payload_code {suffix title : String} {days : Nat} {cost : PyDecimal} :
    getKey (planNodePayloadForPreparation node suffix title days cost) "code" =
      .str (suffixedCode node suffix) := by
  simp [planNodePayloadForPreparation, getKey, Json.get?]

theorem payload_ne_nil {suffix title : String} {days : Nat} {cost : PyDecimal} :
    planNodePayloadForPreparation node suffix title days cost ≠ [] := by
  simp [planNodePayloadForPreparation]

theorem drafts_prerequisite {drafts : List OperationDraft}
    (hdrafts : changeOperationsForProposal lang proposal node failure = .ok drafts)
    (htype : failure.failureType.addsPrerequisites = true) :
    Prerequisite node failure.failureType.firstSuffix drafts := by
  unfold changeOperationsForProposal at hdrafts
  cases hfailure : failure.failureType with
  | skillShortage =>
    simp only [hfailure] at hdrafts
    obtain ⟨missing, -, hdrafts⟩ := bind_eq_ok.1 hdrafts
    obtain ⟨names, -, hdrafts⟩ := bind_eq_ok.1 hdrafts
    obtain rfl := pure_eq_ok.1 hdrafts
    refine ⟨⟨_, _, _, _, rfl, rfl, ?_, ?_, merged_ne_nil payload_ne_nil⟩, ?_⟩
    · rw [getKey_merged (by simp), payload_sequence]
    · rw [getKey_merged (by simp), payload_code]
      rfl
    · simp [dependencyOnAdded]
  | responsibilityClosureMissing =>
    simp only [hfailure] at hdrafts
    obtain ⟨items, -, hdrafts⟩ := bind_eq_ok.1 hdrafts
    obtain rfl := pure_eq_ok.1 hdrafts
    refine ⟨⟨_, _, _, _, rfl, rfl, ?_, ?_, merged_ne_nil payload_ne_nil⟩, ?_⟩
    · rw [getKey_merged (by simp), payload_sequence]
    · rw [getKey_merged (by simp), payload_code]
      rfl
    · intro d hd
      rcases List.mem_append.1 hd with hd | hd
      · obtain ⟨spec, -, hd⟩ := List.mem_flatMap.1 hd
        simp only [closureSpecOperations, List.mem_cons, List.not_mem_nil, or_false] at hd
        rcases hd with rfl | rfl
        · simp
        · simp [dependencyOnAdded]
      · obtain ⟨item, -, rfl⟩ := List.mem_map.1 hd
        simp [closureRequirement]
  | budgetUnrealistic =>
    rw [hfailure] at htype
    cases htype
  | laborShortage =>
    rw [hfailure] at htype
    cases htype
  | resourceShortage =>
    rw [hfailure] at htype
    cases htype
  | personnelIssue =>
    rw [hfailure] at htype
    cases htype
  | dependencyUnmet =>
    rw [hfailure] at htype
    cases htype

/-! ## Rows -/

/-- The row of an operation says what its draft does. -/
structure Drafted (draft : OperationDraft) (operation : PlanChangeOperation) : Prop where
  operationType : operation.operationType = draft.operationType.value
  targetId : operation.targetId = draft.targetId
  targetField : operation.targetField = draft.targetField
  newValue : operation.newValue = .obj draft.newValue
  rationale : operation.rationale = draft.rationale
  isRequired : operation.isRequired = draft.isRequired

/-- The change set was generated from a failure of the node. -/
structure Generated (lang : Language) (plan : PlanDb) (changeSet : PlanChangeSet) (node : PlanNode)
    (failure : SimulationFailure) : Prop where
  ofRevision : node ∈ nodesIn plan changeSet.planRevision
  operations : ∃ proposal drafts, changeOperationsForProposal lang proposal node failure = .ok drafts ∧
    List.Forall₂ Drafted drafts (changeSetOperations plan changeSet.changeSetId)

theorem ofValue?_drafted {draft : OperationDraft} {operation : PlanChangeOperation}
    (h : Drafted draft operation) :
    OperationType.ofValue? operation.operationType = some draft.operationType := by
  rw [h.operationType, OperationType.ofValue?_value]

theorem payload_drafted {draft : OperationDraft} {operation : PlanChangeOperation}
    (h : Drafted draft operation) (hne : draft.newValue ≠ []) :
    operationPayload operation = .ok draft.newValue := by
  have htruthy : truthy (.obj draft.newValue) = true := by
    cases hvalue : draft.newValue with
    | nil => exact absurd hvalue hne
    | cons e es => rfl
  rw [operationPayload, h.newValue, if_pos htruthy]

/-! ## Creation -/

/-- The loop over the drafts enters their operations, with increasing sequences. -/
theorem createOperations_ok {changeSetId : String} {drafts : List OperationDraft} {k : Nat}
    (h : forEach (drafts.zipIdx k) (createOperation draws changeSetId) db = .ok () db') :
    ∃ rows, List.Forall₂ Drafted drafts rows ∧ (∀ o ∈ rows, o.changeSet = changeSetId) ∧
      (∀ o ∈ rows, k * 10 ≤ o.sequence) ∧ rows.Pairwise (fun a b => a.sequence < b.sequence) ∧
      db'.plan.operations.rows = db.plan.operations.rows ++ rows ∧
      db' = { db with plan := { db.plan with operations := db'.plan.operations } } := by
  induction drafts generalizing db k with
  | nil =>
    obtain rfl := forEach_nil_ok.1 h
    exact ⟨[], .nil, by simp, by simp, .nil, by simp, rfl⟩
  | cons draft drafts ih =>
    rw [List.zipIdx_cons] at h
    obtain ⟨db₁, hcreate, h⟩ := forEach_cons_ok.1 h
    rw [createOperation, run_get_bind] at hcreate
    obtain ⟨id, -, hcreate⟩ := attempt_bind_ok.1 hcreate
    obtain ⟨operations, hinsert, hcreate⟩ := bind_eq_ok.1 (run_update_ok.1 hcreate)
    obtain rfl := pure_eq_ok.1 hcreate
    obtain ⟨rows, hdrafted, hof, hge, hpairwise, hrows, honly⟩ := ih h
    obtain ⟨row, hinserted, hrow, hchangeSet, hsequence⟩ :
        ∃ row, operations.rows = db.plan.operations.rows ++ [row] ∧ Drafted draft row ∧
          row.changeSet = changeSetId ∧ row.sequence = k * 10 :=
      ⟨_, (Table.insert_ok hinsert).1, ⟨rfl, rfl, rfl, rfl, rfl, rfl⟩, rfl, rfl⟩
    refine ⟨row :: rows, .cons hrow hdrafted, ?_, ?_, ?_, ?_, ?_⟩
    · exact fun o ho => (List.mem_cons.1 ho).elim (fun heq => heq ▸ hchangeSet) (hof o)
    · intro o ho
      rcases List.mem_cons.1 ho with rfl | ho
      · exact hsequence.ge
      · have hle := hge o ho
        omega
    · refine List.pairwise_cons.2 ⟨fun o ho => ?_, hpairwise⟩
      have hle := hge o ho
      omega
    · rw [hrows]
      simp only
      rw [hinserted, List.append_assoc]
      rfl
    · rw [honly]

/-- The operations of a change set, where they were entered in the order of their sequences. -/
theorem changeSetOperations_appended {plan : PlanDb} {changeSetId : String}
    {old rows : List PlanChangeOperation} (hrows : plan.operations.rows = old ++ rows)
    (hold : ∀ o ∈ old, o.changeSet ≠ changeSetId) (hof : ∀ o ∈ rows, o.changeSet = changeSetId)
    (hpairwise : rows.Pairwise fun a b => a.sequence < b.sequence) :
    changeSetOperations plan changeSetId = rows := by
  have hfilter : plan.operations.rows.filter (fun o => o.changeSet = changeSetId) = rows := by
    rw [hrows, filter_append_of_none fun o ho => by simpa using hold o ho]
    exact List.filter_eq_self.2 fun o ho => decide_eq_true (hof o ho)
  rw [changeSetOperations, hfilter, orderBy]
  exact (hpairwise.imp fun hlt => .inl hlt).insertionSort_eq

/-- Operations name change sets and change sets name proposals that are there. -/
structure FeedbackKeys (db : SimDb) : Prop where
  operations : ∀ o ∈ db.plan.operations.rows, ∃ c ∈ db.plan.changeSets.rows,
    c.changeSetId = o.changeSet
  changeSets : ∀ c ∈ db.plan.changeSets.rows, ∃ p ∈ db.proposals.rows, p.proposalId = c.proposal

theorem createPlanChangeSet_generated {id : String}
    (h : createPlanChangeSetForProposal lang draws proposal node failure db = .ok id db')
    (hoperations : ∀ o ∈ db.plan.operations.rows, ∃ c ∈ db.plan.changeSets.rows,
      c.changeSetId = o.changeSet)
    (hnew : ∀ c ∈ db.plan.changeSets.rows, c.proposal ≠ proposal.proposalId)
    (hnode : node ∈ nodesIn db.plan proposal.planRevision) :
    ∃ c ∈ db'.plan.changeSets.rows, c.changeSetId = id ∧ c.status = .draft ∧
      c.planRevision = proposal.planRevision ∧ Generated lang db'.plan c node failure := by
  rw [createPlanChangeSetForProposal, run_get_bind] at h
  have hfind : db.plan.changeSets.rows.find? (fun c => c.proposal = proposal.proposalId) = none :=
    List.find?_eq_none.2 fun c hc => by simpa using hnew c hc
  simp only [hfind] at h
  obtain ⟨changeSetId, -, h⟩ := attempt_bind_ok.1 h
  obtain ⟨title, -, h⟩ := attempt_bind_ok.1 h
  obtain ⟨_, db₁, hset, h⟩ := run_bind_ok.1 h
  obtain ⟨changeSets, hinsert, hset⟩ := bind_eq_ok.1 (run_update_ok.1 hset)
  obtain rfl := pure_eq_ok.1 hset
  obtain ⟨drafts, hdrafts, h⟩ := attempt_bind_ok.1 h
  obtain ⟨_, db₂, hops, h⟩ := run_bind_ok.1 h
  obtain ⟨rfl, rfl⟩ := by simpa using h
  obtain ⟨rows, hdrafted, hof, -, hpairwise, hrows, honly⟩ := createOperations_ok hops
  obtain ⟨-, hfresh, -⟩ := Table.insert_ok hinsert
  obtain ⟨c, hinserted, hid, hdraft, hrevision⟩ :
      ∃ c, changeSets.rows = db.plan.changeSets.rows ++ [c] ∧ c.changeSetId = changeSetId ∧
        c.status = .draft ∧ c.planRevision = proposal.planRevision :=
    ⟨_, (Table.insert_ok hinsert).1, rfl, rfl, rfl⟩
  have hold : ∀ o ∈ db.plan.operations.rows, o.changeSet ≠ changeSetId := by
    intro o ho heq
    obtain ⟨c, hc, hid⟩ := hoperations o ho
    exact hfresh c hc (hid.trans heq)
  refine ⟨c, ?_, hid, hdraft, hrevision, ?_, proposal, drafts, hdrafts, ?_⟩
  · rw [honly]
    exact hinserted ▸ List.mem_append_right _ (List.mem_singleton_self _)
  · rw [honly, hrevision]
    exact hnode
  · rw [hid, changeSetOperations_appended hrows hold hof hpairwise]
    exact hdrafted

/-- A failed node leaves a failure and a change set that was generated from it. -/
theorem failSimulationNode_generated {now : Nat} {run : SimulationRun} {state : PlanNodeRunState}
    {data : FailureData} {ids : String × String} (hkeys : FeedbackKeys db)
    (hnode : node ∈ nodesIn db.plan run.planRevision)
    (h : failSimulationNode lang draws now run state node data db = .ok ids db') :
    ∃ f, db'.failures.rows = db.failures.rows ++ [f] ∧ FailureOf run node data f ∧
      ∃ c ∈ db'.plan.changeSets.rows, c.status = .draft ∧ c.planRevision = run.planRevision ∧
        Generated lang db'.plan c node f := by
  obtain ⟨_, db₁, hsave, h⟩ := run_bind_ok.1 h
  obtain rfl := pure_eq_ok.1 (run_update_ok.1 hsave)
  obtain ⟨_, db₂, hrun, h⟩ := run_bind_ok.1 h
  obtain rfl := pure_eq_ok.1 (run_update_ok.1 hrun)
  rw [run_get_bind] at h
  obtain ⟨failureId, -, h⟩ := attempt_bind_ok.1 h
  obtain ⟨title, -, h⟩ := attempt_bind_ok.1 h
  obtain ⟨_, db₃, hfailure, h⟩ := run_bind_ok.1 h
  obtain ⟨failures, hinserted, hfailure⟩ := bind_eq_ok.1 (run_update_ok.1 hfailure)
  obtain rfl := pure_eq_ok.1 hfailure
  rw [run_get_bind] at h
  obtain ⟨proposalId, -, h⟩ := attempt_bind_ok.1 h
  obtain ⟨proposalTitle, -, h⟩ := attempt_bind_ok.1 h
  obtain ⟨_, db₄, hproposal, h⟩ := run_bind_ok.1 h
  obtain ⟨proposals, hinsertedProposal, hproposal⟩ := bind_eq_ok.1 (run_update_ok.1 hproposal)
  obtain rfl := pure_eq_ok.1 hproposal
  obtain ⟨changeSetId, db₅, hchangeSet, h⟩ := run_bind_ok.1 h
  have hfeedback := sameProgress_createPlanChangeSet hchangeSet
  obtain ⟨_, db₆, hlog, h⟩ := run_bind_ok.1 h
  obtain ⟨rfl, rfl⟩ := by simpa using h
  have hplan := plan_turnAndEvent hlog
  have hsame := sameProgress_turnAndEvent hlog
  have hnew : ∀ c ∈ db.plan.changeSets.rows, c.proposal ≠ proposalId := by
    intro c hc heq
    obtain ⟨p, hp, hid⟩ := hkeys.changeSets c hc
    exact (Table.insert_ok hinsertedProposal).2.1 p hp (hid.trans heq)
  obtain ⟨c, hc, -, hdraft, hrevision, hgenerated⟩ :=
    createPlanChangeSet_generated hchangeSet hkeys.operations hnew hnode
  refine ⟨_, ?_, ⟨rfl, rfl, rfl, rfl⟩, c, by rw [hplan]; exact hc, hdraft, hrevision,
    by rw [hplan]; exact hgenerated⟩
  rw [hsame.failures, hfeedback.failures]
  exact (Table.insert_ok hinserted).1

/-! ## Codes -/

/-- No white space stands in front of the text. -/
def Unindented (text : String) : Prop := ∀ c ∈ text.toList.head?, isSpace c = false

theorem strip_of_ends {s : String} (hfirst : ∀ c ∈ s.toList.head?, isSpace c = false)
    (hlast : ∀ c ∈ s.toList.getLast?, isSpace c = false) : strip s = s := by
  have hdrop : ∀ cs : List Char, (∀ c ∈ cs.head?, isSpace c = false) → cs.dropWhile isSpace = cs := by
    intro cs hcs
    cases cs with
    | nil => rfl
    | cons c cs => rw [List.dropWhile_cons_of_neg (by simp [hcs c rfl])]
  rw [strip, hdrop _ hfirst, hdrop _ (by rwa [List.head?_reverse]), List.reverse_reverse,
    String.ofList_toList]

theorem firstSuffix_last (type : FailureType) :
    ∀ c ∈ type.firstSuffix.toList.getLast?, isSpace c = false := by
  intro c hc
  have hlast : type.firstSuffix.toList.getLast?.map isSpace = some false := by
    cases type <;> decide
  rw [Option.mem_def.1 hc] at hlast
  exact Option.some.inj hlast

theorem firstSuffix_ne_nil (type : FailureType) : type.firstSuffix.toList ≠ [] := by
  cases type <;> decide

/-- The code of the first node that a failure adds is read as it is drafted. -/
theorem strip_suffixedCode (type : FailureType) (h : Unindented node.code.text) :
    strip (suffixedCode node type.firstSuffix) = suffixedCode node type.firstSuffix := by
  have htext : (suffixedCode node type.firstSuffix).toList =
      node.code.text.toList ++ '-' :: type.firstSuffix.toList := by
    simp [suffixedCode]
  refine strip_of_ends (fun c hc => ?_) fun c hc => ?_
  · rw [htext] at hc
    cases hcode : node.code.text.toList with
    | nil =>
      rw [hcode] at hc
      obtain rfl : '-' = c := Option.some.inj hc
      decide
    | cons d ds =>
      rw [hcode] at hc
      exact h c (by rw [hcode]; exact hc)
  · rw [htext, List.getLast?_append, List.getLast?_cons,
      List.getLast?_eq_some_getLast (firstSuffix_ne_nil type)] at hc
    refine firstSuffix_last type c ?_
    rw [List.getLast?_eq_some_getLast (firstSuffix_ne_nil type)]
    simpa using hc

theorem suffixedCode_ne_empty {suffix : String} : suffixedCode node suffix ≠ "" := by
  intro h
  have hlist := congrArg String.toList h
  simp [suffixedCode] at hlist

theorem requiredStr_text {py : Python} {payload : List (String × Json)} {key text : String}
    {operation : PlanChangeOperation} (hkey : getKey payload key = .str text) (hne : text ≠ "")
    (hstrip : strip text = text) : requiredStr py payload key operation = .ok text := by
  have htruthy : truthy (.str text) = true := by
    simpa [truthy, Json.toPy, PyVal.truthy] using hne
  have hstr : py.str (.str text) = text := rfl
  rw [requiredStr, hkey, strOr, if_pos htruthy, hstr, hstrip]
  exact if_neg hne

/-! ## Applications -/

section

variable {plan plan' : PlanDb} {call : ApplyCall} {locked : PlanChangeSet} {newId : RevisionId}

/-- **The order by sequence** is kept by the change sets that add no prerequisites. -/
theorem Generated.bySequence (hgenerated : Generated lang plan locked node failure)
    (h : applyPlanChangeSet lang.py call plan = .ok newId plan')
    (hlocked : locked ∈ plan.changeSets.rows) (hid : locked.changeSetId = call.changeSetId)
    (hstatus : locked.status ≠ .applied) (hkeys : ForeignKeys plan)
    (htype : failure.failureType.addsPrerequisites = false)
    (horder : BySequence plan locked.planRevision) : BySequence plan' newId := by
  obtain ⟨proposal, drafts, hdrafts, hrows⟩ := hgenerated.operations
  refine applyPlanChangeSet_bySequence h hlocked hid hstatus hkeys (fun o ho => ?_) horder
  obtain ⟨d, hd, hdrafted⟩ := forall₂_right hrows ho
  obtain ⟨hfield, hdependency⟩ := drafts_keepOrder hdrafts htype d hd
  rw [UpdatesSequence, ofValue?_drafted hdrafted, hdrafted.targetField]
  exact ⟨fun hupdate => hfield (Option.some.inj hupdate.1) hupdate.2,
    fun heq => hdependency (Option.some.inj heq)⟩

/-- **The prerequisites** that a change set adds stand behind the node that is to wait for them. -/
theorem Generated.backwards (hgenerated : Generated lang plan locked node failure)
    (h : applyPlanChangeSet lang.py call plan = .ok newId plan')
    (hlocked : locked ∈ plan.changeSets.rows) (hid : locked.changeSetId = call.changeSetId)
    (hstatus : locked.status ≠ .applied) (hkeys : ForeignKeys plan)
    (htype : failure.failureType.addsPrerequisites = true) (hcode : Unindented node.code.text) :
    Backwards plan' newId := by
  obtain ⟨proposal, drafts, hdrafts, hrows⟩ := hgenerated.operations
  obtain ⟨⟨addition, description, rationale, rest, rfl, hadd, hsequence, hkey, hne⟩, hupdates⟩ :=
    drafts_prerequisite hdrafts htype
  obtain ⟨o₁, _, hfirst, htail, hoperations⟩ := List.forall₂_cons_left_iff.1 hrows
  obtain ⟨o₂, orest, hsecond, hrest, rfl⟩ := List.forall₂_cons_left_iff.1 htail
  refine applyPlanChangeSet_backwards h hlocked hid hstatus hkeys hoperations (fun o ho => ?_)
    ((ofValue?_drafted hfirst).trans (congrArg some hadd)) (ofValue?_drafted hsecond)
    (payload_drafted hfirst hne) hsequence
    (requiredStr_text hkey suffixedCode_ne_empty (strip_suffixedCode _ hcode))
    (payload_drafted hsecond (List.cons_ne_nil _ _)) ?_ ?_ suffixedCode_ne_empty
  · obtain ⟨d, hd, hdrafted⟩ := forall₂_right hrest ho
    rw [UpdatesSequence, ofValue?_drafted hdrafted]
    exact fun hupdate => hupdates d (List.mem_cons_of_mem _ (List.mem_cons_of_mem _ hd))
      (Option.some.inj hupdate.1)
  · simp [dependencyOnAdded, getKey, Json.get?]
  · simp [dependencyOnAdded, getKey, Json.get?]

end

end LiveOs.Simulation
