import LiveOs.Planning.Verify.Preflight
import LiveOs.ZeroStart.Verify.Coverage

/-!
# Feedback on the startup gate converges

A change set is returned for a gate that is missing or incomplete. Its operations are the drafts of
what is missing; they pass the preflight check and name codes and columns that fit, so that only the
copy of the revision, the ids or the numbers of nodes can be refused. Once they are applied the gate
is complete, and a complete gate asks for nothing.
-/

namespace LiveOs.ZeroStart

open Lib Planning
open Simulation (OperationDraft Draws Drafted)

variable {py : Python}

/-! ## Creation -/

section

variable {db db' : FeedbackDb} {draws : Draws} {now : Nat} {run : FeedbackRun} {failure : String}

/-- The loop over the drafts enters their operations, with increasing sequences. -/
theorem createFeedbackOperations_ok {changeSetId : String} {drafts : List OperationDraft} {k : Nat}
    (h : (drafts.zipIdx k).foldlM (fun _ item => createFeedbackOperation draws changeSetId item) ()
      db = .ok () db') :
    ∃ rows, List.Forall₂ Drafted drafts rows ∧ (∀ o ∈ rows, o.changeSet = changeSetId) ∧
      (∀ o ∈ rows, k ≤ o.sequence) ∧ rows.Pairwise (fun a b => a.sequence < b.sequence) ∧
      db'.plan.operations.rows = db.plan.operations.rows ++ rows ∧
      db' = { db with plan := { db.plan with operations := db'.plan.operations } } := by
  induction drafts generalizing db k with
  | nil =>
    obtain rfl := by simpa [List.foldlM_nil] using h
    exact ⟨[], .nil, by simp, by simp, .nil, by simp, rfl⟩
  | cons draft drafts ih =>
    rw [List.zipIdx_cons, List.foldlM_cons] at h
    obtain ⟨_, db₁, hcreate, h⟩ := run_bind_ok.1 h
    rw [createFeedbackOperation, run_get_bind] at hcreate
    obtain ⟨id, -, hcreate⟩ := run_compute_bind_ok.1 hcreate
    obtain ⟨operations, hinsert, hcreate⟩ := bind_eq_ok.1 (run_update_ok.1 hcreate)
    obtain rfl := pure_eq_ok.1 hcreate
    obtain ⟨rows, hdrafted, hof, hge, hpairwise, hrows, honly⟩ := ih h
    obtain ⟨row, hinserted, hrow, hchangeSet, hsequence⟩ :
        ∃ row, operations.rows = db.plan.operations.rows ++ [row] ∧ Drafted draft row ∧
          row.changeSet = changeSetId ∧ row.sequence = k :=
      ⟨_, (Table.insert_ok hinsert).1, ⟨rfl, rfl, rfl, rfl, rfl, rfl⟩, rfl, rfl⟩
    refine ⟨row :: rows, .cons hrow hdrafted, ?_, ?_, ?_, ?_, ?_⟩
    · exact fun o ho => (List.mem_cons.1 ho).elim (fun heq => heq ▸ hchangeSet) (hof o)
    · intro o ho
      rcases List.mem_cons.1 ho with rfl | ho
      · exact hsequence.ge
      · have hle := hge o ho
        omega
    · refine List.pairwise_cons.2 ⟨fun o ho => ?_, hpairwise⟩
      have hle := hge o ho
      omega
    · rw [hrows]
      simp only
      rw [hinserted, List.append_assoc]
      rfl
    · rw [honly]

/-- A draft change set for the run with the given operations was created, and nothing else of the
plan has changed. -/
structure Created (db db' : FeedbackDb) (run : FeedbackRun) (drafts : List OperationDraft)
    (changeSet : PlanChangeSet) : Prop where
  mem : changeSet ∈ db'.plan.changeSets.rows
  status : changeSet.status = .draft
  planRevision : changeSet.planRevision = run.planRevision
  metadata : changeSet.metadata = .obj [("scenario", .str "zero_start")]
  operations : List.Forall₂ Drafted drafts (changeSetOperations db'.plan changeSet.changeSetId)
  frame : db'.plan = { db.plan with
    changeSets := db'.plan.changeSets, operations := db'.plan.operations }

theorem createZeroStartFeedback_ok {gate : Option PlanNode} {includeGate : Bool}
    {caps : Option (List Simulation.CapabilityRequirement)}
    {docs : Option (List Simulation.DocumentRequirement)}
    {created : ZeroStartProposal × PlanChangeSet}
    (hoperations : ∀ o ∈ db.plan.operations.rows, ∃ c ∈ db.plan.changeSets.rows,
      c.changeSetId = o.changeSet)
    (h : createZeroStartFeedback draws now run failure gate includeGate caps docs db =
      .ok created db') :
    Created db db' run (feedbackOperations includeGate (caps.getD startupCapabilities)
      (docs.getD startupDocumentSigners)) created.2 := by
  rw [createZeroStartFeedback, run_get_bind] at h
  obtain ⟨proposalId, -, h⟩ := run_compute_bind_ok.1 h
  obtain ⟨_, db₁, hproposal, h⟩ := run_bind_ok.1 h
  obtain ⟨proposals, -, hproposal⟩ := bind_eq_ok.1 (run_update_ok.1 hproposal)
  obtain rfl := pure_eq_ok.1 hproposal
  obtain ⟨changeSetId, -, h⟩ := run_compute_bind_ok.1 h
  obtain ⟨_, db₂, hset, h⟩ := run_bind_ok.1 h
  obtain ⟨changeSets, hinsert, hset⟩ := bind_eq_ok.1 (run_update_ok.1 hset)
  obtain ⟨texts, -, hset⟩ := bind_eq_ok.1 hset
  obtain rfl := pure_eq_ok.1 hset
  obtain ⟨_, db₃, hops, h⟩ := run_bind_ok.1 h
  obtain ⟨rfl, rfl⟩ := by simpa using h
  obtain ⟨rows, hdrafted, hof, -, hpairwise, hrows, honly⟩ := createFeedbackOperations_ok hops
  obtain ⟨hinserted, hfresh, -⟩ := Table.insert_ok hinsert
  have hold : ∀ o ∈ db.plan.operations.rows, o.changeSet ≠ changeSetId := by
    intro o ho heq
    obtain ⟨c, hc, hid⟩ := hoperations o ho
    exact hfresh c hc (hid.trans heq)
  refine ⟨?_, rfl, rfl, rfl, ?_, ?_⟩
  · rw [honly]
    exact hinserted ▸ List.mem_append_right _ (List.mem_singleton_self _)
  · rw [Simulation.changeSetOperations_appended hrows hold hof hpairwise]
    exact hdrafted
  · rw [honly]

/-- Two ways to a new change set: the gate is missing, or it lacks requirements. -/
inductive Reason (plan : PlanDb) (run : FeedbackRun) : List OperationDraft → Prop
  | noGate (absent : gateNode? plan run.planRevision = none) : Reason plan run
      (gateNodeDraft :: (missingOnGate (coverageOf [])).map GateRequirement.draft)
  | incomplete (gate : PlanNode) (named : List (Option (RequirementKind × Json)))
    (found : gateNode? plan run.planRevision = some gate)
    (read : (requirementsAt plan gate.nodeId).mapM namedCode = .ok named) : Reason plan run
      ((missingOnGate (coverageOf named)).map GateRequirement.draft)

theorem coverageOf_nil : (coverageOf []).missingCapabilities = startupCapabilities ∧
    (coverageOf []).missingDocuments = startupDocumentSigners := ⟨rfl, rfl⟩

/-- **Feedback.** Without a draft to use again, a change set that is returned is a new one. -/
theorem getOrCreateZeroStartFeedback_ok {proposal : Option ZeroStartProposal}
    {changeSet : PlanChangeSet}
    (hoperations : ∀ o ∈ db.plan.operations.rows, ∃ c ∈ db.plan.changeSets.rows,
      c.changeSetId = o.changeSet)
    (hnone : reusableDrafts db run = [])
    (h : getOrCreateZeroStartFeedback draws now run failure db =
      .ok (proposal, some changeSet) db') :
    ∃ drafts, Reason db.plan run drafts ∧ Created db db' run drafts changeSet := by
  rw [getOrCreateZeroStartFeedback, run_get_bind, hnone] at h
  simp only [List.head?_nil, hasGate_iff] at h
  cases hgate : gateNode? db.plan run.planRevision with
  | none =>
    simp only [hgate, Option.isSome_none, Bool.false_eq_true, if_false] at h
    obtain ⟨created, db₁, hcreated, h⟩ := run_bind_ok.1 h
    obtain ⟨⟨rfl, rfl⟩, rfl⟩ := by simpa using h
    exact ⟨_, .noGate hgate, createZeroStartFeedback_ok hoperations hcreated⟩
  | some gate =>
    simp only [hgate, Option.isSome_some, if_true] at h
    obtain ⟨coverage, hcoverage, h⟩ := run_compute_bind_ok.1 h
    obtain ⟨named, hnamed, rfl⟩ := coverage_ok.1 hcoverage
    split at h
    · simp at h
    · obtain ⟨created, db₁, hcreated, h⟩ := run_bind_ok.1 h
      obtain ⟨⟨rfl, rfl⟩, rfl⟩ := by simpa using h
      exact ⟨_, .incomplete gate named hgate hnamed,
        createZeroStartFeedback_ok hoperations hcreated⟩

/-- A complete gate asks for nothing. -/
theorem getOrCreateZeroStartFeedback_complete {gate : PlanNode} {coverage : Coverage}
    (hnone : reusableDrafts db run = [])
    (hgate : gateNode? db.plan run.planRevision = some gate)
    (hcoverage : zeroStartRequirementCoverage db.plan gate = .ok coverage)
    (hcomplete : coverage.isComplete = true) :
    getOrCreateZeroStartFeedback draws now run failure db = .ok (none, none) db := by
  rw [getOrCreateZeroStartFeedback, run_get_bind, hnone]
  simp only [List.head?_nil, hasGate_iff, hgate, Option.isSome_some, if_true, hcoverage]
  rw [run_bind_of_ok (show compute (Except.ok coverage) db = .ok coverage db from rfl),
    if_pos hcomplete]
  rfl

end

/-! ## Refusals -/

/-- Why a feedback change set is not applied: the revision is not numbered, not entered or not
copied, no generated id is free, or the numbers for nodes are used up. -/
inductive NotFollowed (py : Python) (plan : PlanDb) (call : ApplyCall) (changeSet : PlanChangeSet)
    (source : PlanRevision) : PyError → Prop
  | noFreeCode (e : PyError) (failed : nextRevisionCode py plan source = .error e) :
    NotFollowed py plan call changeSet source e
  | noFreeId (model : ModelName) : NotFollowed py plan call changeSet source (noFreeId model)
  | notEntered (id : RevisionId) (code : String) (e : PyError)
    (failed : newRevision changeSet source call id code = .error e) :
    NotFollowed py plan call changeSet source e
  | notCopied (revision : PlanRevision) (revisions : RevisionTable) (e : PyError)
    (after : PlanDb)
    (failed : copyRevisionContents source (startContext call revision)
      { plan with revisions := revisions } = .error e after)
    (cause : NotCopied (revisionNodes plan source.revisionId)
      (revisionDependencies plan source.revisionId) e) :
    NotFollowed py plan call changeSet source e
  | noSequence (absent : gateNode? plan source.revisionId = none) (n : PlanNode)
    (mem : n ∈ nodesIn plan source.revisionId) (last : 4294967285 < n.sequence.val) :
    NotFollowed py plan call changeSet source .data

section

variable {E : PyError → Prop} {context : ApplicationContext} {db : PlanDb} {id : NodeId}

/-- A plain text is read as a decimal. -/
theorem decimalValue_plain {v : Json} {default : Number} (int frac : List Char)
    (htext : py.str v = String.ofList (plainChars false int frac))
    (hint : int.all Char.isDigit = true) (hne : int ≠ []) (hfrac : frac.all Char.isDigit = true)
    (hblank : isBlank v = false) : decimalValue py v default =
      .ok (.finite (signed false (natOfDigits (int ++ frac))) (-frac.length)) := by
  have hread : decimalOfText py.digits (String.ofList (plainChars false int frac)) =
      some (.finite (signed false (natOfDigits (int ++ frac))) (-frac.length)) :=
    decimalOfText_plain (by simpa using hint) hne (by simpa using hfrac)
  unfold Planning.decimalValue decimalOf
  rw [if_neg (by simp [hblank]), htext, hread]

theorem decimalValue_zero {default : Number} :
    decimalValue py (.str "0.00") default = .ok (.finite 0 (-2)) :=
  decimalValue_plain ['0'] ['0', '0'] rfl rfl (by simp) rfl rfl

theorem decimalValue_days {default : Number} :
    decimalValue py (.str "14.00") default = .ok (.finite 1400 (-2)) :=
  decimalValue_plain ['1', '4'] ['0', '0'] rfl rfl (by simp) rfl rfl

/-- The columns take the requirement. -/
def storable (r : GateRequirement) : Bool :=
  r.name ≠ "" && strip r.name = r.name && r.name.length ≤ 255 && r.requirementType ≠ "" &&
    r.requirementType.length ≤ 32 && r.unit ≠ "" && r.unit.length ≤ 32 &&
    (r.quantity = 1 || r.quantity = 2)

theorem storable_startup : (∀ c ∈ startupCapabilities, storable (capabilityOnGate c) = true) ∧
    ∀ d ∈ startupDocumentSigners, storable (documentOnGate d) = true := by
  decide +kernel

theorem decimalValue_quantity {q : Int} (h : q = 1 ∨ q = 2) {default : Number} :
    decimalValue py (.scalar (.int q)) default = .ok (.finite q 0) := by
  rcases h with rfl | rfl
  · exact decimalValue_plain ['1'] [] rfl rfl (by simp) rfl rfl
  · exact decimalValue_plain ['2'] [] rfl rfl (by simp) rfl rfl

/-- A requirement on the gate is refused only where no id is free. -/
theorem raises_applyRequirement (hid : E (noFreeId PlanRequirement.model)) {r : GateRequirement}
    {operation : PlanChangeOperation} (hdrafted : Drafted r.draft operation)
    (hstorable : storable r = true) (hknows : KnowsGate context id) :
    Raises E (applyOperation py context operation) db := by
  obtain ⟨hnodeId, htarget, hcode, hname, htype, hmetadata, hquantity, hunit, hcost, htotal⟩ :=
    draft_key (r := r)
  simp only [storable, Bool.and_eq_true, Bool.or_eq_true, decide_eq_true_eq, ne_eq] at hstorable
  obtain ⟨⟨⟨⟨⟨⟨⟨hname0, hstrip⟩, hnameFits⟩, htype0⟩, htypeFits⟩, hunit0⟩, hunitFits⟩, hq⟩ :=
    hstorable
  have hread : operationPayload operation = .ok r.draft.newValue :=
    Simulation.payload_drafted hdrafted (List.cons_ne_nil _ _)
  have hadd : OperationType.ofValue? operation.operationType = some .addRequirement :=
    Simulation.ofValue?_drafted hdrafted
  have happly : applyOperation py context operation = applyAddRequirement py operation context := by
    rw [applyOperation, hadd]
  obtain ⟨node, hnode, -, s, hs⟩ := hknows.resolve py hnodeId htarget hcode
  rw [happly]
  refine raises_compute_of_ok hread ?_
  refine raises_compute_of_ok hnode ?_
  refine raises_compute_of_ok (Simulation.requiredStr_text hname hname0 hstrip) ?_
  refine raises_compute_bind (by rw [hs]; exact fails_ok) fun slug _ => ?_
  refine raises_get_bind ?_
  refine raises_compute_bind (fails_uniqueModelId hid) fun requirementId hfree => ?_
  refine raises_compute_of_ok (by rw [hquantity, decimalValue_quantity hq]) ?_
  refine raises_compute_of_ok (by rw [hcost, decimalValue_zero]) ?_
  refine raises_compute_of_ok (by rw [htotal, decimalValue_zero]) ?_
  refine raises_compute_bind (by rw [hmetadata, spread_obj]; exact fails_ok) fun metadata _ => ?_
  refine raises_compute_bind ?_ fun storedType _ => ?_
  · rw [htype, strOr_text htype0]
    exact fails_of_ok (varChar_store_of_length htypeFits).choose_spec
  refine raises_compute_bind (fails_of_ok (varChar_store_of_length hnameFits).choose_spec)
    fun storedName _ => ?_
  refine raises_compute_bind ?_ fun storedQuantity _ => ?_
  · rcases hq with hq | hq <;> rw [hq]
    · exact fails_of_ok rfl
    · exact fails_of_ok rfl
  refine raises_compute_bind ?_ fun storedUnit _ => ?_
  · rw [hunit, strOr_text hunit0]
    exact fails_of_ok (varChar_store_of_length hunitFits).choose_spec
  refine raises_compute_bind (fails_of_ok rfl) fun storedCost _ => ?_
  refine raises_compute_bind (fails_of_ok rfl) fun storedTotal _ => ?_
  exact (raises_createRequirement hfree).bind_pure

theorem raises_applyRequirements (hid : E (noFreeId PlanRequirement.model))
    {reqs : List GateRequirement} {operations : List PlanChangeOperation}
    (hdrafted : RequirementsDrafted reqs operations) (hstorable : ∀ r ∈ reqs, storable r = true)
    (hknows : KnowsGate context id) :
    Raises E (operations.foldlM (applyOperation py) context) db := by
  induction hdrafted generalizing context db with
  | nil => exact raises_pure
  | cons hfirst _ ih =>
    rw [List.foldlM_cons]
    refine (raises_applyRequirement hid hfirst (hstorable _ List.mem_cons_self) hknows).bind
      fun context₁ db₁ hstep => ?_
    obtain ⟨row, -, -, -, hmaps⟩ := applyRequirement_ok hfirst hknows hstep
    exact ih (fun r hr => hstorable r (List.mem_cons_of_mem _ hr)) (hknows.of_sameMaps hmaps)

theorem gateNodeDraft_values : getKey gateNodeDraft.newValue "parent_id" = .scalar .none ∧
    getKey gateNodeDraft.newValue "parent_code" = .scalar .none ∧
    getKey gateNodeDraft.newValue "sequence" = .scalar .none ∧
    getKey gateNodeDraft.newValue "planned_start_day" = .scalar .none ∧
    getKey gateNodeDraft.newValue "planned_end_day" = .scalar .none ∧
    getKey gateNodeDraft.newValue "estimated_cost_low" = .scalar .none ∧
    getKey gateNodeDraft.newValue "estimated_cost_high" = .scalar .none ∧
    getKey gateNodeDraft.newValue "status" = .scalar .none ∧
    getKey gateNodeDraft.newValue "title" = .str "自媒体报名筛选与启动门槛确认" ∧
    getKey gateNodeDraft.newValue "node_type" = .str NodeType.recruitment ∧
    getKey gateNodeDraft.newValue "required_people_min" = .scalar (.int 1) ∧
    getKey gateNodeDraft.newValue "required_people_max" = .scalar (.int 3) ∧
    getKey gateNodeDraft.newValue "required_person_days" = .str "14.00" ∧
    (∀ default, getKeyOr gateNodeDraft.newValue "planned_duration_days" default =
      .scalar (.int 7)) ∧
    (∀ default, getKeyOr gateNodeDraft.newValue "estimated_cost_expected" default =
      .str "0.00") ∧
    ∃ es, getKey gateNodeDraft.newValue "metadata" = .obj es := by
  simp [gateNodeDraft, getKey, getKeyOr, Json.get?]

/-- The gate node is refused only where no id or no number is free. -/
theorem raises_applyGateNode (hid : E (noFreeId PlanNode.model))
    (hsequence : 4294967295 < nextNodeSequence context → E .data)
    (hunknown : lookup context.nodesByCode "Z0" = none) {operation : PlanChangeOperation}
    (hdrafted : Drafted gateNodeDraft operation) :
    Raises E (applyOperation py context operation) db := by
  obtain ⟨hparentId, hparentCode, hseq, hstart, hend, hlow, hhigh, hstatus, htitle, htype, hmin,
    hmax, hdays, hduration, hcost, es, hmetadata⟩ := gateNodeDraft_values
  have hread : operationPayload operation = .ok gateNodeDraft.newValue :=
    Simulation.payload_drafted hdrafted (List.cons_ne_nil _ _)
  have hadd : OperationType.ofValue? operation.operationType = some .addNode :=
    Simulation.ofValue?_drafted hdrafted
  have happly : applyOperation py context operation = applyAddNode py operation context := by
    rw [applyOperation, hadd]
  have hvarChar : ∀ {n : Nat} {s : String}, s.length ≤ n →
      Fails E (VarChar.store s : Except PyError (VarChar n)) :=
    fun h => fails_of_ok (varChar_store_of_length h).choose_spec
  have htitleRead : requiredStr py gateNodeDraft.newValue "title" operation =
      .ok "自媒体报名筛选与启动门槛确认" :=
    Simulation.requiredStr_text htitle (by decide) (by decide +kernel)
  rw [happly]
  refine raises_compute_of_ok hread ?_
  refine raises_compute_of_ok requiredStr_code ?_
  rw [hunknown, if_neg (by simp)]
  beta_reduce
  refine raises_compute_of_ok (by rw [hcost, decimalValue_zero]) ?_
  refine raises_compute_bind ?_ fun metadata _ => ?_
  · rw [hmetadata]
    exact fails_ite (fun _ => fails_ok) fun _ => fails_ok
  refine raises_get_bind ?_
  refine raises_compute_bind (fails_uniqueModelId hid) fun nodeId hfree => ?_
  refine raises_compute_bind (by
    rw [resolveOptionalParent, hparentId, hparentCode]; exact fails_of_ok rfl) fun parent _ => ?_
  refine raises_compute_of_ok (a := (nextNodeSequence context : Int)) (by rw [hseq]; rfl) ?_
  refine raises_compute_of_ok htitleRead ?_
  refine raises_compute_of_ok (a := none) (by rw [hstart]; rfl) ?_
  refine raises_compute_of_ok (a := 7) (by rw [hduration]; rfl) ?_
  refine raises_compute_of_ok (a := none) (by rw [hend]; rfl) ?_
  refine raises_compute_of_ok (a := .finite 0 (-2)) (by rw [hlow]; rfl) ?_
  refine raises_compute_of_ok (a := .finite 0 (-2)) (by rw [hhigh]; rfl) ?_
  refine raises_compute_of_ok (a := 1) (by rw [hmin]; rfl) ?_
  refine raises_compute_of_ok (a := 3) (by rw [hmax]; rfl) ?_
  refine raises_compute_of_ok (by rw [hdays, decimalValue_days]) ?_
  refine raises_compute_bind (fun e he => ?_) fun storedSequence _ => ?_
  · unfold PositiveInt.store at he
    split at he
    · cases he
    · cases he
      exact hsequence (by omega)
  refine raises_compute_bind (hvarChar (by decide)) fun storedCode _ => ?_
  refine raises_compute_bind (hvarChar (by decide)) fun storedTitle _ => ?_
  refine raises_compute_bind (by rw [htype, strOr_text (by decide)]; exact hvarChar (by decide))
    fun storedType _ => ?_
  refine raises_compute_bind (by
    rw [hstatus]; exact hvarChar (show NodeStatus.planned.length ≤ 32 by decide)) fun status _ => ?_
  refine raises_compute_bind (fails_of_ok rfl) fun storedStart _ => ?_
  refine raises_compute_bind (fails_of_ok rfl) fun storedDuration _ => ?_
  refine raises_compute_bind (fails_of_ok rfl) fun storedEnd _ => ?_
  refine raises_compute_bind (fails_of_ok rfl) fun storedLow _ => ?_
  refine raises_compute_bind (fails_of_ok rfl) fun storedExpected _ => ?_
  refine raises_compute_bind (fails_of_ok rfl) fun storedHigh _ => ?_
  refine raises_compute_bind (fails_of_ok rfl) fun storedMin _ => ?_
  refine raises_compute_bind (fails_of_ok rfl) fun storedMax _ => ?_
  refine raises_compute_bind (fails_of_ok rfl) fun storedDays _ => ?_
  refine (raises_createNode hfree).bind fun _ _ _ => ?_
  rw [gateNodeDraft_key.2]
  exact raises_pure.bind_pure

end

/-! ## The preflight check -/

theorem valid_requirement {r : GateRequirement} {operation : PlanChangeOperation}
    (hdrafted : Drafted r.draft operation) (hstorable : storable r = true) :
    validateOperation py operation = [] := by
  obtain ⟨-, -, hcode, hname, -⟩ := draft_key (r := r)
  simp only [storable, Bool.and_eq_true, decide_eq_true_eq, ne_eq] at hstorable
  obtain ⟨⟨⟨⟨⟨⟨⟨hname0, hstrip⟩, -⟩, -⟩, -⟩, -⟩, -⟩, -⟩ := hstorable
  have hadd : OperationType.ofValue? operation.operationType = some .addRequirement :=
    Simulation.ofValue?_drafted hdrafted
  have hcodeRead : lacksKey py r.draft.newValue "node_code" = false :=
    lacksKey_text hcode (by decide) (by decide +kernel)
  have hnameRead : lacksKey py r.draft.newValue "name" = false := lacksKey_text hname hname0 hstrip
  have htruthy : truthy (.obj r.draft.newValue) = true := rfl
  simp [validateOperation, hadd, hdrafted.newValue, htruthy, validateOperationPayload,
    requireAnyPayloadKey, requirePayloadKeys, hcodeRead, hnameRead]

theorem valid_gateNode {operation : PlanChangeOperation}
    (hdrafted : Drafted gateNodeDraft operation) : validateOperation py operation = [] := by
  have hadd : OperationType.ofValue? operation.operationType = some .addNode :=
    Simulation.ofValue?_drafted hdrafted
  obtain ⟨-, -, -, -, -, -, -, -, htitle, -⟩ := gateNodeDraft_values
  have hcodeRead : lacksKey py gateNodeDraft.newValue "code" = false :=
    lacksKey_text gateNodeDraft_key.1 (by decide) (by decide +kernel)
  have htitleRead : lacksKey py gateNodeDraft.newValue "title" = false :=
    lacksKey_text htitle (by decide) (by decide +kernel)
  have htruthy : truthy (.obj gateNodeDraft.newValue) = true := rfl
  simp [validateOperation, hadd, hdrafted.newValue, htruthy, validateOperationPayload,
    requirePayloadKeys, hcodeRead, htitleRead]

theorem storable_missing {named : List (Option (RequirementKind × Json))} :
    ∀ r ∈ missingOnGate (coverageOf named), storable r = true := by
  obtain ⟨hcaps, hdocs⟩ := storable_startup
  intro r hr
  rw [missingOnGate, List.mem_append, List.mem_map, List.mem_map] at hr
  rcases hr with ⟨c, hc, rfl⟩ | ⟨d, hd, rfl⟩
  · simp only [coverageOf, List.mem_filter] at hc
    exact hcaps c hc.1
  · simp only [coverageOf, List.mem_filter] at hd
    exact hdocs d hd.1

/-! ## The loop -/

section

variable {db db' : FeedbackDb} {draws : Draws} {now : Nat} {run : FeedbackRun} {failure : String}
  {drafts : List OperationDraft} {changeSet : PlanChangeSet} {call : ApplyCall}

/-- The operations of a feedback change set pass the preflight check. -/
theorem Created.valid (h : Created db db' run drafts changeSet)
    (hreason : Reason db.plan run drafts) :
    validatePlanChangeSetOperations py db'.plan changeSet.changeSetId = [] := by
  have hrequirements : ∀ {reqs : List GateRequirement} {ops : List PlanChangeOperation},
      List.Forall₂ Drafted (reqs.map GateRequirement.draft) ops →
      (∀ r ∈ reqs, storable r = true) → ∀ o ∈ ops, validateOperation py o = [] := by
    intro reqs ops hops hstorable o ho
    rw [List.forall₂_map_left_iff] at hops
    obtain ⟨r, hr, hdrafted⟩ := forall₂_right hops ho
    exact valid_requirement hdrafted (hstorable r hr)
  refine List.flatMap_eq_nil_iff.2 fun o ho => ?_
  have hops := h.operations
  cases hreason with
  | noGate absent =>
    obtain ⟨addition, rest, haddition, hrest, hsplit⟩ := List.forall₂_cons_left_iff.1 hops
    rw [hsplit] at ho
    rcases List.mem_cons.1 ho with rfl | ho
    · exact valid_gateNode haddition
    · exact hrequirements hrest storable_missing o ho
  | incomplete gate named found read => exact hrequirements hops storable_missing o ho

theorem Created.keys (h : Created db db' run drafts changeSet) (hkeys : ForeignKeys db.plan) :
    ForeignKeys db'.plan := by
  rw [h.frame]
  exact ⟨hkeys.nodes, hkeys.dependencies, hkeys.requirements, hkeys.impacts⟩

theorem Created.gate (h : Created db db' run drafts changeSet) (revision : RevisionId) :
    gateNode? db'.plan revision = gateNode? db.plan revision := by
  rw [h.frame]
  rfl

theorem Created.requirements (h : Created db db' run drafts changeSet) (node : NodeId) :
    requirementsAt db'.plan node = requirementsAt db.plan node := by
  rw [h.frame]
  rfl

theorem Created.codes (h : Created db db' run drafts changeSet) (revision : RevisionId) :
    UniqueCodes db'.plan revision ↔ UniqueCodes db.plan revision := by
  rw [h.frame]
  exact Iff.rfl

/-- What a feedback change set is refused for. -/
theorem Created.refused (h : Created db db' run drafts changeSet)
    (hreason : Reason db.plan run drafts) (hunique : UniqueCodes db.plan run.planRevision)
    {source : PlanRevision} (hsource : db'.plan.revisions.get? run.planRevision = some source)
    (hcall : call.changeSetId = changeSet.changeSetId) {e : PyError} {plan : PlanDb}
    (happly : applyPlanChangeSet py call db'.plan = .error e plan) :
    NotFollowed py db'.plan call changeSet source e := by
  obtain ⟨-, hsourceId⟩ := Table.get?_eq_some.1 hsource
  obtain ⟨-, after, happly⟩ := run_atomic_error.1 happly
  rw [run_get_bind, hcall, Table.get?_eq_some.2 ⟨h.mem, rfl⟩] at happly
  simp only [h.status] at happly
  have hunique' : UniqueCodes db'.plan source.revisionId := by
    rw [hsourceId, h.codes]
    exact hunique
  refine raises_applyFresh_of (h.planRevision ▸ hsource) (h.valid hreason)
    (fun e he => .noFreeCode e he) (.noFreeId _) (fun id code e he => .notEntered id code e he)
    (fun revision revisions e after hfailed =>
      have hcause := raises_copyRevisionContents rfl e after hfailed
      .notCopied revision revisions e after hfailed hcause)
    (fun revision revisions context₁ copied hcopy => ?_)
    (fun account => by rw [h.metadata, assigned, spread_obj]; exact fails_ok) e after happly
  obtain ⟨copies, hcopied⟩ := copyRevisionContents_ok rfl hcopy
  have hops := h.operations
  cases hreason with
  | noGate absent =>
    have habsent : gateNode? db'.plan source.revisionId = none := by
      rw [hsourceId, h.gate]
      exact absent
    obtain ⟨addition, rest, haddition, hrest, hsplit⟩ := List.forall₂_cons_left_iff.1 hops
    rw [List.forall₂_map_left_iff] at hrest
    rw [hsplit, List.foldlM_cons]
    refine (raises_applyGateNode (.noFreeId _) (fun hlast => ?_) ?_ haddition).bind
      fun context₂ db₂ hnode => ?_
    · rcases nextNodeSequence_mem context₁ with hten | ⟨n, hn, hnext⟩
      · omega
      · rw [hcopied.remembered, rememberCopies_nodesByNewId] at hn
        obtain ⟨⟨m, c⟩, hzip, rfl⟩ := List.mem_map.1 hn
        have hsame := congrArg PlanNode.sequence
          ((List.forall₂_iff_zip.1 hcopied.nodes).2 hzip).fields
        have hsequence : c.sequence = m.sequence := hsame
        have hnext : nextNodeSequence context₁ = c.sequence.val + 10 := hnext
        rw [hsequence] at hnext
        exact .noSequence habsent m (Copied.source_mem hzip) (by omega)
    · by_contra hknown
      obtain ⟨id, hid⟩ := Option.ne_none_iff_exists'.1 hknown
      obtain ⟨n, c, hzip, htext, -⟩ := hcopied.lookup_code rfl hid
      exact gateNode?_none.1 habsent n (Copied.source_mem hzip) htext
    · obtain ⟨node, nodes, -, -, -, -, hknows⟩ :=
        applyGateNode_ok haddition (copied_codes hcopied rfl) hnode
      exact raises_applyRequirements (.noFreeId _) hrest storable_missing hknows
  | incomplete gate named found read =>
    rw [List.forall₂_map_left_iff] at hops
    have hfound : gateNode? db'.plan source.revisionId = some gate := by
      rw [hsourceId, h.gate]
      exact found
    obtain ⟨hmem, hcode⟩ := gateNode?_some hfound
    exact raises_applyRequirements (.noFreeId _) hops storable_missing
      (copied_knowsGate hcopied rfl rfl hunique' hmem hcode)

/-- How often the gate node of a revision names a code; without a gate, never. -/
def occurrencesIn (plan : PlanDb) (revision : RevisionId) (kind : RequirementKind) (code : String) :
    Nat :=
  match gateNode? plan revision with
  | some gate => occurrences plan gate.nodeId kind code
  | none => 0

/-- What an applied feedback change set leaves. -/
theorem Created.converged (h : Created db db' run drafts changeSet)
    (hreason : Reason db.plan run drafts) (hkeys : ForeignKeys db.plan)
    (hunique : UniqueCodes db.plan run.planRevision)
    (hcall : call.changeSetId = changeSet.changeSetId) {newId : RevisionId} {plan : PlanDb}
    (happly : applyPlanChangeSet py call db'.plan = .ok newId plan) :
    ∃ gate, Converged plan newId (occurrencesIn db.plan run.planRevision) gate := by
  obtain ⟨source, revision, start, copied, applied, context₁, context₂, hstages, rfl⟩ :=
    applyPlanChangeSet_stages happly h.mem hcall.symm (by rw [h.status]; decide)
  have hops := h.operations
  cases hreason with
  | noGate absent =>
    obtain ⟨addition, rest, haddition, hrest, hsplit⟩ := List.forall₂_cons_left_iff.1 hops
    rw [List.forall₂_map_left_iff] at hrest
    have habsent : gateNode? db'.plan changeSet.planRevision = none := by
      rw [h.planRevision, h.gate]
      exact absent
    have hbefore : occurrencesIn db.plan run.planRevision =
        fun kind code => ([] : List PlanRequirement).countP (names kind code) := by
      funext kind code
      rw [occurrencesIn, absent]
      rfl
    rw [hbefore]
    exact (gateRows_of_none hstages (h.keys hkeys) habsent hsplit haddition hrest).converged rfl
  | incomplete gate named found read =>
    rw [List.forall₂_map_left_iff] at hops
    have hfound : gateNode? db'.plan changeSet.planRevision = some gate := by
      rw [h.planRevision, h.gate]
      exact found
    have hbefore : occurrencesIn db.plan run.planRevision =
        fun kind code => (requirementsAt db.plan gate.nodeId).countP (names kind code) := by
      funext kind code
      rw [occurrencesIn, found]
      rfl
    have hrows := gateRows_of_gate hstages (h.keys hkeys) ((h.codes _).2 (h.planRevision ▸ hunique))
      hfound hops
    rw [h.requirements] at hrows
    rw [hbefore]
    exact hrows.converged read

/-- Rows name rows that are there, and the codes of the revision differ. -/
structure FeedbackReady (db : FeedbackDb) (run : FeedbackRun) : Prop where
  keys : ForeignKeys db.plan
  operations : ∀ o ∈ db.plan.operations.rows, ∃ c ∈ db.plan.changeSets.rows,
    c.changeSetId = o.changeSet
  revision : ∃ source ∈ db.plan.revisions.rows, source.revisionId = run.planRevision
  codes : UniqueCodes db.plan run.planRevision

/-- **Convergence.** A feedback change set that is returned for a run without a draft is applied,
unless the revision cannot be numbered or copied or an id or a number is used up. When it is
applied, the startup requirements are complete on the new revision, a covered code is there as often
as before and a missing one once, and no further feedback is made for the new revision. -/
theorem zeroStartFeedback_converges {proposal : Option ZeroStartProposal}
    (hready : FeedbackReady db run) (hnone : reusableDrafts db run = [])
    (h : getOrCreateZeroStartFeedback draws now run failure db = .ok (proposal, some changeSet) db')
    (hcall : call.changeSetId = changeSet.changeSetId) :
    (∀ e plan, applyPlanChangeSet py call db'.plan = .error e plan → plan = db'.plan ∧
      ∃ source ∈ db.plan.revisions.rows, source.revisionId = run.planRevision ∧
        NotFollowed py db'.plan call changeSet source e) ∧
    ∀ newId plan, applyPlanChangeSet py call db'.plan = .ok newId plan →
      (∃ gate, Converged plan newId (occurrencesIn db.plan run.planRevision) gate) ∧
      ∀ draws' now' failure' (run' : FeedbackRun), run'.planRevision = newId →
        reusableDrafts { db' with plan := plan } run' = [] →
        getOrCreateZeroStartFeedback draws' now' run' failure' { db' with plan := plan } =
          .ok (none, none) { db' with plan := plan } := by
  obtain ⟨drafts, hreason, hcreated⟩ :=
    getOrCreateZeroStartFeedback_ok hready.operations hnone h
  refine ⟨fun e plan happly => ⟨applyPlanChangeSet_error happly, ?_⟩, fun newId plan happly => ?_⟩
  · obtain ⟨source, hmem, hid⟩ := hready.revision
    have hsource : db'.plan.revisions.get? run.planRevision = some source := by
      rw [hcreated.frame]
      exact Table.get?_eq_some.2 ⟨hmem, hid⟩
    exact ⟨source, hmem, hid, hcreated.refused hreason hready.codes hsource hcall happly⟩
  · obtain ⟨gate, hconverged⟩ := hcreated.converged hreason hready.keys hready.codes hcall happly
    refine ⟨⟨gate, hconverged⟩, fun draws' now' failure' run' hrun hnone' => ?_⟩
    obtain ⟨coverage, hcoverage, hcomplete⟩ := hconverged.complete
    exact getOrCreateZeroStartFeedback_complete hnone' (hrun ▸ hconverged.found) hcoverage hcomplete

end

/-! ## The pilot plan with a gate -/

/-- An earlier revision of the pilot plan. -/
def retiredRevision : PlanRevision :=
  { pilotRevision with
    revisionId := keyOf key64_pos "pilot-rev-v0_0_0"
    revisionCode := .cut "v0.0.0"
    status := .retired }

/-- A node of the retired revision. -/
def retiredNode : PlanNode :=
  { pilotNode "node-r" "R" none (positive 10) with revision := retiredRevision.revisionId }

/-- The gate node, under the given parent. -/
def pilotGate (parent : Option NodeId) : PlanNode := pilotNode "node-z" "Z0" parent (positive 30)

/-- A requirement of the gate that names the code. -/
def pilotGateRequirement (id : String) (entry : RequirementKind × String) : PlanRequirement :=
  { pilotRequirement none with
    requirementId := keyOf key96_pos id
    node := (pilotGate none).nodeId
    metadata := .obj [("requirement_kind", .str entry.1.value), (entry.1.codeKey, .str entry.2)] }

/-- The pilot plan with a gate that lacks the first startup code. -/
def gatePlan (parent : Option NodeId) : FeedbackDb where
  plan := { pilotDb with
    revisions := tableOf [retiredRevision, pilotRevision]
    nodes := tableOf [pilotA, pilotGate parent, retiredNode]
    requirements := tableOf (startupCodes.tail.zipIdx.map fun item =>
      pilotGateRequirement (toString item.2) item.1) }
  proposals := .empty
  texts := .empty

/-- A run on the published revision. -/
def pilotFeedbackRun : FeedbackRun where
  runId := "run-z"
  planRevision := pilotRevision.revisionId

/-- The draws of a call. -/
def gateDraws : Draws where
  run := []
  state _ := []
  turn := []
  event := []
  failure := []
  proposal := ["p"]
  changeSet := ["c"]
  operation i := [toString i]

/-- A call for the run on the pilot plan. -/
def pilotFeedback : FeedbackM (Option ZeroStartProposal × Option PlanChangeSet) :=
  getOrCreateZeroStartFeedback gateDraws 5 pilotFeedbackRun "failure"

/-- The publication of a change set. -/
def publishFeedback (changeSet : PlanChangeSet) : ApplyCall :=
  { changeSetId := changeSet.changeSetId, publish := true, now := 9 }

theorem gatePlan_ready {parent : Option NodeId}
    (h : parent = none ∨ parent = some retiredNode.nodeId) :
    FeedbackReady (gatePlan parent) pilotFeedbackRun := by
  rcases h with rfl | rfl
  all_goals
    refine ⟨⟨?_, ?_, ?_, ?_⟩, ?_, ?_, ?_⟩
    case refine_7 => unfold UniqueCodes; decide +kernel
    all_goals decide +kernel

theorem gatePlan_noDraft {parent : Option NodeId}
    (h : parent = none ∨ parent = some retiredNode.nodeId) :
    reusableDrafts (gatePlan parent) pilotFeedbackRun = [] := by
  refine List.isEmpty_iff.1 ?_
  rcases h with rfl | rfl
  all_goals decide +kernel

theorem zeroStartFeedback_converges_pilot : ∃ proposal changeSet db' newId plan,
    pilotFeedback (gatePlan none) = .ok (proposal, some changeSet) db' ∧
    applyPlanChangeSet textPython (publishFeedback changeSet) db'.plan = .ok newId plan ∧
    (∃ gate, Converged plan newId
      (occurrencesIn (gatePlan none).plan pilotRevision.revisionId) gate) ∧
    getOrCreateZeroStartFeedback gateDraws 10 ⟨"run-y", newId⟩ "failure" { db' with plan := plan } =
      .ok (none, none) { db' with plan := plan } := by
  have hround : returnsWith (fun made db' => made.2.any fun changeSet =>
      returnsWith (fun newId plan =>
        (reusableDrafts { db' with plan := plan } ⟨"run-y", newId⟩).isEmpty)
        (applyPlanChangeSet textPython (publishFeedback changeSet)) db'.plan)
      pilotFeedback (gatePlan none) = true := by
    decide +kernel
  obtain ⟨⟨proposal, made⟩, db', hmade, hround⟩ := returnsWith_iff.1 hround
  obtain ⟨changeSet, rfl, hround⟩ := (Option.any_eq_true _ _).1 hround
  obtain ⟨newId, plan, happly, hround⟩ := returnsWith_iff.1 hround
  obtain ⟨hconverged, hfurther⟩ := (zeroStartFeedback_converges (gatePlan_ready (.inl rfl))
    (gatePlan_noDraft (.inl rfl)) hmade (rfl : (publishFeedback changeSet).changeSetId = _)).2
    newId plan happly
  exact ⟨proposal, changeSet, db', newId, plan, hmade, happly, hconverged,
    hfurther gateDraws 10 "failure" ⟨"run-y", newId⟩ rfl (List.isEmpty_iff.1 hround)⟩

/-- A revision with a parent in another one is not copied. -/
theorem gatePlan_foreignParent :
    FeedbackReady (gatePlan (some retiredNode.nodeId)) pilotFeedbackRun ∧
    reusableDrafts (gatePlan (some retiredNode.nodeId)) pilotFeedbackRun = [] ∧
    ∃ proposal changeSet db' plan,
      pilotFeedback (gatePlan (some retiredNode.nodeId)) = .ok (proposal, some changeSet) db' ∧
      applyPlanChangeSet textPython (publishFeedback changeSet) db'.plan =
        .error (.domain "源计划节点 node-z 的父节点 node-r 不在同一版本中。") plan := by
  have hrefused : returnsWith (fun made db' => made.2.any fun changeSet =>
      raisesThe (.domain "源计划节点 node-z 的父节点 node-r 不在同一版本中。")
        (applyPlanChangeSet textPython (publishFeedback changeSet)) db'.plan)
      pilotFeedback (gatePlan (some retiredNode.nodeId)) = true := by
    decide +kernel
  obtain ⟨⟨proposal, made⟩, db', hmade, hrefused⟩ := returnsWith_iff.1 hrefused
  obtain ⟨changeSet, rfl, hrefused⟩ := (Option.any_eq_true _ _).1 hrefused
  obtain ⟨plan, happly⟩ := raisesThe_iff.1 hrefused
  exact ⟨gatePlan_ready (.inr rfl), gatePlan_noDraft (.inr rfl), proposal, changeSet, db', plan,
    hmade, happly⟩

end LiveOs.ZeroStart
