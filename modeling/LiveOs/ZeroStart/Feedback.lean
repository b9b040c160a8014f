import LiveOs.Planning.Operations
import LiveOs.Simulation.Engine
import LiveOs.Simulation.StartupGate
import LiveOs.ZeroStart.Strategy

/-!
# Feedback on the startup gate

`simulation/zero_start_feedback.py`: which startup requirements the gate node `Z0` of a plan
revision has, and the change set that adds the missing ones. A requirement names its code in its
metadata; an operation carries that metadata in its payload.
-/

namespace LiveOs.ZeroStart

open Lib Planning
open Simulation (OperationDraft Draws generateId metadataIs)

/-! ## The startup requirements -/

/-- `STARTUP_CAPABILITY_REQUIREMENTS`, with names and counts. -/
def startupCapabilities : List Simulation.CapabilityRequirement := [
  ⟨"project_coordination", "项目发起与协调", 1, ["发起", "组织", "沟通"]⟩,
  ⟨"documentation_archive", "资料整理与归档", 1, ["文档", "表格", "资料整理"]⟩,
  ⟨"community_operations", "社群沟通与报名运营", 1, ["社群沟通", "沟通", "自媒体"]⟩,
  ⟨"onsite_logistics", "现场后勤与低风险协助", 2, ["搬运", "现场协助", "安全意识"]⟩,
  ⟨"procurement_records", "采购询价与记录", 1, ["采购", "表格", "记录"]⟩,
  ⟨"meal_support", "做饭与基础生活支持", 1, ["做饭", "后勤", "餐食"]⟩]

example : startupCapabilities.map (fun r => (⟨r.code, r.skillAliases⟩ : CapabilityRequirement)) =
    startupCapabilityRequirements := rfl

/-- `STARTUP_DOCUMENT_SIGNER_REQUIREMENTS`. -/
def startupDocumentSigners : List Simulation.DocumentRequirement := [
  ⟨"structural_safety_document", "结构/建筑安全责任文件签署方",
    ["屋顶荷载复核报告", "结构安全评估报告", "房屋安全鉴定报告"],
    ["结构工程师", "建筑设计院", "房屋安全鉴定机构", "结构检测机构"]⟩,
  ⟨"pv_system_design_document", "光伏系统设计责任文件签署方",
    ["光伏系统设计方案", "组件布置方案", "施工图或专业设计文件"], ["光伏设计单位", "EPC", "设计顾问"]⟩,
  ⟨"electrical_grid_document", "电气接入与并网责任文件签署方",
    ["电气接入方案", "一次系统图", "并网申请材料", "电网企业并网意见"],
    ["电气设计单位", "电网流程责任主体", "具备电气专业能力的机构"]⟩,
  ⟨"construction_safety_quality_document", "施工安全与质量文件责任主体",
    ["施工合同", "施工组织方案", "安全施工方案", "验收记录"], ["施工单位", "安全质量责任主体"]⟩,
  ⟨"acceptance_archive_document", "验收与归档资料责任主体",
    ["并网验收资料", "调试记录", "竣工资料", "运维交接资料"], ["验收责任主体", "运维交接责任主体"]⟩]

/-! ## Coverage -/

/-- The kinds of startup requirements. -/
inductive RequirementKind where
  | capability
  | document
deriving DecidableEq

namespace RequirementKind

/-- The text under `requirement_kind`. -/
def value : RequirementKind → String
  | capability => "capability"
  | document => "document"

/-- The key of the code. -/
def codeKey : RequirementKind → String
  | capability => "capability_code"
  | document => "document_code"

end RequirementKind

/-- `v == text`. -/
def isText : Json → String → Bool
  | .str s, text => s = text
  | _, _ => false

/-- `set.add(code)` takes hashable values only. -/
def hashable : Json → Except PyError Json
  | .arr _ => .error .type
  | .obj _ => .error .type
  | code => .ok code

/-- The kind and the code that the metadata adds to a set of covered codes. -/
def namedIn (metadata : List (String × Json)) : Except PyError (Option (RequirementKind × Json)) :=
  let add (kind : RequirementKind) : Except PyError (Option (RequirementKind × Json)) :=
    let code := getKeyOr metadata kind.codeKey (.str "")
    if truthy code then (hashable code).map fun code => some (kind, code) else .ok none
  let kind := getKeyOr metadata "requirement_kind" (.str "")
  if isText kind RequirementKind.capability.value then add .capability
  else if isText kind RequirementKind.document.value then add .document
  else .ok none

/-- One turn of the loop of `zero_start_requirement_coverage`: only a dict has the method `get`. -/
def namedCode (req : PlanRequirement) : Except PyError (Option (RequirementKind × Json)) := do
  let metadata ← (spread req.metadata).mapError fun _ => .attribute
  namedIn metadata

/-- `code in covered`. -/
def isCovered (named : List (Option (RequirementKind × Json))) (kind : RequirementKind)
    (code : String) : Bool :=
  named.any fun n => n.any fun entry => entry.1 = kind && isText entry.2 code

/-- The dict that `zero_start_requirement_coverage` returns. -/
structure Coverage where
  missingCapabilities : List Simulation.CapabilityRequirement
  missingDocuments : List Simulation.DocumentRequirement
  coveredCapabilities : List Simulation.CapabilityRequirement
  coveredDocuments : List Simulation.DocumentRequirement
  isComplete : Bool

/-- What the codes found on the gate node cover. -/
def coverageOf (named : List (Option (RequirementKind × Json))) : Coverage :=
  let missingCaps := startupCapabilities.filter fun c => !isCovered named .capability c.code
  let missingDocs := startupDocumentSigners.filter fun d => !isCovered named .document d.code
  { missingCapabilities := missingCaps
    missingDocuments := missingDocs
    coveredCapabilities := startupCapabilities.filter fun c => isCovered named .capability c.code
    coveredDocuments := startupDocumentSigners.filter fun d => isCovered named .document d.code
    isComplete := missingCaps.length = 0 && missingDocs.length = 0 }

/-- `zero_start_requirement_coverage(gate_node)`. -/
def zeroStartRequirementCoverage (plan : PlanDb) (gateNode : PlanNode) :
    Except PyError Coverage := do
  let existing := plan.requirements.rows.filter fun r => r.node = gateNode.nodeId
  return coverageOf (← existing.mapM namedCode)

/-! ## Rows -/

/-- What the feedback reads of a `SimulationRun`. -/
structure FeedbackRun where
  runId : String
  planRevision : RevisionId

/-- `PlanRevisionProposal.ProposalType`, as far as this feedback proposes it. -/
inductive ProposalType where
  | addNode
  | addRequirement
deriving DecidableEq

/-- A row of `PlanRevisionProposal` for a run. -/
structure ZeroStartProposal where
  proposalId : String
  run : String
  sourceFailure : String
  planRevision : RevisionId
  planNode : Option NodeId
  proposalType : ProposalType
  title : String
  rationale : String
  suggestedChanges : List (String × Json)
  createdAt : Nat
  metadata : Json

/-- The columns of a change set that its application does not read. -/
structure ChangeSetText where
  changeSetId : String
  title : String
  summary : String
  createdAt : Nat

structure FeedbackDb where
  plan : PlanDb
  proposals : Table ZeroStartProposal String Unit ZeroStartProposal.proposalId fun _ => none
  texts : Table ChangeSetText String Unit ChangeSetText.changeSetId fun _ => none

/-- A service on the feedback tables. -/
abbrev FeedbackM := EStateM PyError FeedbackDb

/-! ## Drafts -/

/-- A startup requirement as an operation adds it. -/
structure GateRequirement where
  kind : RequirementKind
  code : String
  requirementType : String
  name : String
  quantity : Int
  unit : String
  notes : String
  rationale : String
  /-- The metadata after the code. -/
  details : List (String × Json)

/-- The metadata of the requirement. -/
def GateRequirement.metadata (r : GateRequirement) : List (String × Json) :=
  [("scenario", .str "zero_start"), ("requirement_kind", .str r.kind.value),
    (r.kind.codeKey, .str r.code)] ++ r.details

/-- The `ADD_REQUIREMENT` operation. -/
def GateRequirement.draft (r : GateRequirement) : OperationDraft where
  operationType := .addRequirement
  newValue := [("node_code", .str "Z0"), ("requirement_type", .str r.requirementType),
    ("name", .str r.name), ("quantity", .scalar (.int r.quantity)), ("unit", .str r.unit),
    ("unit_cost", .str "0.00"), ("total_cost_estimate", .str "0.00"),
    ("is_must", .scalar (.bool true)), ("notes", .str r.notes), ("metadata", .obj r.metadata)]
  rationale := r.rationale

/-- A capability on the gate node. -/
def capabilityOnGate (requirement : Simulation.CapabilityRequirement) : GateRequirement where
  kind := .capability
  code := requirement.code
  requirementType := RequirementType.skill
  name := "能力需求：" ++ requirement.name
  quantity := requirement.minCount
  unit := "人"
  notes := "这是实际能力需求，不要求提供签字盖章文件。"
  rationale := "启动前必须确认具备能力：" ++ requirement.name ++ "。"
  details := [("skill_aliases", .arr (requirement.skillAliases.map .str)),
    ("need_written_document", .scalar (.bool false))]

/-- A document with its signers on the gate node. -/
def documentOnGate (requirement : Simulation.DocumentRequirement) : GateRequirement where
  kind := .document
  code := requirement.code
  requirementType := RequirementType.permit
  name := "文件责任：" ++ requirement.name
  quantity := 1
  unit := "项"
  notes := "这是文件责任需求，必须有可归档、可追责的书面文件和签署方。"
  rationale := "启动前必须确认文件签署方：" ++ requirement.name ++ "。"
  details := [("document_examples", .arr (requirement.documentExamples.map .str)),
    ("acceptable_signers", .arr (requirement.acceptableSigners.map .str)),
    ("need_written_document", .scalar (.bool true))]

/-- The `ADD_NODE` operation for `Z0`. -/
def gateNodeDraft : OperationDraft where
  operationType := .addNode
  newValue := [("code", .str "Z0"), ("title", .str "自媒体报名筛选与启动门槛确认"),
    ("node_type", .str NodeType.recruitment),
    ("description", .str ("从发起人自媒体曝光开始，记录主动报名、初筛、候选、拒绝和退出，" ++
      "并确认成员能力矩阵和文件签署方矩阵。")),
    ("planned_duration_days", .scalar (.int 7)), ("estimated_cost_expected", .str "0.00"),
    ("required_people_min", .scalar (.int 1)), ("required_people_max", .scalar (.int 3)),
    ("required_person_days", .str "14.00"),
    ("required_skills", .arr [.str "发起", .str "沟通", .str "文档", .str "报名筛选", .str "启动门槛识别"]),
    ("completion_criteria", .arr [.str "形成报名者状态机记录。", .str "输出前 N 名成员能力矩阵。",
      .str "输出合作伙伴和文件签署方矩阵。", .str "明确项目仍处于筹备阶段或满足启动门槛。"]),
    ("metadata", .obj [("scenario", .str "zero_start"), ("project_phase", .str "preparation"),
      ("application_source", .str "self_media")])]
  rationale := "新增 Z0 自媒体报名筛选与启动门槛确认阶段。"

/-- The list `operations`. -/
def feedbackOperations (includeGateNode : Bool) (caps : List Simulation.CapabilityRequirement)
    (docs : List Simulation.DocumentRequirement) : List OperationDraft :=
  (if includeGateNode then [gateNodeDraft] else []) ++
    (caps.map capabilityOnGate ++ docs.map documentOnGate).map GateRequirement.draft

/-! ## The proposal -/

def capabilityJson (c : Simulation.CapabilityRequirement) : Json :=
  .obj [("code", .str c.code), ("name", .str c.name), ("min_count", .scalar (.int c.minCount)),
    ("skill_aliases", .arr (c.skillAliases.map .str)),
    ("need_written_document", .scalar (.bool false))]

def documentJson (d : Simulation.DocumentRequirement) : Json :=
  .obj [("code", .str d.code), ("name", .str d.name),
    ("document_examples", .arr (d.documentExamples.map .str)),
    ("acceptable_signers", .arr (d.acceptableSigners.map .str))]

/-- The entries of `suggested_changes` that both proposals have. -/
def suggestedRequirements (caps : List Simulation.CapabilityRequirement)
    (docs : List Simulation.DocumentRequirement) : List (String × Json) :=
  [("startup_capability_requirements", .arr (caps.map capabilityJson)),
    ("startup_document_signer_requirements", .arr (docs.map documentJson)),
    ("requirement_semantics", .obj [
      ("capability", .str "需要人或合作方具备实际能力，不要求签字盖章文件。"),
      ("document", .str "需要可归档、可追责、可作为决策依据的书面文件和签署方。")])]

/-- What the proposal says, besides its ids. -/
structure ProposalText where
  proposalType : ProposalType
  title : String
  rationale : String
  suggestedChanges : List (String × Json)

/-- The proposal that adds the gate node. -/
def gateNodeProposal (caps : List Simulation.CapabilityRequirement)
    (docs : List Simulation.DocumentRequirement) : ProposalText where
  proposalType := .addNode
  title := "增加自媒体报名筛选与启动门槛矩阵"
  rationale := "从零起点推演发现：主动报名不等于项目可以启动。" ++
    "后续计划必须先确认前 N 名成员能力矩阵，以及需要书面文件的合作伙伴和签署方矩阵。"
  suggestedChanges := [("add_stage", .str "Z0 自媒体报名筛选与启动门槛确认"),
    ("application_state_machine", .arr [.str "registered", .str "candidate", .str "standby",
      .str "rejected", .str "withdrew"]),
    ("required_screening_dimensions", .arr [.str "参与动机", .str "可用时间", .str "到场可能性",
      .str "自述技能", .str "可验证经历", .str "项目是否接纳为候选人", .str "是否主动退出"])] ++
    suggestedRequirements caps docs

/-- The proposal that completes the requirements of an existing gate node. -/
def gateRequirementsProposal (caps : List Simulation.CapabilityRequirement)
    (docs : List Simulation.DocumentRequirement) : ProposalText where
  proposalType := .addRequirement
  title := "补充启动门槛能力与文件签署方要求"
  rationale := "Z0 启动门槛筹备节点已存在，但当前修订缺少完整的能力要求" ++
    "和文件签署方要求。仿真推演发现成员能力矩阵与文件签署方缺口，" ++ "需要将缺失项补充到 Z0 的需求列表中。"
  suggestedChanges := suggestedRequirements caps docs

/-! ## Creating the feedback -/

/-- One turn of the last loop of `create_zero_start_feedback`. -/
def createFeedbackOperation (draws : Draws) (changeSetId : String) (item : OperationDraft × Nat) :
    FeedbackM Unit := do
  let db ← get
  let operationId ← compute (generateId "changeop-" (draws.operation item.2)
    (fun id => db.plan.operations.rows.any fun o => o.operationId = id)
    "无法生成计划变更操作 ID，请重试。")
  update fun db => do
    let operations ← db.plan.operations.insert {
      operationId := operationId
      changeSet := changeSetId
      sequence := item.2
      operationType := item.1.operationType.value
      targetId := item.1.targetId
      targetField := item.1.targetField
      newValue := .obj item.1.newValue
      rationale := item.1.rationale
      isRequired := item.1.isRequired } PyError.integrity
    return { db with plan := { db.plan with operations := operations } }

/-- `create_zero_start_feedback(...)`; a list that is `None` is the list of all requirements. -/
def createZeroStartFeedback (draws : Draws) (now : Nat) (run : FeedbackRun) (failure : String)
    (gateNode : Option PlanNode) (includeGateNode : Bool)
    (capabilityRequirements : Option (List Simulation.CapabilityRequirement))
    (documentSignerRequirements : Option (List Simulation.DocumentRequirement)) :
    FeedbackM (ZeroStartProposal × PlanChangeSet) := do
  let caps := capabilityRequirements.getD startupCapabilities
  let docs := documentSignerRequirements.getD startupDocumentSigners
  let text := if includeGateNode then gateNodeProposal caps docs
    else gateRequirementsProposal caps docs
  let db ← get
  let proposalId ← compute (generateId "proposal-" draws.proposal
    (fun id => db.proposals.rows.any fun p => p.proposalId = id) "无法生成计划修订建议 ID，请重试。")
  let proposal : ZeroStartProposal := {
    proposalId := proposalId
    run := run.runId
    sourceFailure := failure
    planRevision := run.planRevision
    planNode := if includeGateNode then none else gateNode.map PlanNode.nodeId
    proposalType := text.proposalType
    title := text.title
    rationale := text.rationale
    suggestedChanges := text.suggestedChanges
    createdAt := now
    metadata := .obj [("scenario", .str "zero_start")] }
  update fun db => do
    let proposals ← db.proposals.insert proposal PyError.integrity
    return { db with proposals := proposals }
  let changeSetId ← compute (generateId "changeset-" draws.changeSet
    (fun id => db.plan.changeSets.rows.any fun c => c.changeSetId = id)
    "无法生成计划变更集 ID，请重试。")
  let changeSet : PlanChangeSet := {
    changeSetId := changeSetId
    run := run.runId
    proposal := proposalId
    planRevision := run.planRevision
    status := .draft
    appliedAt := none
    appliedRevision := none
    metadata := .obj [("scenario", .str "zero_start")] }
  update fun db => do
    let changeSets ← db.plan.changeSets.insert changeSet PyError.integrity
    let texts ← db.texts.insert {
      changeSetId := changeSetId
      title := "零起点启动门槛结构化变更"
      summary := "新增能力要求和文件签署方要求，确保启动门槛矩阵完整。"
      createdAt := now } PyError.integrity
    return { db with plan := { db.plan with changeSets := changeSets }, texts := texts }
  let operations := feedbackOperations includeGateNode caps docs
  (operations.zipIdx 1).foldlM (fun _ item => createFeedbackOperation draws changeSetId item) ()
  return (proposal, changeSet)

/-- `plan_revision_has_zero_start_gate(revision)`. -/
def planRevisionHasZeroStartGate (plan : PlanDb) (revision : RevisionId) : Bool :=
  plan.nodes.rows.any fun n => n.revision = revision && n.code.text = "Z0"

/-- `PlanNode.objects.filter(revision=revision, code="Z0").first()`, in the order of the model. -/
def gateNode? (plan : PlanDb) (revision : RevisionId) : Option PlanNode :=
  (revisionNodes plan revision).find? fun n => n.code.text = "Z0"

/-- The drafts of the run that are used again, the latest first. -/
def reusableDrafts (db : FeedbackDb) (run : FeedbackRun) : List PlanChangeSet :=
  let createdAt (c : PlanChangeSet) : Nat :=
    (db.texts.get? c.changeSetId).elim 0 ChangeSetText.createdAt
  (db.plan.changeSets.rows.filter fun c =>
    c.run = run.runId && c.status = .draft && metadataIs c.metadata "scenario" "zero_start" &&
      (db.texts.get? c.changeSetId).any fun t =>
        decide ("启动门槛".toList <:+: t.title.toList)).insertionSort fun a b =>
    createdAt b < createdAt a ∨ createdAt a = createdAt b ∧ b.changeSetId ≤ a.changeSetId

/-- `get_or_create_zero_start_feedback(run=run, failure=failure)`. -/
def getOrCreateZeroStartFeedback (draws : Draws) (now : Nat) (run : FeedbackRun)
    (failure : String) : FeedbackM (Option ZeroStartProposal × Option PlanChangeSet) := do
  let db ← get
  match (reusableDrafts db run).head? with
  | some existing => return (db.proposals.get? existing.proposal, some existing)
  | none =>
    let hasZ0 := planRevisionHasZeroStartGate db.plan run.planRevision
    match if hasZ0 then gateNode? db.plan run.planRevision else none with
    | some gate =>
      let coverage ← compute (zeroStartRequirementCoverage db.plan gate)
      -- the second test of the source, that nothing is missing, repeats this one
      if coverage.isComplete then return (none, none)
      let created ← createZeroStartFeedback draws now run failure (some gate) false
        (some coverage.missingCapabilities) (some coverage.missingDocuments)
      return (some created.1, some created.2)
    | none =>
      let created ← createZeroStartFeedback draws now run failure none (!hasZ0) none none
      return (some created.1, some created.2)

end LiveOs.ZeroStart
