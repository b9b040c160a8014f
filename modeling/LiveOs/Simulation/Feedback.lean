import LiveOs.Simulation.Feasibility

/-!
# Feedback from a failure

`simulation/feedback_suggestions.py`, `simulation/feedback_operation_handlers.py` and
`simulation/feedback_operations.py`: the changes that a failure suggests, and the operations on the
plan that a proposal is translated into.
-/

namespace LiveOs.Simulation

open Lib Planning
open Procurement (PyDecimal)

/-! ## Suggestions -/

/-- `proposal_type_for_failure(failure_type)`. -/
def proposalTypeForFailure : FailureType → ProposalType
  | .budgetUnrealistic => .adjustBudget
  | .laborShortage => .adjustDuration
  | .skillShortage => .addRequirement
  | .responsibilityClosureMissing => .addRequirement
  | .resourceShortage => .addRequirement
  | .dependencyUnmet => .addDependency
  | .personnelIssue => .reduceAdmission

/-- The suffixes of the nodes that a missing closure asks for. -/
def closureSuffixes : List String := ["GRID-PRESCREEN", "LEASE-REVIEW", "STRUCTURE-DOC",
  "PV-DESIGN-DOC", "GRID-DOC", "CONSTRUCTION-QA", "ACCEPTANCE-ARCHIVE"]

/-- `f"{node.code}-{suffix}"`. -/
def suffixedCode (node : PlanNode) (suffix : String) : String := node.code.text ++ "-" ++ suffix

/-- `suggested_changes_for_failure(node=node, failure_type=failure_type, metadata=metadata)`. -/
def suggestedChangesForFailure (node : PlanNode) (failureType : FailureType)
    (metadata : List (String × Json)) : List (String × Json) :=
  let nodeId := ("node_id", Json.str node.nodeId.text)
  match failureType with
  | .budgetUnrealistic =>
    let shortfall := getKeyOr metadata "budget_shortfall" (.str "0")
    [nodeId, ("change", .str "在该节点启动前补足预算，或拆分为更小的分期节点。"),
      ("budget_shortfall", shortfall), ("recommended_extra_budget", shortfall),
      ("recommended_predecessor_node", .str (suffixedCode node "FUNDING"))]
  | .skillShortage =>
    [nodeId, ("change", .str "补充刚性技能需求，并在本节点前增加招募、培训或外包节点。"),
      ("missing_skills", getKeyOr metadata "missing_skills" (.arr [])),
      ("recommended_predecessor_node", .str (suffixedCode node "SKILL"))]
  | .responsibilityClosureMissing =>
    [nodeId, ("change", .str "增加前置责任闭环节点，补齐光伏一期所需的责任主体和责任文件。"),
      ("missing_responsibility_closures",
        getKeyOr metadata "missing_responsibility_closures" (.arr [])),
      ("cannot_continue_reasons", getKeyOr metadata "cannot_continue_reasons" (.arr [])),
      ("recommended_actions", getKeyOr metadata "recommended_actions" (.arr [])),
      ("recommended_predecessor_nodes",
        .arr (closureSuffixes.map fun suffix => .str (suffixedCode node suffix)))]
  | .laborShortage =>
    [nodeId, ("change", .str "降低并行施工强度，延长工期，或先补充执行人员。"),
      ("required_people_min", .scalar (.int node.requiredPeopleMin.val)),
      ("recommended_duration_days", .scalar (.int (node.plannedDurationDays.val * 2 : Nat)))]
  | .personnelIssue =>
    [nodeId, ("change", .str "降低接纳节奏，增加休整、轮班和心理支持节点。"),
      ("recommended_capacity_policy", .str "暂停新增接纳，直到平均疲劳值低于 70。")]
  | .dependencyUnmet =>
    [nodeId, ("change", .str "补齐前置依赖，避免计划顺序允许未完成条件下启动。"),
      ("unmet_dependencies", getKeyOr metadata "unmet_dependencies" (.arr []))]
  | .resourceShortage =>
    [nodeId, ("change", .str "增加前置准备节点，并拆分风险较高的执行步骤。")]

/-- `plan_node_payload_for_preparation(...)`. -/
def planNodePayloadForPreparation (node : PlanNode) (suffix title : String) (durationDays : Nat)
    (cost : PyDecimal) : List (String × Json) :=
  [("revision_id", .str node.revision.text),
    ("parent_id", match node.parent with
      | some parent => .str parent.text
      | none => .scalar .none),
    ("code", .str (suffixedCode node suffix)),
    ("title", .str title),
    ("node_type", .str NodeType.workPackage),
    ("status", .str NodeStatus.planned),
    ("is_required", .scalar (.bool true)),
    ("is_expandable", .scalar (.bool false)),
    ("allow_simulation_adjustment", .scalar (.bool true)),
    ("planned_duration_days", .scalar (.int durationDays)),
    ("estimated_cost_low", .str ((cost.mul ⟨80, -2⟩).quantize 2).text),
    ("estimated_cost_expected", .str (cost.quantize 2).text),
    ("estimated_cost_high", .str ((cost.mul ⟨125, -2⟩).quantize 2).text),
    ("required_people_min", .scalar (.int (min (max node.requiredPeopleMin.val 1) 8 : Nat))),
    ("required_people_max", .scalar (.int (min (max node.requiredPeopleMax.val 3) 16 : Nat))),
    ("required_person_days", .str ((PyDecimal.mul ⟨durationDays, 0⟩ ⟨4, 0⟩).quantize 2).text),
    ("required_skills", .arr []),
    ("required_resources", .arr []),
    ("completion_criteria", .arr [.str (title ++ " 已完成，并形成可验收记录。")]),
    ("risk_notes", .str "由自动模拟失败生成的前置准备节点草案，需人工审核后才能进入新计划版本。")]

/-! ## Operations -/

/-- The fields of an operation that the application reads. -/
structure OperationDraft where
  operationType : OperationType
  targetId : String := ""
  targetField : String := ""
  newValue : List (String × Json)
  rationale : String
  isRequired : Bool := true

variable (lang : Language)

/-- `metadata.get(key, [])` as a loop reads it. -/
def itemsUnder (metadata : List (String × Json)) (key : String) : Except PyError (List Json) :=
  iterate (getKeyOr metadata key (.arr []))

/-- The dependency of a node on a node that is added next to it. -/
def dependencyOnAdded (node : PlanNode) (suffix description rationale : String) :
    OperationDraft where
  operationType := .addDependency
  newValue := [("revision_id", .str node.revision.text), ("node_id", .str node.nodeId.text),
    ("depends_on_code", .str (suffixedCode node suffix)),
    ("dependency_type", .str DependencyType.finishToStart), ("description", .str description)]
  rationale := rationale

/-- `skill_shortage_operations(proposal)`. -/
def skillShortageOperations (node : PlanNode) (failure : SimulationFailure) :
    Except PyError (List OperationDraft) := do
  let missing ← itemsUnder failure.metadata "missing_skills"
  let names ← joinItems ", " missing
  let prepNode := merged (planNodePayloadForPreparation node "SKILL"
      ("补齐" ++ node.title.text ++ "所需技能") 14 ⟨30000000, -2⟩) [
    ("node_type", .str NodeType.recruitment),
    ("required_skills", .arr [.str "招募", .str "培训", .str "外包协调"]),
    ("completion_criteria", .arr [.str ("确认具备 " ++ names ++ " 能力的负责人或外部团队。"),
      .str "形成施工、验收和运维责任清单。"])]
  return [
    { operationType := .addNode, newValue := prepNode, rationale := failure.description },
    dependencyOnAdded node "SKILL" (node.code.text ++ " 启动前必须补齐关键技能：" ++ names ++ "。")
      failure.description,
    { operationType := .addRequirement
      newValue := [("node_id", .str node.nodeId.text),
        ("requirement_type", .str RequirementType.skill), ("name", .str "关键技能缺口"),
        ("quantity", .scalar (.int missing.length)), ("unit", .str "项"),
        ("unit_cost", .str "0.00"), ("total_cost_estimate", .str "0.00"),
        ("is_must", .scalar (.bool true)),
        ("notes", .str ("模拟失败显示当前成员技能画像缺少：" ++ names ++ "。")),
        ("metadata", .obj [("missing_skills", .arr missing)])]
      rationale := failure.description }]

/-- One entry of `node_specs`. -/
structure ClosureSpec where
  suffix : String
  title : String
  description : String
  criteria : List String

/-- `node_specs`. -/
def closureSpecs : List ClosureSpec := [
  ⟨"GRID-PRESCREEN", "并网预筛与接入风险判断",
    "在正式租赁前形成并网预判断，识别接入容量、接入距离、消纳、增容成本和批复风险。",
    ["形成可归档的并网预筛记录。", "明确不宜先租赁再碰运气并网。"]⟩,
  ⟨"LEASE-REVIEW", "场地合法性与附条件租赁审查",
    "确认产权、用途、租期、建设许可、施工运维边界，并优先采用附条件租赁。",
    ["租赁协议包含并网、结构、安全或审批失败时的退出条件。", "明确施工和运维边界。"]⟩,
  ⟨"STRUCTURE-DOC", "结构/建筑安全责任文件取得",
    "取得结构或建筑安全方面的书面责任文件，不能用口头判断或成员自评替代。",
    ["取得签字盖章或合同责任约束下的结构/建筑安全结论。", "限制条件已转化为后续施工约束。"]⟩,
  ⟨"PV-DESIGN-DOC", "光伏系统设计责任文件取得",
    "取得光伏系统设计方案、组件布置、逆变器配置、设备清单和发电量测算等责任文件。",
    ["设计文件适用于当前场地和 0.5MW 规模。", "明确方案责任主体。"]⟩,
  ⟨"GRID-DOC", "电气接入与并网责任文件取得",
    "取得电气接入、一次系统、保护配置、防雷接地和并网流程责任文件。",
    ["明确电气和并网责任主体。", "并网流程资料可归档追溯。"]⟩,
  ⟨"CONSTRUCTION-QA", "施工安全与质量责任主体确认",
    "确认施工合同、施工组织方案、安全施工方案和质量验收记录责任主体。",
    ["施工单位或责任主体对安全和质量承担责任。", "社区成员只承担低风险辅助工作。"]⟩,
  ⟨"ACCEPTANCE-ARCHIVE", "验收、调试、归档责任安排",
    "确认并网验收、调试、竣工资料、运维交接和后续巡检责任边界。",
    ["验收和归档资料责任明确。", "运维交接和巡检边界可追溯。"]⟩]

/-- The two operations of one entry of `node_specs`. -/
def closureSpecOperations (node : PlanNode) (failure : SimulationFailure) (labels : List String)
    (spec : ClosureSpec) : List OperationDraft :=
  let prepNode := merged (planNodePayloadForPreparation node spec.suffix spec.title 7
      ⟨5000000, -2⟩) [
    ("node_type", .str NodeType.workPackage),
    ("description", .str spec.description),
    ("required_skills", .arr [.str "业主方管理", .str "资料整理", .str "外部专业协作"]),
    ("completion_criteria", .arr (spec.criteria.map .str)),
    ("metadata", .obj [("source", .str "simulation_responsibility_closure"),
      ("blocks_node_id", .str node.nodeId.text),
      ("missing_responsibility_closures", .arr (labels.map .str))])]
  [{ operationType := .addNode, newValue := prepNode, rationale := failure.description },
    dependencyOnAdded node spec.suffix
      (node.code.text ++ " 启动前必须完成：" ++ spec.title ++ "。") failure.description]

/-- The requirement for one missing closure. -/
def closureRequirement (node : PlanNode) (failure : SimulationFailure)
    (missing : List (String × Json)) : OperationDraft where
  operationType := .addRequirement
  newValue := [("node_id", .str node.nodeId.text),
    ("requirement_type", .str RequirementType.permit),
    ("name", orElse (getKey missing "label") (getKey missing "code")),
    ("quantity", .scalar (.int 1)), ("unit", .str "份"), ("unit_cost", .str "0.00"),
    ("total_cost_estimate", .str "0.00"), ("is_must", .scalar (.bool true)),
    ("notes", .str "必须取得可归档、可追责、可作为决策依据的书面责任文件。"),
    ("metadata", .obj [("responsibility_closure_code", getKey missing "code"),
      ("missing_reasons", getKeyOr missing "missing_reasons" (.arr []))])]
  rationale := failure.description

/-- `responsibility_closure_operations(proposal)`. -/
def responsibilityClosureOperations (node : PlanNode) (failure : SimulationFailure) :
    Except PyError (List OperationDraft) := do
  let items ← itemsUnder failure.metadata "missing_responsibility_closures"
  let missing := items.filterMap asDict
  let labels := missing.map fun item =>
    lang.py.str (orElse (getKey item "label") (getKey item "code"))
  return closureSpecs.flatMap (closureSpecOperations node failure labels) ++
    missing.map (closureRequirement node failure)

/-- `budget_unrealistic_operations(proposal)`. -/
def budgetUnrealisticOperations (node : PlanNode) (failure : SimulationFailure) :
    List OperationDraft :=
  let shortfall := (decimalFromMetadata lang.py (getKey failure.metadata "budget_shortfall")).text
  let fundingNode := merged (planNodePayloadForPreparation node "FUNDING"
      ("补足" ++ node.title.text ++ "启动预算") 10 ⟨0, -2⟩) [
    ("node_type", .str NodeType.operations),
    ("completion_criteria",
      .arr [.str ("确认至少 " ++ shortfall ++ " 元追加预算已经到账或锁定。")])]
  [{ operationType := .addNode, newValue := fundingNode, rationale := failure.description },
    { operationType := .addRequirement
      newValue := [("node_id", .str node.nodeId.text),
        ("requirement_type", .str RequirementType.budget), ("name", .str "追加预算缺口"),
        ("quantity", .str shortfall), ("unit", .str "元"), ("unit_cost", .str "1.00"),
        ("total_cost_estimate", .str shortfall), ("is_must", .scalar (.bool true)),
        ("notes", .str "自动模拟发现本节点启动时预算不足。"),
        ("metadata", .obj [("budget_shortfall", .str shortfall)])]
      rationale := failure.description }]

/-- `labor_shortage_operations(proposal)`. -/
def laborShortageOperations (proposal : PlanRevisionProposal) (node : PlanNode)
    (failure : SimulationFailure) : Except PyError (List OperationDraft) := do
  let recommended ← intOf lang.py (getKeyOr proposal.suggestedChanges "recommended_duration_days"
    (.scalar (.int (node.plannedDurationDays.val * 2 : Nat))))
  return [
    { operationType := .updateNodeField
      targetId := node.nodeId.text
      targetField := "planned_duration_days"
      newValue := [("value", .scalar (.int recommended))]
      rationale := failure.description },
    { operationType := .addPreparation
      newValue := planNodePayloadForPreparation node "LABOR"
        ("补齐" ++ node.title.text ++ "执行人力") 7 ⟨12000000, -2⟩
      rationale := failure.description }]

/-- `resource_shortage_operations(proposal)`; the list of shortages comes from the failure. -/
def resourceShortageOperations (node : PlanNode) (failure : SimulationFailure) :
    Except PyError (List OperationDraft) := do
  let shortages ← itemsUnder failure.metadata "resource_shortages"
  return [{
    operationType := .addRequirement
    newValue := [("node_id", .str node.nodeId.text),
      ("requirement_type", .str RequirementType.material), ("name", .str "补齐短缺资源"),
      ("quantity", .scalar (.int shortages.length)), ("unit", .str "类"),
      ("unit_cost", .str "0.00"), ("total_cost_estimate", .str "0.00"),
      ("is_must", .scalar (.bool true)), ("notes", .str "自动模拟发现节点启动前存在资源短缺。"),
      ("metadata", .obj [("resource_shortages", .arr shortages)])]
    rationale := failure.description }]

/-- `personnel_issue_operations(proposal)`. -/
def personnelIssueOperations (proposal : PlanRevisionProposal) (failure : SimulationFailure) :
    List OperationDraft :=
  [{ operationType := .reduceAdmission
     targetId := proposal.planRevision.text
     targetField := "capacity_policy"
     newValue := [("policy", .str "暂停新增接纳，直到平均疲劳值低于 70。"),
       ("average_fatigue", getKey failure.metadata "average_fatigue")]
     rationale := failure.description }]

/-- `dependency_unmet_operations(proposal)`. -/
def dependencyUnmetOperations (node : PlanNode) (failure : SimulationFailure) :
    List OperationDraft :=
  [{ operationType := .note
     targetId := node.nodeId.text
     newValue := [("revision_id", .str node.revision.text), ("node_id", .str node.nodeId.text),
       ("unmet_dependencies", getKeyOr failure.metadata "unmet_dependencies" (.arr [])),
       ("note", .str "自动模拟发现已有前置依赖尚未满足；需要人工判断是否补充新的结构化依赖。")]
     rationale := failure.description
     isRequired := false }]

/-- `change_operations_for_proposal(proposal)` of a proposal with a node and a failure; every type
of failure has a builder, and none of them returns an empty list. -/
def changeOperationsForProposal (proposal : PlanRevisionProposal) (node : PlanNode)
    (failure : SimulationFailure) : Except PyError (List OperationDraft) :=
  match failure.failureType with
  | .skillShortage => skillShortageOperations node failure
  | .responsibilityClosureMissing => responsibilityClosureOperations lang node failure
  | .budgetUnrealistic => .ok (budgetUnrealisticOperations lang node failure)
  | .laborShortage => laborShortageOperations lang proposal node failure
  | .resourceShortage => resourceShortageOperations node failure
  | .personnelIssue => .ok (personnelIssueOperations proposal failure)
  | .dependencyUnmet => .ok (dependencyUnmetOperations node failure)

end LiveOs.Simulation
