import LiveOs.Simulation.Model

/-!
# Feasibility of a plan node

`simulation/feasibility.py` and `simulation/responsibility_closure.py`: the checks on the next node
of a run, in their order, and what a failed one says.
-/

namespace LiveOs.Simulation

open Lib Planning
open Procurement (PyDecimal)

variable (lang : Language)

/-! ## JSON values in loops -/

/-- `for item in v`, and `list(v)`. -/
def iterate : Json → Except PyError (List Json)
  | .arr xs => .ok xs
  | .obj es => .ok (es.map fun e => .str e.1)
  | .str s => .ok (s.toList.map fun c => .str (String.singleton c))
  | .scalar _ => .error .type

/-- `a or b`. -/
def orElse (a b : Json) : Json := if truthy a then a else b

/-- `sep.join(items)`, for texts only. -/
def joinItems (sep : String) (items : List Json) : Except PyError String :=
  (items.mapM fun item => (match item with
    | Json.str s => .ok s
    | _ => .error .type : Except PyError String)).map (join sep)

/-- `isinstance(v, dict)`. -/
def asDict : Json → Option (List (String × Json))
  | .obj es => some es
  | _ => none

/-- What a failed check says. -/
structure FailureData where
  failureType : FailureType
  title : String
  description : String
  metadata : List (String × Json)

/-- `f"{node.code} {node.title}"`. -/
def nodeLabel (node : PlanNode) : String := node.code.text ++ " " ++ node.title.text

/-! ## Dependencies -/

/-- The state of a node in a run. -/
def stateOf? (db : SimDb) (run : String) (node : NodeId) : Option PlanNodeRunState :=
  db.states.rows.find? fun s => s.run = run && s.planNode = node

/-- The dependencies of a node, `order_by("dependency_id")`, with the nodes they depend on. -/
def dependenciesOf (db : SimDb) (node : PlanNode) : List (PlanDependency × PlanNode) :=
  (orderBy (fun _ => 0) (fun d => d.dependencyId.text)
    (db.plan.dependencies.rows.filter fun d => d.node = node.nodeId)).filterMap fun d =>
      (db.plan.nodes.get? d.dependsOn).map fun n => (d, n)

/-- The state is missing or not completed. -/
def isUnmet (db : SimDb) (run : String) (node : NodeId) : Bool :=
  match stateOf? db run node with
  | none => true
  | some state => state.status ≠ .completed

/-- `unmet_dependency_titles(run=run, node=node)`. -/
def unmetDependencyTitles (db : SimDb) (run : SimulationRun) (node : PlanNode) : List String :=
  ((dependenciesOf db node).filter fun d => isUnmet db run.runId d.1.dependsOn).map fun d =>
    nodeLabel d.2

/-! ## Resources -/

structure ResourceShortage where
  resourceType : String
  needed : Decimal
  available : PyDecimal

def ResourceShortage.toJson (s : ResourceShortage) : Json :=
  .obj [("resource_type", .str s.resourceType), ("needed", .str s.needed.text),
    ("available", .str s.available.text)]

/-- One item of `required_resources`. -/
def resourceShortage (resources : Resources) (requirement : Json) :
    Except PyError (Option ResourceShortage) :=
  match asDict requirement with
  | none => .ok none
  | some entries => do
    let resourceType := orElse (getKey entries "resource_type") (getKey entries "type")
    if ¬ truthy resourceType then return none
    let needed := decimalFromMetadata lang.py (getKey entries "quantity")
    let name := lang.py.str resourceType
    let available := availableStock resources name
    if (← needed.order available) = .gt then
      return some { resourceType := name, needed := needed, available := available }
    return none

/-- `resource_shortages_for_node(node)`. -/
def resourceShortagesForNode (resources : Resources) (node : PlanNode) :
    Except PyError (List ResourceShortage) := do
  let requirements ← iterate node.requiredResources
  return (← requirements.mapM (resourceShortage lang resources)).filterMap id

/-! ## Responsibility closures -/

/-- `document.get("restrictions") or document.get("limitations") or []`, as a condition. -/
def hasRestrictions (document : List (String × Json)) : Bool :=
  truthy (getKey document "restrictions") || truthy (getKey document "limitations")

/-- `responsibility_document_is_valid(document)`. -/
def responsibilityDocumentIsValid (document : List (String × Json)) : Bool :=
  (["issuer", "document_name", "signed_or_sealed", "clear_conclusion",
    "applicable_to_current_site", "applicable_to_current_scale"].all fun field =>
      truthy (getKey document field)) &&
  !(truthy (getKey document "professional_evaluation_only") ||
    truthy (getKey document "oral_opinion_only")) &&
  !(hasRestrictions document && !truthy (getKey document "restrictions_converted_to_constraints"))

/-- `invalid_document_reasons(document)`. -/
def invalidDocumentReasons (document : List (String × Json)) : List String :=
  let checks := [
    ("issuer", "缺少可追责出具主体。"),
    ("document_name", "缺少文件名称。"),
    ("signed_or_sealed", "缺少签字、盖章或合同责任约束。"),
    ("clear_conclusion", "缺少明确结论。"),
    ("applicable_to_current_site", "未明确适用于当前场地。"),
    ("applicable_to_current_scale", "未明确适用于当前光伏规模。")]
  let reasons := (checks.filter fun c => !truthy (getKey document c.1)).map Prod.snd ++
    (if truthy (getKey document "professional_evaluation_only") then
      ["只有专业人员评估通过，缺少可归档责任文件。"] else []) ++
    (if truthy (getKey document "oral_opinion_only") then
      ["只有口头判断，不能作为通过条件。"] else []) ++
    (if hasRestrictions document && !truthy (getKey document "restrictions_converted_to_constraints")
      then ["文件限制条件尚未转化为后续施工约束。"] else [])
  if reasons = [] then ["文件不满足责任闭环要求。"] else reasons

structure MissingClosure where
  code : String
  label : String
  examples : List Json
  responsibleSubjects : List Json
  missingReasons : List String

def MissingClosure.toJson (m : MissingClosure) : Json :=
  .obj [("code", .str m.code), ("label", .str m.label), ("status", .str "未取得"),
    ("examples", .arr m.examples), ("responsible_subjects", .arr m.responsibleSubjects),
    ("missing_reasons", .arr (m.missingReasons.map .str))]

/-- One item of `required_responsibility_closures`. -/
def missingClosure (documents : List Json) (requirement : Json) :
    Except PyError (Option MissingClosure) :=
  match asDict requirement with
  | none => .ok none
  | some entries => do
    let code := strip (strOr lang.py (getKey entries "code") "")
    if code = "" then return none
    let matching := (documents.filterMap asDict).filter fun document =>
      strOr lang.py (getKey document "closure_code") "" = code
    if matching.any responsibilityDocumentIsValid then return none
    return some {
      code := code
      label := strOr lang.py (getKey entries "label") code
      examples := ← iterate (orEmptyList (getKey entries "examples"))
      responsibleSubjects := ← iterate (orEmptyList (getKey entries "responsible_subjects"))
      missingReasons := match matching with
        | document :: _ => invalidDocumentReasons document
        | [] => ["未取得可归档、可追责的书面责任文件。"] }

/-- `missing_responsibility_closures_for_node(node)`. -/
def missingResponsibilityClosuresForNode (node : PlanNode) : Except PyError (List MissingClosure) :=
  let metadata := (asDict node.metadata).getD []
  match orEmptyList (getKey metadata "required_responsibility_closures"),
    orEmptyList (getKey metadata "responsibility_documents") with
  | .arr requirements, .arr documents => do
    return (← requirements.mapM (missingClosure lang documents)).filterMap id
  | _, _ => .ok []

/-- `responsibility_closure_failure_for_node(node, missing)`. -/
def responsibilityClosureFailureForNode (node : PlanNode) (missing : List MissingClosure) :
    FailureData where
  failureType := .responsibilityClosureMissing
  title := nodeLabel node ++ " 责任闭环缺失"
  description := nodeLabel node ++ " 进入采购、施工、调试或并网前，缺少关键责任闭环：" ++
    join "、" (missing.map MissingClosure.label) ++ "。"
  metadata := [
    ("missing_responsibility_closures", .arr (missing.map MissingClosure.toJson)),
    ("cannot_continue_reasons", .arr [
      .str "没有机构或责任人对屋顶/场地承载能力出具书面结论。",
      .str "没有机构对并网接入、电气保护、防雷接地承担设计责任。",
      .str "没有施工单位对施工质量和安全承担责任。",
      .str "现有判断如果只是技能或经验判断，无法在现实中追责。"]),
    ("recommended_actions", .arr [
      .str "租场地前先做并网预筛。",
      .str "租场地前或附条件租赁阶段取得结构/建筑安全判断。",
      .str "不接受成员自评、顾问口头判断、已有专业人员评估通过作为通过条件。",
      .str "必须以可归档、可追责、可作为决策依据的书面文件作为通过依据。"]),
    ("low_cost_boundary", .obj [
      ("community_allowed", .arr [.str "场地清理", .str "资料整理", .str "询价比价", .str "搬运",
        .str "看护", .str "巡检记录", .str "低风险辅助施工"]),
      ("community_not_allowed", .arr [.str "结构安全判断", .str "电气接入设计", .str "并网调试",
        .str "防雷接地设计", .str "施工安全责任主体", .str "口头经验替代签字盖章文件"])])]

/-! ## The checks -/

/-- `normalize_skill(skill)`. -/
def normalizeSkill (skill : Json) : String := lang.lower (strip (lang.py.str skill))

/-- The skills of a node that the run lacks. -/
def missingSkills (run : SimulationRun) (node : PlanNode) : Except PyError (List Json) := do
  let skills ← iterate node.requiredSkills
  return skills.filter fun skill =>
    !run.metadata.availableSkills.contains (normalizeSkill lang skill)

/-- The check of the dependencies. -/
def dependencyFailure (db : SimDb) (run : SimulationRun) (node : PlanNode) : Option FailureData :=
  match unmetDependencyTitles db run node with
  | [] => none
  | unmet => some {
      failureType := .dependencyUnmet
      title := nodeLabel node ++ " 前置条件未满足"
      description := "节点 " ++ node.code.text ++ " 不能启动，因为前置节点尚未完成：" ++
        join "、" unmet ++ "。"
      metadata := [("unmet_dependencies", .arr (unmet.map .str))] }

/-- The check of the people. -/
def laborFailure (run : SimulationRun) (node : PlanNode) : Option FailureData :=
  let available := run.metadata.availablePeople
  if available < node.requiredPeopleMin.val then some {
    failureType := .laborShortage
    title := nodeLabel node ++ " 人力不足"
    description := "节点最低需要 " ++ toString node.requiredPeopleMin.val ++
      " 人，但当前可用于模拟的守约者只有 " ++ toString available ++ " 人。"
    metadata := [("required_people_min", .scalar (.int node.requiredPeopleMin.val)),
      ("available_people", .scalar (.int available))] }
  else none

/-- The check of the fatigue. -/
def personnelFailure (run : SimulationRun) (node : PlanNode) :
    Except PyError (Option FailureData) := do
  let fatigue := decimalFromText lang.py run.metadata.averageFatigue
  if (← fatigue.order ⟨85, 0⟩) ≠ .lt ∧
      max 1 (run.metadata.availablePeople / 3) ≤ node.requiredPeopleMin.val then
    return some {
      failureType := .personnelIssue
      title := nodeLabel node ++ " 人员状态不可承受"
      description := "当前平均疲劳值为 " ++ fatigue.text ++ "，继续推进该节点会显著增加退出和冲突风险。"
      metadata := [("average_fatigue", .str fatigue.text), ("threshold", .str "85")] }
  return none

/-- The check of the budget. -/
def budgetFailure (run : SimulationRun) (node : PlanNode) :
    Except PyError (Option FailureData) := do
  let cost := node.estimatedCostExpected.value
  let remaining := decimalFromText lang.py run.metadata.remainingBudget
  if (← remaining.order cost) = .lt then
    -- `cost - remaining`, which is finite or infinite here
    let shortfall := match remaining with
      | .finite r => Decimal.finite (cost.add ⟨-r.coefficient, r.exponent⟩)
      | _ => .infinity false
    return some {
      failureType := .budgetUnrealistic
      title := nodeLabel node ++ " 预算不足"
      description := "节点预计需要 " ++ cost.text ++ " 元，但本次模拟剩余预算只有 " ++ remaining.text ++
        " 元，缺口 " ++ shortfall.text ++ " 元。"
      metadata := [("estimated_cost_expected", .str cost.text),
        ("remaining_budget", .str remaining.text), ("budget_shortfall", .str shortfall.text)] }
  return none

/-- The check of the resources. -/
def resourceFailure (resources : Resources) (node : PlanNode) :
    Except PyError (Option FailureData) := do
  match ← resourceShortagesForNode lang resources node with
  | [] => return none
  | first :: rest => return some {
      failureType := .resourceShortage
      title := nodeLabel node ++ " 资源不足"
      description := "节点所需资源不足：" ++ first.resourceType ++ " 需要 " ++ first.needed.text ++
        "，当前只有 " ++ first.available.text ++ "。"
      metadata := [("resource_shortages", .arr ((first :: rest).map ResourceShortage.toJson))] }

/-- The check of the responsibility closures. -/
def closureFailure (node : PlanNode) : Except PyError (Option FailureData) := do
  match ← missingResponsibilityClosuresForNode lang node with
  | [] => return none
  | missing => return some (responsibilityClosureFailureForNode node missing)

/-- The check of the skills. -/
def skillFailure (run : SimulationRun) (node : PlanNode) : Except PyError (Option FailureData) := do
  match ← missingSkills lang run node with
  | [] => return none
  | missing => return some {
      failureType := .skillShortage
      title := nodeLabel node ++ " 技能缺口"
      description := "节点需要 " ++ (← joinItems ", " missing) ++ "，但当前成员技能画像中没有这些能力。"
      metadata := [("missing_skills", .arr missing),
        ("available_skills", .arr (run.metadata.availableSkills.map .str))] }

/-- The first check that fails or raises. -/
def firstFailure : List (Except PyError (Option FailureData)) →
    Except PyError (Option FailureData)
  | [] => .ok none
  | check :: checks =>
    match check with
    | .ok none => firstFailure checks
    | result => result

/-- `feasibility_failure_for_node(run, node)`. -/
def feasibilityFailureForNode (db : SimDb) (resources : Resources) (run : SimulationRun)
    (node : PlanNode) : Except PyError (Option FailureData) :=
  firstFailure [
    .ok (dependencyFailure db run node),
    .ok (laborFailure run node),
    personnelFailure lang run node,
    budgetFailure lang run node,
    resourceFailure lang resources node,
    closureFailure lang node,
    skillFailure lang run node]

end LiveOs.Simulation
