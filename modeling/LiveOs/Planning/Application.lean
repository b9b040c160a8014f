import LiveOs.EventLedger.Journal
import LiveOs.Planning.Model

/-!
# Applying a change set

`simulation/plan_application.py`: the preflight check, the copy of the source revision under
generated ids, the operations on the copy, and the publication of the result.
-/

namespace LiveOs.Planning

open Lib EventLedger

/-! ## Ids and codes -/

/-- `[0-9A-Za-z]`. -/
def isSlugChar (c : Char) : Bool := c.toNat < 128 && c.isAlphanum

/-- `re.sub(r"[^0-9A-Za-z]+", separator, value)`; the flag says that a run has begun. -/
def collapse (separator : Char) : Bool → List Char → List Char
  | _, [] => []
  | inRun, c :: cs =>
    if isSlugChar c then c :: collapse separator false cs
    else if inRun then collapse separator true cs
    else separator :: collapse separator true cs

/-- `text.strip(chars)`. -/
def stripChars (chars : Char → Bool) (cs : List Char) : List Char :=
  ((cs.dropWhile chars).reverse.dropWhile chars).reverse

/-- `text or default`. -/
def textOr (text default : String) : String := if text = "" then default else text

/-- `slugify(value, separator=separator)`. -/
def slugify (value : String) (separator : Char) : String :=
  textOr (String.ofList ((stripChars (· = separator)
    (collapse separator false value.toList)).map Char.toLower)) "item"

/-- The text cut to `n` characters, as a key. -/
def Key.cut {n : Nat} (hn : 0 < n) (s : String) (hs : s ≠ "") : Key n where
  text := String.ofList (s.toList.take n)
  nonempty h := by
    have htake : s.toList.take n = [] := String.ofList_eq_empty_iff.1 h
    rcases List.take_eq_nil_iff.1 htake with hzero | hnil
    · omega
    · exact hs (by simpa using hnil)
  fits := length_cut_le n s

/-- The suffix of the candidate with the given number. -/
def idSuffix (index : Nat) : String := if index = 1 then "" else "-" ++ padded 3 index

/-- The candidate with the given number, before the cut to its column. -/
def idText (n : Nat) (cleaned : String) (index : Nat) : String :=
  String.ofList (cleaned.toList.take (n - (idSuffix index).length)) ++ idSuffix index

theorem idText_ne_empty {n : Nat} (hn : 0 < n) {cleaned : String} (h : cleaned ≠ "")
    (index : Nat) : idText n cleaned index ≠ "" := by
  intro hempty
  rw [idText, String.append_eq_empty_iff] at hempty
  obtain ⟨htake, hsuffix⟩ := hempty
  rw [hsuffix] at htake
  rcases List.take_eq_nil_iff.1 (String.ofList_eq_empty_iff.1 htake) with hzero | hnil
  · simp at hzero
    omega
  · exact h (by simpa using hnil)

theorem textOr_ne_empty {text default : String} (h : default ≠ "") : textOr text default ≠ "" := by
  unfold textOr
  split
  · exact h
  · assumption

/-- A model as `unique_model_id` reads it. -/
structure ModelName where
  name : String
  modelName : String
  field : String
  nonempty : modelName ≠ ""

/-- `base.strip("-_") or model_name`. -/
def cleanedBase (model : ModelName) (base : String) : String :=
  textOr (String.ofList (stripChars (fun c => c = '-' || c = '_') base.toList)) model.modelName

/-- The candidate with the given number. -/
def idCandidate {n : Nat} (hn : 0 < n) (model : ModelName) (base : String) (index : Nat) : Key n :=
  Key.cut hn (idText n (cleanedBase model base) index)
    (idText_ne_empty hn (textOr_ne_empty model.nonempty) index)

/-- `unique_model_id(model, field_name, base)`: the first of 999 candidates that is free. -/
def uniqueModelId {n : Nat} (hn : 0 < n) (model : ModelName) (taken : Key n → Bool)
    (base : String) : Except PyError (Key n) :=
  match (List.range' 1 999).find? fun index => !taken (idCandidate hn model base index) with
  | some index => .ok (idCandidate hn model base index)
  | none => .error (.domain ("无法为 " ++ model.name ++ "." ++ model.field ++ " 生成唯一 ID。"))

theorem planRevision_ne_empty : "planrevision" ≠ "" := by decide
theorem planNode_ne_empty : "plannode" ≠ "" := by decide
theorem planDependency_ne_empty : "plandependency" ≠ "" := by decide
theorem planRequirement_ne_empty : "planrequirement" ≠ "" := by decide
theorem planCapacityImpact_ne_empty : "plancapacityimpact" ≠ "" := by decide
theorem key64_pos : 0 < 64 := by decide
theorem key96_pos : 0 < 96 := by decide

def PlanRevision.model : ModelName :=
  ⟨"PlanRevision", "planrevision", "revision_id", planRevision_ne_empty⟩
def PlanNode.model : ModelName := ⟨"PlanNode", "plannode", "node_id", planNode_ne_empty⟩
def PlanDependency.model : ModelName :=
  ⟨"PlanDependency", "plandependency", "dependency_id", planDependency_ne_empty⟩
def PlanRequirement.model : ModelName :=
  ⟨"PlanRequirement", "planrequirement", "requirement_id", planRequirement_ne_empty⟩
def PlanCapacityImpact.model : ModelName :=
  ⟨"PlanCapacityImpact", "plancapacityimpact", "impact_id", planCapacityImpact_ne_empty⟩

/-- A new `PlanRevision.revision_id`. -/
def newRevisionId (db : PlanDb) (base : String) : Except PyError RevisionId :=
  uniqueModelId key64_pos PlanRevision.model
    (fun key => db.revisions.rows.any fun r => r.revisionId = key) base

/-- A new `PlanNode.node_id`. -/
def newNodeId (db : PlanDb) (base : String) : Except PyError NodeId :=
  uniqueModelId key96_pos PlanNode.model (fun key => db.nodes.rows.any fun n => n.nodeId = key) base

/-- A new `PlanDependency.dependency_id`. -/
def newDependencyId (db : PlanDb) (base : String) : Except PyError (Key 96) :=
  uniqueModelId key96_pos PlanDependency.model
    (fun key => db.dependencies.rows.any fun d => d.dependencyId = key) base

/-- A new `PlanRequirement.requirement_id`. -/
def newRequirementId (db : PlanDb) (base : String) : Except PyError (Key 96) :=
  uniqueModelId key96_pos PlanRequirement.model
    (fun key => db.requirements.rows.any fun r => r.requirementId = key) base

/-- A new `PlanCapacityImpact.impact_id`. -/
def newImpactId (db : PlanDb) (base : String) : Except PyError (Key 96) :=
  uniqueModelId key96_pos PlanCapacityImpact.model
    (fun key => db.impacts.rows.any fun i => i.impactId = key) base

/-- `SEMVER_RE.match(code)`. -/
def readSemver (py : Python) (code : String) : Option (Nat × Nat × Nat) :=
  let number (cs : List Char) : Option Nat :=
    let digits := cs.map py.digits.toAscii
    if allDigits digits then some (natOfDigits digits) else none
  match code.toList with
  | 'v' :: cs =>
    match (cs.splitOn '.').mapM number with
    | some [major, minor, patch] => some (major, minor, patch)
    | _ => none
  | _ => none

/-- The codes `next_revision_code` tries, in order. -/
def revisionCodeCandidates (py : Python) (source : PlanRevision) : List String :=
  let sourceCode := textOr (strip source.revisionCode.text) "revision"
  let patches := match readSemver py sourceCode with
    | some (major, minor, patch) => (List.range' (patch + 1) 999).map fun candidate =>
        "v" ++ toString major ++ "." ++ toString minor ++ "." ++ toString candidate
    | none => []
  patches ++ (List.range' 1 999).map fun index => sourceCode ++ "-sim-" ++ padded 3 index

/-- `next_revision_code(source_revision)`. -/
def nextRevisionCode (py : Python) (db : PlanDb) (source : PlanRevision) : Except PyError String :=
  match (revisionCodeCandidates py source).find? fun code =>
      !db.revisions.rows.any fun r => r.plan = source.plan && r.revisionCode.text = code with
  | some code => .ok code
  | none => .error (.domain ("无法为计划 " ++ source.plan ++ " 生成新的版本号。"))

/-! ## The preflight check -/

/-- `str(payload.get(key) or "").strip() == ""`. -/
def lacksKey (py : Python) (payload : List (String × Json)) (key : String) : Bool :=
  strip (strOr py (getKey payload key) "") = ""

/-- `require_payload_keys(...)`. -/
def requirePayloadKeys (py : Python) (operation : PlanChangeOperation)
    (payload : List (String × Json)) (keys : List String) : List String :=
  (keys.filter fun key => lacksKey py payload key).map fun key =>
    "计划变更操作 " ++ operation.operationId ++ " 缺少必填字段：" ++ key

/-- `require_any_payload_key(...)`. -/
def requireAnyPayloadKey (py : Python) (operation : PlanChangeOperation)
    (payload : List (String × Json)) (keys : List String) : List String :=
  if keys.all fun key => lacksKey py payload key then
    ["计划变更操作 " ++ operation.operationId ++ " 缺少节点引用字段：" ++ join "/" keys]
  else []

/-- `validate_operation_payload(operation, payload)`. -/
def validateOperationPayload (py : Python) (operation : PlanChangeOperation)
    (operationType : OperationType) (payload : List (String × Json)) : List String :=
  match operationType with
  | .addNode | .addPreparation => requirePayloadKeys py operation payload ["code", "title"]
  | .addDependency =>
    requireAnyPayloadKey py operation payload
      ["node_id", "target_node_id", "node_code", "target_node_code", "code"] ++
    requireAnyPayloadKey py operation payload ["depends_on_id", "depends_on_code"]
  | .addRequirement =>
    requireAnyPayloadKey py operation payload
      ["node_id", "target_node_id", "node_code", "target_node_code"] ++
    requirePayloadKeys py operation payload ["name"]
  | .addCapacityImpact =>
    requireAnyPayloadKey py operation payload
      ["node_id", "target_node_id", "node_code", "target_node_code"]
  | .updateNodeField =>
    (if operation.targetField = "" then
      ["计划变更操作 " ++ operation.operationId ++ " 缺少目标字段：target_field"] else []) ++
    if operation.targetId = "" then
      requireAnyPayloadKey py operation payload
        ["node_id", "target_node_id", "node_code", "target_node_code", "code"]
    else []
  | .reduceAdmission | .note => []

/-- The errors of one operation. -/
def validateOperation (py : Python) (operation : PlanChangeOperation) : List String :=
  match OperationType.ofValue? operation.operationType with
  | none =>
    if operation.isRequired then
      ["计划变更操作 " ++ operation.operationId ++ " 使用了不支持的类型：" ++ operation.operationType]
    else []
  | some .note => []
  | some operationType =>
    if truthy operation.newValue then
      match operation.newValue with
      | .obj payload => validateOperationPayload py operation operationType payload
      | _ => ["计划变更操作 " ++ operation.operationId ++ " 的 new_value 必须是对象。"]
    else validateOperationPayload py operation operationType []

/-- `validate_plan_change_set_operations(change_set)`. -/
def validatePlanChangeSetOperations (py : Python) (db : PlanDb) (changeSet : String) :
    List String :=
  (changeSetOperations db changeSet).flatMap (validateOperation py)

/-! ## The context -/

/-- A node object in memory, as far as the context reads it again. An update may give it a code
that is no text. -/
structure LiveNode where
  nodeId : NodeId
  sequence : Nat
  code : Json

/-- `PlanApplicationContext`. The maps by source id and by code hold the latest entry first, the
nodes by new id stand in order of entry. -/
structure ApplicationContext where
  revision : PlanRevision
  revisionSlug : String
  appliedAt : Nat
  nodesBySourceId : List (String × NodeId) := []
  nodesByNewId : List LiveNode := []
  nodesByCode : List (String × NodeId) := []
  operationResults : List Json := []
  notes : List Json := []

/-- `mapping.get(key)`. -/
def lookup (entries : List (String × NodeId)) (key : String) : Option NodeId :=
  (entries.find? fun e => e.1 = key).map Prod.snd

namespace ApplicationContext

variable (context : ApplicationContext)

/-- `remember_node(node, source_node_id=source_node_id)`. -/
def rememberNode (node : PlanNode) (sourceNodeId : Option NodeId) : ApplicationContext :=
  { context with
    nodesBySourceId := match sourceNodeId with
      | some source => (source.text, node.nodeId) :: context.nodesBySourceId
      | none => context.nodesBySourceId
    nodesByNewId := context.nodesByNewId ++ [⟨node.nodeId, node.sequence.val, .str node.code.text⟩]
    nodesByCode := (node.code.text, node.nodeId) :: context.nodesByCode }

/-- The object of a node. -/
def liveNode? (nodeId : NodeId) : Option LiveNode :=
  context.nodesByNewId.find? fun n => n.nodeId = nodeId

/-- `nodes_by_source_id.get(node_id) or nodes_by_new_id.get(node_id)`. -/
def nodeOfId? (nodeId : String) : Option LiveNode :=
  match lookup context.nodesBySourceId nodeId with
  | some new => context.liveNode? new
  | none => context.nodesByNewId.find? fun n => n.nodeId.text = nodeId

/-- `nodes_by_code.get(code)`. -/
def nodeOfCode? (code : String) : Option LiveNode :=
  (lookup context.nodesByCode code).bind context.liveNode?

/-- The object of a node after an assignment to it. -/
def setLive (node : LiveNode) : ApplicationContext :=
  { context with nodesByNewId := context.nodesByNewId.map fun n =>
      if n.nodeId = node.nodeId then node else n }

/-- `record_operation_result(operation, context, **result)`. -/
def recordResult (operation : PlanChangeOperation) (result : List (String × Json)) :
    ApplicationContext :=
  { context with operationResults := context.operationResults ++ [.obj (merged [
      ("operation_id", .str operation.operationId),
      ("sequence", .scalar (.int operation.sequence)),
      ("operation_type", .str operation.operationType)] result)] }

end ApplicationContext

/-! ## Copying the source revision -/

/-- `PlanNode.objects.create(...)`. -/
def createNode (node : PlanNode) : PlanM Unit :=
  update fun db => do
    let nodes ← db.nodes.insert node .integrity
    return { db with nodes := nodes }

/-- `PlanDependency.objects.create(...)`. -/
def createDependency (dependency : PlanDependency) : PlanM Unit :=
  update fun db => do
    let dependencies ← db.dependencies.insert dependency .integrity
    return { db with dependencies := dependencies }

/-- `PlanRequirement.objects.create(...)`. -/
def createRequirement (requirement : PlanRequirement) : PlanM Unit :=
  update fun db => do
    let requirements ← db.requirements.insert requirement .integrity
    return { db with requirements := requirements }

/-- `PlanCapacityImpact.objects.create(...)`. -/
def createImpact (impact : PlanCapacityImpact) : PlanM Unit :=
  update fun db => do
    let impacts ← db.impacts.insert impact .integrity
    return { db with impacts := impacts }

/-- `node.save(update_fields=[...])`. -/
def saveNode (nodeId : NodeId) (fields : PlanNode → PlanNode)
    (hfields : ∀ n, (fields n).nodeId = n.nodeId) : PlanM Unit :=
  update fun db => return { db with
    nodes := db.nodes.modify nodeId fields hfields fun _ => rfl }

/-- The first loop of `copy_revision_contents`: one node. -/
def copyNode (source : PlanRevision) (context : ApplicationContext) (sourceNode : PlanNode) :
    PlanM ApplicationContext := do
  let db ← get
  let nodeId ← compute (newNodeId db (sourceNode.nodeId.text ++ "-" ++ context.revisionSlug))
  let metadata ← compute (spread sourceNode.metadata)
  let node : PlanNode := {
    nodeId := nodeId
    revision := context.revision.revisionId
    parent := none
    sequence := sourceNode.sequence
    code := sourceNode.code
    title := sourceNode.title
    nodeType := sourceNode.nodeType
    status := sourceNode.status
    isRequired := sourceNode.isRequired
    isExpandable := sourceNode.isExpandable
    allowSimulationAdjustment := sourceNode.allowSimulationAdjustment
    description := sourceNode.description
    plannedStartDay := sourceNode.plannedStartDay
    plannedDurationDays := sourceNode.plannedDurationDays
    plannedEndDay := sourceNode.plannedEndDay
    estimatedCostLow := sourceNode.estimatedCostLow
    estimatedCostExpected := sourceNode.estimatedCostExpected
    estimatedCostHigh := sourceNode.estimatedCostHigh
    requiredPeopleMin := sourceNode.requiredPeopleMin
    requiredPeopleMax := sourceNode.requiredPeopleMax
    requiredPersonDays := sourceNode.requiredPersonDays
    requiredSkills := orEmptyList sourceNode.requiredSkills
    requiredResources := orEmptyList sourceNode.requiredResources
    completionCriteria := orEmptyList sourceNode.completionCriteria
    riskNotes := sourceNode.riskNotes
    createdAt := context.appliedAt
    updatedAt := some context.appliedAt
    metadata := .obj (merged metadata [
      ("copied_from_node_id", .str sourceNode.nodeId.text),
      ("source_revision_id", .str source.revisionId.text)]) }
  createNode node
  return context.rememberNode node (some sourceNode.nodeId)

/-- `nodes_by_source_id[source_node_id]`. -/
def copyOf (context : ApplicationContext) (sourceNodeId : NodeId) : Except PyError NodeId :=
  match lookup context.nodesBySourceId sourceNodeId.text with
  | some new => .ok new
  | none => .error .key

/-- The second loop of `copy_revision_contents`: the parent of one node. -/
def copyParent (context : ApplicationContext) (sourceNode : PlanNode) : PlanM Unit :=
  match sourceNode.parent with
  | none => pure ()
  | some sourceParent => do
    let nodeId ← compute (copyOf context sourceNode.nodeId)
    match lookup context.nodesBySourceId sourceParent.text with
    | none => throw (.domain ("源计划节点 " ++ sourceNode.nodeId.text ++ " 的父节点 " ++
        sourceParent.text ++ " 不在同一版本中。"))
    | some parent => saveNode nodeId (fun n => { n with parent := some parent }) fun _ => rfl

/-- `copy_requirements(...)`: one requirement. -/
def copyRequirement (context : ApplicationContext) (requirement : PlanRequirement) :
    PlanM Unit := do
  let node ← compute (copyOf context requirement.node)
  let db ← get
  let requirementId ← compute
    (newRequirementId db (requirement.requirementId.text ++ "-" ++ context.revisionSlug))
  let metadata ← compute (spread requirement.metadata)
  createRequirement {
    requirementId := requirementId
    node := node
    -- the copy names no resource, so the column takes its default
    resource := none
    requirementType := requirement.requirementType
    name := requirement.name
    quantity := requirement.quantity
    unit := requirement.unit
    unitCost := requirement.unitCost
    totalCostEstimate := requirement.totalCostEstimate
    isMust := requirement.isMust
    notes := requirement.notes
    metadata := .obj (merged metadata [
      ("copied_from_requirement_id", .str requirement.requirementId.text)]) }

/-- `copy_capacity_impacts(...)`: one impact. -/
def copyImpact (context : ApplicationContext) (impact : PlanCapacityImpact) : PlanM Unit := do
  let node ← compute (copyOf context impact.node)
  let db ← get
  let impactId ← compute (newImpactId db (impact.impactId.text ++ "-" ++ context.revisionSlug))
  let metadata ← compute (spread impact.metadata)
  createImpact {
    impactId := impactId
    node := node
    impactType := impact.impactType
    delta := impact.delta
    unit := impact.unit
    description := impact.description
    metadata := .obj (merged metadata [("copied_from_impact_id", .str impact.impactId.text)]) }

/-- `copy_dependencies(...)`: one dependency. -/
def copyDependency (context : ApplicationContext) (dependency : PlanDependency) : PlanM Unit := do
  let db ← get
  let dependencyId ← compute
    (newDependencyId db (dependency.dependencyId.text ++ "-" ++ context.revisionSlug))
  let node ← compute (copyOf context dependency.node)
  let dependsOn ← compute (copyOf context dependency.dependsOn)
  let metadata ← compute (spread dependency.metadata)
  createDependency {
    dependencyId := dependencyId
    revision := context.revision.revisionId
    node := node
    dependsOn := dependsOn
    dependencyType := dependency.dependencyType
    description := dependency.description
    metadata := .obj (merged metadata [
      ("copied_from_dependency_id", .str dependency.dependencyId.text)]) }

/-- `for x in xs: f(x)`. -/
def forEach {α : Type} (xs : List α) (f : α → PlanM Unit) : PlanM Unit :=
  xs.foldlM (fun _ x => f x) ()

/-- The requirements of the nodes, `order_by("requirement_id")`. -/
def requirementsOf (db : PlanDb) (nodes : List PlanNode) : List PlanRequirement :=
  orderBy (fun _ => 0) (fun r => r.requirementId.text)
    (db.requirements.rows.filter fun r => (nodes.map PlanNode.nodeId).contains r.node)

/-- The impacts of the nodes, `order_by("impact_id")`. -/
def impactsOf (db : PlanDb) (nodes : List PlanNode) : List PlanCapacityImpact :=
  orderBy (fun _ => 0) (fun i => i.impactId.text)
    (db.impacts.rows.filter fun i => (nodes.map PlanNode.nodeId).contains i.node)

/-- `copy_revision_contents(source_revision=source_revision, context=context)`. -/
def copyRevisionContents (source : PlanRevision) (context : ApplicationContext) :
    PlanM ApplicationContext := do
  let sourceNodes := revisionNodes (← get) source.revisionId
  let context ← sourceNodes.foldlM (copyNode source) context
  forEach sourceNodes (copyParent context)
  forEach (requirementsOf (← get) sourceNodes) (copyRequirement context)
  forEach (impactsOf (← get) sourceNodes) (copyImpact context)
  forEach (revisionDependencies (← get) source.revisionId) (copyDependency context)
  return context

end LiveOs.Planning
