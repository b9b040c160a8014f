import LiveOs.Planning.Application

/-!
# Operations and their application

The second half of `simulation/plan_application.py`: what each operation of a change set does to the
copy, and the service around both halves.
-/

namespace LiveOs.Planning

open Lib EventLedger

/-! ## Payloads and references -/

/-- `operation_payload(operation)`. -/
def operationPayload (operation : PlanChangeOperation) : Except PyError (List (String × Json)) :=
  if truthy operation.newValue then
    match operation.newValue with
    | .obj payload => .ok payload
    | _ => .error (.domain ("计划变更操作 " ++ operation.operationId ++ " 的 new_value 必须是对象。"))
  else .ok []

/-- The node under the first of the keys that names one. -/
def resolveKeys (py : Python) (payload : List (String × Json)) (find : String → Option LiveNode)
    (keys : List String) : Option LiveNode :=
  keys.findSome? fun key =>
    let raw := getKey payload key
    if isBlank raw then none else find (py.str raw)

/-- `resolve_node(payload, context, id_keys=id_keys, code_keys=code_keys)`. -/
def resolveNode (py : Python) (payload : List (String × Json)) (context : ApplicationContext)
    (idKeys codeKeys : List String) : Except PyError LiveNode :=
  match resolveKeys py payload context.nodeOfId? idKeys with
  | some node => .ok node
  | none =>
    match resolveKeys py payload context.nodeOfCode? codeKeys with
    | some node => .ok node
    | none => .error (.domain ("无法解析计划节点引用：" ++ py.str (.obj payload)))

/-- `resolve_optional_parent(payload, context)`. -/
def resolveOptionalParent (py : Python) (payload : List (String × Json))
    (context : ApplicationContext) : Except PyError (Option NodeId) :=
  if isBlank (getKey payload "parent_id") ∧ isBlank (getKey payload "parent_code") then .ok none
  else (resolveNode py payload context ["parent_id"] ["parent_code"]).map fun n => some n.nodeId

/-- `required_str(payload, key, operation=operation)`. -/
def requiredStr (py : Python) (payload : List (String × Json)) (key : String)
    (operation : PlanChangeOperation) : Except PyError String :=
  let value := strip (strOr py (getKey payload key) "")
  if value = "" then
    .error (.domain ("计划变更操作 " ++ operation.operationId ++ " 缺少必填字段：" ++ key))
  else .ok value

/-- `next_node_sequence(context)`. -/
def nextNodeSequence (context : ApplicationContext) : Nat :=
  match context.nodesByNewId with
  | [] => 10
  | n :: ns => ns.foldl (fun m n => max m n.sequence) n.sequence + 10

/-- `slugify(node.code)`; `re.sub` takes texts only. -/
def slugOfCode (code : Json) : Except PyError String :=
  match code with
  | .str s => .ok (slugify s '-')
  | _ => .error .type

/-! ## The operations -/

/-- `record_note(operation, context, note=note)`. -/
def recordNote (py : Python) (operation : PlanChangeOperation) (context : ApplicationContext)
    (note : Option String) : ApplicationContext :=
  let newValue := match operation.newValue with
    | .obj es => es
    | _ => []
  let noteText := match note with
    | some text => textOr text (strOr py (getKey newValue "note") operation.rationale)
    | none => strOr py (getKey newValue "note") operation.rationale
  let noted : ApplicationContext := { context with notes := context.notes ++ [.obj [
    ("operation_id", .str operation.operationId), ("note", .str noteText)]] }
  noted.recordResult operation [("action", .str "note"), ("note", .str noteText)]

/-- The fields of a row of `core_plan_revision` under an id. -/
def saveRevision (revisionId : RevisionId) (fields : PlanRevision → PlanRevision)
    (hid : ∀ r, (fields r).revisionId = r.revisionId)
    (hcode : ∀ r, some ((fields r).plan, (fields r).revisionCode) = some (r.plan, r.revisionCode)) :
    PlanM Unit :=
  update fun db => return { db with
    revisions := db.revisions.modify revisionId fields hid hcode }

/-- `revision.save(update_fields=["metadata"])`. -/
def saveRevisionMetadata (revisionId : RevisionId) (metadata : Json) : PlanM Unit :=
  saveRevision revisionId (fun r => { r with metadata := metadata }) (fun _ => rfl) fun _ => rfl

/-- `metadata.setdefault(key, []).append(item)` on `metadata or {}`. -/
def appendUnder (metadata : Json) (key : String) (item : Json) :
    Except PyError (List (String × Json)) :=
  let append (es : List (String × Json)) : Except PyError (List (String × Json)) :=
    match Json.get? es key with
    | none => .ok (es ++ [(key, .arr [item])])
    | some (.arr xs) => .ok (Json.upsert es (key, .arr (xs ++ [item])))
    | some _ => .error .attribute
  if truthy metadata then
    match metadata with
    | .obj es => append es
    | _ => .error .attribute
  else append []

/-- `apply_revision_metadata_note(operation, context, key=key)`. -/
def applyRevisionMetadataNote (operation : PlanChangeOperation) (key : String)
    (context : ApplicationContext) : PlanM ApplicationContext := do
  let metadata ← compute (appendUnder context.revision.metadata key (.obj [
    ("operation_id", .str operation.operationId),
    ("target_field", .str operation.targetField),
    ("new_value", if truthy operation.newValue then operation.newValue else .obj []),
    ("rationale", .str operation.rationale)]))
  saveRevisionMetadata context.revision.revisionId (.obj metadata)
  let noted : ApplicationContext :=
    { context with revision := { context.revision with metadata := .obj metadata } }
  return noted.recordResult operation
    [("action", .str "update_revision_metadata"), ("key", .str key)]

/-- `apply_add_requirement` for a known node and payload. -/
def addRequirement (py : Python) (operation : PlanChangeOperation)
    (payload : List (String × Json)) (node : LiveNode) (ordinal : Option Nat)
    (context : ApplicationContext) : PlanM ApplicationContext := do
  let requirementType := strOr py (getKey payload "requirement_type") RequirementType.material
  let name ← compute (requiredStr py payload "name" operation)
  let slug ← compute (slugOfCode node.code)
  let db ← get
  let requirementId ← compute (newRequirementId db ("req-" ++ slug ++ "-" ++
    slugify requirementType '-' ++ "-" ++ slugify name '-' ++ "-" ++ context.revisionSlug))
  let quantity ← compute (decimalValue py (getKey payload "quantity") (.finite 0 0))
  let unitCost ← compute (decimalValue py (getKey payload "unit_cost") (.finite 0 (-2)))
  let totalCostEstimate ← compute
    (decimalValue py (getKey payload "total_cost_estimate") (.finite 0 (-2)))
  let metadata ← compute (spread (getKey payload "metadata"))
  let requirement : PlanRequirement := {
    requirementId := requirementId
    node := node.nodeId
    resource := none
    requirementType := ← compute (VarChar.store requirementType)
    name := ← compute (VarChar.store name)
    quantity := ← compute (DecimalColumn.store quantity)
    unit := ← compute (VarChar.store (strOr py (getKey payload "unit") ""))
    unitCost := ← compute (DecimalColumn.store unitCost)
    totalCostEstimate := ← compute (DecimalColumn.store totalCostEstimate)
    isMust := boolValue py (getKey payload "is_must") true
    notes := strOr py (getKey payload "notes") ""
    metadata := .obj (merged metadata
      [("source_change_operation_id", .str operation.operationId)]) }
  createRequirement requirement
  return context.recordResult operation ([("action", .str "add_requirement"),
      ("requirement_id", .str requirementId.text), ("node_id", .str node.nodeId.text)] ++
    match ordinal with
      | some i => [("ordinal", .scalar (.int i))]
      | none => [])

/-- `apply_add_requirement(operation, context)`. -/
def applyAddRequirement (py : Python) (operation : PlanChangeOperation)
    (context : ApplicationContext) : PlanM ApplicationContext := do
  let payload ← compute (operationPayload operation)
  let node ← compute (resolveNode py payload context ["node_id", "target_node_id"]
    ["node_code", "target_node_code"])
  addRequirement py operation payload node none context

/-- One item of `requirements` in the payload of a new node: `None` stands for the payload of the
operation, and only a dict has the method `get`. -/
def addNestedRequirement (py : Python) (operation : PlanChangeOperation) (node : LiveNode)
    (context : ApplicationContext) (item : Json × Nat) : PlanM ApplicationContext :=
  match item.1 with
  | .scalar .none => do
    let payload ← compute (operationPayload operation)
    addRequirement py operation payload node (some item.2) context
  | .obj payload => addRequirement py operation payload node (some item.2) context
  | _ => throw .attribute

/-- `apply_add_node(operation, context)`. -/
def applyAddNode (py : Python) (operation : PlanChangeOperation) (context : ApplicationContext) :
    PlanM ApplicationContext := do
  let payload ← compute (operationPayload operation)
  let code ← compute (requiredStr py payload "code" operation)
  if (lookup context.nodesByCode code).isSome then
    throw (.domain ("计划版本 " ++ context.revision.revisionId.text ++ " 中已存在节点编号：" ++ code))
  let expectedCost ← compute (decimalValue py
    (getKeyOr payload "estimated_cost_expected" (getKey payload "cost")) (.finite 0 (-2)))
  let metadata ← compute (updated (getKey payload "metadata")
    [("source_change_operation_id", .str operation.operationId)])
  let db ← get
  let nodeId ← compute (newNodeId db ("node-" ++ slugify context.revision.plan '-' ++ "-" ++
    slugify code '-' ++ "-" ++ context.revisionSlug))
  let parent ← compute (resolveOptionalParent py payload context)
  let sequence ← compute (intValue py (getKey payload "sequence") (nextNodeSequence context))
  let title ← compute (requiredStr py payload "title" operation)
  let plannedStartDay ← compute (optionalIntValue py (getKey payload "planned_start_day"))
  let plannedDurationDays ← compute (intValue py
    (getKeyOr payload "planned_duration_days" (getKey payload "duration")) 1)
  let plannedEndDay ← compute (optionalIntValue py (getKey payload "planned_end_day"))
  let costLow ← compute (decimalValue py (getKey payload "estimated_cost_low") expectedCost)
  let costHigh ← compute (decimalValue py (getKey payload "estimated_cost_high") expectedCost)
  let peopleMin ← compute (intValue py (getKey payload "required_people_min") 0)
  let peopleMax ← compute (intValue py (getKey payload "required_people_max") 0)
  let personDays ← compute
    (decimalValue py (getKey payload "required_person_days") (.finite 0 (-2)))
  let node : PlanNode := {
    nodeId := nodeId
    revision := context.revision.revisionId
    parent := parent
    sequence := ← compute (PositiveInt.store sequence)
    code := ← compute (VarChar.store code)
    title := ← compute (VarChar.store title)
    nodeType := ← compute (VarChar.store (strOr py (getKey payload "node_type") NodeType.workPackage))
    status := ← compute (VarChar.store (strOr py (getKey payload "status") NodeStatus.planned))
    isRequired := boolValue py (getKey payload "is_required") true
    isExpandable := boolValue py (getKey payload "is_expandable") false
    allowSimulationAdjustment := boolValue py (getKey payload "allow_simulation_adjustment") true
    description := strOr py (getKey payload "description") ""
    plannedStartDay := ← compute (storeOptional plannedStartDay)
    plannedDurationDays := ← compute (PositiveInt.store plannedDurationDays)
    plannedEndDay := ← compute (storeOptional plannedEndDay)
    estimatedCostLow := ← compute (DecimalColumn.store costLow)
    estimatedCostExpected := ← compute (DecimalColumn.store expectedCost)
    estimatedCostHigh := ← compute (DecimalColumn.store costHigh)
    requiredPeopleMin := ← compute (PositiveInt.store peopleMin)
    requiredPeopleMax := ← compute (PositiveInt.store peopleMax)
    requiredPersonDays := ← compute (DecimalColumn.store personDays)
    requiredSkills := .arr (listValue (getKey payload "required_skills"))
    requiredResources := .arr (listValue (getKey payload "required_resources"))
    completionCriteria := .arr (listValue (getKey payload "completion_criteria"))
    riskNotes := strOr py (getKey payload "risk_notes") ""
    createdAt := context.appliedAt
    updatedAt := some context.appliedAt
    metadata := metadata }
  createNode node
  let context := context.rememberNode node none
  let live : LiveNode := ⟨nodeId, node.sequence.val, .str node.code.text⟩
  let context ← ((listValue (getKey payload "requirements")).zipIdx 1).foldlM
    (addNestedRequirement py operation live) context
  return context.recordResult operation [("action", .str "add_node"),
    ("node_id", .str nodeId.text), ("code", .str code)]

/-- `apply_add_dependency(operation, context)`. -/
def applyAddDependency (py : Python) (operation : PlanChangeOperation)
    (context : ApplicationContext) : PlanM ApplicationContext := do
  let payload ← compute (operationPayload operation)
  let node ← compute (resolveNode py payload context ["node_id", "target_node_id"]
    ["node_code", "target_node_code", "code"])
  let dependsOn ← compute
    (resolveNode py payload context ["depends_on_id"] ["depends_on_code"])
  let dependsOnSlug ← compute (slugOfCode dependsOn.code)
  let nodeSlug ← compute (slugOfCode node.code)
  let db ← get
  let dependencyId ← compute (newDependencyId db
    ("dep-" ++ dependsOnSlug ++ "-" ++ nodeSlug ++ "-" ++ context.revisionSlug))
  let metadata ← compute (spread (getKey payload "metadata"))
  let dependencyType ← compute (VarChar.store
    (strOr py (getKey payload "dependency_type") DependencyType.finishToStart))
  createDependency {
    dependencyId := dependencyId
    revision := context.revision.revisionId
    node := node.nodeId
    dependsOn := dependsOn.nodeId
    dependencyType := dependencyType
    description := strOr py (getKey payload "description") ""
    metadata := .obj (merged metadata
      [("source_change_operation_id", .str operation.operationId)]) }
  return context.recordResult operation [("action", .str "add_dependency"),
    ("dependency_id", .str dependencyId.text), ("node_id", .str node.nodeId.text),
    ("depends_on_id", .str dependsOn.nodeId.text)]

/-- `apply_add_capacity_impact(operation, context)`. -/
def applyAddCapacityImpact (py : Python) (operation : PlanChangeOperation)
    (context : ApplicationContext) : PlanM ApplicationContext := do
  let payload ← compute (operationPayload operation)
  let node ← compute (resolveNode py payload context ["node_id", "target_node_id"]
    ["node_code", "target_node_code"])
  let impactType := strOr py (getKey payload "impact_type") ImpactType.memberCapacity
  let slug ← compute (slugOfCode node.code)
  let db ← get
  let impactId ← compute (newImpactId db
    ("impact-" ++ slug ++ "-" ++ slugify impactType '-' ++ "-" ++ context.revisionSlug))
  let delta ← compute (decimalValue py (getKey payload "delta") (.finite 0 0))
  let metadata ← compute (spread (getKey payload "metadata"))
  let impact : PlanCapacityImpact := {
    impactId := impactId
    node := node.nodeId
    impactType := ← compute (VarChar.store impactType)
    delta := ← compute (DecimalColumn.store delta)
    unit := ← compute (VarChar.store (strOr py (getKey payload "unit") ""))
    description := strOr py (getKey payload "description") ""
    metadata := .obj (merged metadata
      [("source_change_operation_id", .str operation.operationId)]) }
  createImpact impact
  return context.recordResult operation [("action", .str "add_capacity_impact"),
    ("impact_id", .str impactId.text), ("node_id", .str node.nodeId.text)]

/-! ## Updating a field -/

/-- `UPDATABLE_NODE_FIELDS`. -/
def updatableNodeFields : List String := ["parent", "parent_id", "sequence", "code", "title",
  "node_type", "status", "is_required", "is_expandable", "allow_simulation_adjustment",
  "description", "planned_start_day", "planned_duration_days", "planned_end_day",
  "estimated_cost_low", "estimated_cost_expected", "estimated_cost_high", "required_people_min",
  "required_people_max", "required_person_days", "required_skills", "required_resources",
  "completion_criteria", "risk_notes", "metadata"]

/-- A text column takes the `str` of any value but `None`. -/
def storeText (py : Python) (v : Json) : Except PyError String :=
  match v with
  | .scalar .none => .error .integrity
  | .str s => .ok s
  | v => .ok (py.str v)

def storeChar (py : Python) {n : Nat} (v : Json) : Except PyError (VarChar n) := do
  let text ← storeText py v
  VarChar.store text

/-- `optional_int_value(value) if value in (None, "") else int_value(value, default=0)` for a column
that takes no null. -/
def storeInt (py : Python) (v : Json) : Except PyError PositiveInt := do
  match ← optionalIntValue py v with
  | none => .error .integrity
  | some i => PositiveInt.store i

def storeOptionalInt (py : Python) (v : Json) : Except PyError (Option PositiveInt) := do
  storeOptional (← optionalIntValue py v)

def storeDecimal (py : Python) {digits places : Nat} (v : Json) :
    Except PyError (DecimalColumn digits places) := do
  DecimalColumn.store (← decimalValue py v (.finite 0 0))

/-- `value if value is not None else default`. -/
def jsonOr (v default : Json) : Json :=
  match v with
  | .scalar .none => default
  | v => v

/-- An assignment to a node: to its row and to its object in memory. -/
structure Assignment where
  row : PlanNode → PlanNode
  live : LiveNode → LiveNode
  keepsId : ∀ n, (row n).nodeId = n.nodeId
  keepsLiveId : ∀ n, (live n).nodeId = n.nodeId

/-- An assignment to a field that the context does not read. -/
def Assignment.ofRow (row : PlanNode → PlanNode) (h : ∀ n, (row n).nodeId = n.nodeId) : Assignment :=
  ⟨row, id, h, fun _ => rfl⟩

/-- The field and the value `apply_update_node_field` assigns. -/
def fieldAssignment (py : Python) (context : ApplicationContext) (field : String) (value : Json) :
    Except PyError Assignment := do
  match field with
  | "parent" | "parent_id" =>
    let parent ← resolveOptionalParent py [("parent_id", value)] context
    return .ofRow (fun n => { n with parent := parent }) fun _ => rfl
  | "sequence" =>
    let v ← storeInt py value
    return ⟨fun n => { n with sequence := v }, fun n => { n with sequence := v.val },
      fun _ => rfl, fun _ => rfl⟩
  | "code" =>
    let v ← storeChar py value
    return ⟨fun n => { n with code := v }, fun n => { n with code := value },
      fun _ => rfl, fun _ => rfl⟩
  | "title" =>
    let v ← storeChar py value
    return .ofRow (fun n => { n with title := v }) fun _ => rfl
  | "node_type" =>
    let v ← storeChar py value
    return .ofRow (fun n => { n with nodeType := v }) fun _ => rfl
  | "status" =>
    let v ← storeChar py value
    return .ofRow (fun n => { n with status := v }) fun _ => rfl
  | "is_required" =>
    return .ofRow (fun n => { n with isRequired := boolValue py value false }) fun _ => rfl
  | "is_expandable" =>
    return .ofRow (fun n => { n with isExpandable := boolValue py value false }) fun _ => rfl
  | "allow_simulation_adjustment" =>
    return .ofRow (fun n => { n with allowSimulationAdjustment := boolValue py value false })
      fun _ => rfl
  | "description" =>
    let v ← storeText py value
    return .ofRow (fun n => { n with description := v }) fun _ => rfl
  | "planned_start_day" =>
    let v ← storeOptionalInt py value
    return .ofRow (fun n => { n with plannedStartDay := v }) fun _ => rfl
  | "planned_duration_days" =>
    let v ← storeInt py value
    return .ofRow (fun n => { n with plannedDurationDays := v }) fun _ => rfl
  | "planned_end_day" =>
    let v ← storeOptionalInt py value
    return .ofRow (fun n => { n with plannedEndDay := v }) fun _ => rfl
  | "estimated_cost_low" =>
    let v ← storeDecimal py value
    return .ofRow (fun n => { n with estimatedCostLow := v }) fun _ => rfl
  | "estimated_cost_expected" =>
    let v ← storeDecimal py value
    return .ofRow (fun n => { n with estimatedCostExpected := v }) fun _ => rfl
  | "estimated_cost_high" =>
    let v ← storeDecimal py value
    return .ofRow (fun n => { n with estimatedCostHigh := v }) fun _ => rfl
  | "required_people_min" =>
    let v ← storeInt py value
    return .ofRow (fun n => { n with requiredPeopleMin := v }) fun _ => rfl
  | "required_people_max" =>
    let v ← storeInt py value
    return .ofRow (fun n => { n with requiredPeopleMax := v }) fun _ => rfl
  | "required_person_days" =>
    let v ← storeDecimal py value
    return .ofRow (fun n => { n with requiredPersonDays := v }) fun _ => rfl
  | "required_skills" =>
    return .ofRow (fun n => { n with requiredSkills := jsonOr value (.arr []) }) fun _ => rfl
  | "required_resources" =>
    return .ofRow (fun n => { n with requiredResources := jsonOr value (.arr []) }) fun _ => rfl
  | "completion_criteria" =>
    return .ofRow (fun n => { n with completionCriteria := jsonOr value (.arr []) }) fun _ => rfl
  | "risk_notes" =>
    let v ← storeText py value
    return .ofRow (fun n => { n with riskNotes := v }) fun _ => rfl
  | "metadata" =>
    return .ofRow (fun n => { n with metadata := jsonOr value (.obj []) }) fun _ => rfl
  | _ => .error (.domain ("不允许通过计划变更操作更新 PlanNode." ++ field ++ "。"))

/-- `apply_update_node_field(operation, context)`. -/
def applyUpdateNodeField (py : Python) (operation : PlanChangeOperation)
    (context : ApplicationContext) : PlanM ApplicationContext := do
  let field := operation.targetField
  if ¬ updatableNodeFields.contains field then
    throw (.domain ("不允许通过计划变更操作更新 PlanNode." ++ field ++ "。"))
  let payload ← compute (operationPayload operation)
  let node ← compute (resolveNode py (merged [("node_id", .str operation.targetId)] payload) context
    ["node_id", "target_node_id"] ["node_code", "target_node_code", "code"])
  let value := (Json.get? payload "value").getD (.obj payload)
  let assignment ← compute (fieldAssignment py context field value)
  saveNode node.nodeId
    (fun n => { assignment.row n with updatedAt := some context.appliedAt }) assignment.keepsId
  return (context.setLive (assignment.live node)).recordResult operation
    [("action", .str "update_node_field"), ("node_id", .str node.nodeId.text),
      ("field", .str (if field = "parent_id" then "parent" else field))]

/-! ## The service -/

/-- `apply_operations(change_set=change_set, context=context)`: one operation. -/
def applyOperation (py : Python) (context : ApplicationContext) (operation : PlanChangeOperation) :
    PlanM ApplicationContext :=
  match OperationType.ofValue? operation.operationType with
  | none =>
    if operation.isRequired then
      throw (.domain ("不支持的计划变更操作：" ++ operation.operationType))
    else pure <| recordNote py operation context
      (some ("跳过不支持的非必要操作：" ++ operation.operationType))
  | some .note => pure (recordNote py operation context none)
  | some .addNode => applyAddNode py operation context
  | some .addPreparation => applyAddNode py operation context
  | some .addDependency => applyAddDependency py operation context
  | some .addRequirement => applyAddRequirement py operation context
  | some .addCapacityImpact => applyAddCapacityImpact py operation context
  | some .updateNodeField => applyUpdateNodeField py operation context
  | some .reduceAdmission => applyRevisionMetadataNote operation "capacity_policy" context

/-- `publish_plan_revision(revision, published_at=published_at)`. -/
def publishPlanRevision (revision : PlanRevision) (publishedAt : Nat) : PlanM Unit := do
  update fun db => return { db with
    revisions := db.revisions.update
      (fun r => r.plan = revision.plan && r.status = .published && r.revisionId ≠ revision.revisionId)
      (fun r => { r with status := .retired }) (fun _ => rfl) fun _ => rfl }
  if revision.status ≠ .published ∨ revision.publishedAt = none then
    saveRevision revision.revisionId
      (fun r => { r with status := .published, publishedAt := some publishedAt })
      (fun _ => rfl) fun _ => rfl

/-- What `actor_ref` reads of an actor. -/
inductive Actor where
  | none
  | dict (es : List (String × Json))
  | text (s : String)
  | user (username : String) (pk : Nat)
  | other (text : String)

/-- `actor_ref(actor)`. -/
def actorRef : Actor → List (String × Json)
  | .none => []
  | .dict es => es
  | .text s => [("actor_id", .str s)]
  | .user username pk => [("actor_id", .str (textOr (strip username) ("user:" ++ toString pk))),
      ("user_id", .scalar (.int pk))]
  | .other text => [("actor_id", .str text)]

/-- One call of `apply_plan_change_set`. -/
structure ApplyCall where
  changeSetId : String
  actor : Actor := .none
  publish : Bool := false
  now : Nat

/-- The account of an application, in the metadata of the revision and of the change set. -/
def applicationAccount (locked : PlanChangeSet) (source : PlanRevision) (call : ApplyCall)
    (context : ApplicationContext) : List (String × Json) :=
  [("source_revision_id", .str source.revisionId.text),
    ("source_simulation_run_id", .str locked.run),
    ("actor", .obj (actorRef call.actor)),
    ("applied_at", .str (isoFormat call.now)),
    ("operations", .arr context.operationResults),
    ("notes", .arr context.notes)]

/-- The new revision, before anything is copied into it. -/
def newRevision (locked : PlanChangeSet) (source : PlanRevision) (call : ApplyCall)
    (revisionId : RevisionId) (revisionCode : String) : Except PyError PlanRevision := do
  let actor := actorRef call.actor
  let metadata ← spread source.metadata
  return {
    revisionId := revisionId
    plan := source.plan
    revisionCode := ← VarChar.store revisionCode
    status := .draft
    title := ← VarChar.store (source.title.text ++ " / " ++ revisionCode)
    changeSummary := "应用计划变更集 " ++ locked.changeSetId ++ " 生成；来源仿真运行 " ++ locked.run ++
      "；源版本 " ++ source.revisionCode.text ++ "。"
    createdAt := call.now
    createdBy := if actor ≠ [] then .obj actor else
      if truthy source.createdBy then source.createdBy else .obj []
    publishedAt := none
    metadata := .obj (merged metadata [
      ("source_revision_id", .str source.revisionId.text),
      ("source_revision_code", .str source.revisionCode.text),
      ("applied_change_set_id", .str locked.changeSetId),
      ("source_simulation_run_id", .str locked.run)]) }

/-- `get(revision_id=revision_id)`. -/
def getRevision (revisionId : RevisionId) : PlanM PlanRevision := do
  match (← get).revisions.get? revisionId with
  | some revision => return revision
  | none => throw .doesNotExist

/-- `PlanRevision.objects.create(...)`. -/
def createRevision (revision : PlanRevision) : PlanM Unit :=
  update fun db => do
    let revisions ← db.revisions.insert revision .integrity
    return { db with revisions := revisions }

/-- The application of a change set that is not applied yet. -/
def applyFresh (py : Python) (call : ApplyCall) (locked : PlanChangeSet) :
    PlanM RevisionId := do
  let errors := validatePlanChangeSetOperations py (← get) locked.changeSetId
  if errors ≠ [] then throw (.domain (join "；" errors))
  let source ← getRevision locked.planRevision
  let db ← get
  let revisionCode ← compute (nextRevisionCode py db source)
  let revisionId ← compute
    (newRevisionId db (source.plan ++ "-rev-" ++ slugify revisionCode '_'))
  let revision ← compute (newRevision locked source call revisionId revisionCode)
  createRevision revision
  let context : ApplicationContext :=
    { revision := revision, revisionSlug := slugify revisionCode '-', appliedAt := call.now }
  let context ← copyRevisionContents source context
  let context ← (changeSetOperations (← get) locked.changeSetId).foldlM (applyOperation py) context
  let account := applicationAccount locked source call context
  let revisionMetadata ← compute (assigned context.revision.metadata "plan_change_application"
    (.obj (("change_set_id", .str locked.changeSetId) :: account)))
  saveRevisionMetadata revisionId revisionMetadata
  if call.publish then
    publishPlanRevision { context.revision with metadata := revisionMetadata } call.now
  let changeSetMetadata ← compute (assigned locked.metadata "application_result"
    (.obj (("applied_revision_id", .str revisionId.text) ::
      ("applied_revision_code", .str revisionCode) :: account)))
  update fun db => return { db with
    changeSets := db.changeSets.modify locked.changeSetId
      (fun c => { c with
        status := .applied
        appliedAt := some call.now
        appliedRevision := some revisionId
        metadata := changeSetMetadata })
      (fun _ => rfl) fun _ => rfl }
  return revisionId

/-- `apply_plan_change_set(change_set, actor=actor, publish=publish)`; the revision it returns, by
its id. -/
def applyPlanChangeSet (py : Python) (call : ApplyCall) : PlanM RevisionId :=
  atomic do
    match (← get).changeSets.get? call.changeSetId with
    | none => throw .doesNotExist
    | some locked =>
      match locked.status with
      | .applied =>
        match locked.appliedRevision with
        | some revisionId => do
          let existing ← getRevision revisionId
          if call.publish then publishPlanRevision existing call.now
          return existing.revisionId
        | none => throw (.domain ("计划变更集 " ++ locked.changeSetId ++
            " 已标记为 applied，但缺少 applied_revision。"))
      | .rejected => throw (.domain ("计划变更集 " ++ locked.changeSetId ++ " 已拒绝，不能应用。"))
      | _ => applyFresh py call locked

end LiveOs.Planning
