import LiveOs.Planning.Verify.Copy

/-!
# What an operation does

An operation that succeeds keeps the nodes and dependencies, adds a node, adds a dependency between
two nodes of the context or assigns to one node of the context. Everything later is read off
`Change` and `Frame`.
-/

namespace LiveOs.Planning

open Lib

variable {py : Python} {operation : PlanChangeOperation} {db db' : PlanDb}
  {context context' : ApplicationContext}

/-! ## What is left alone -/

/-- The revision without its metadata, when it is the given one. -/
def forgetMetadata (revisionId : RevisionId) (r : PlanRevision) : PlanRevision :=
  if r.revisionId = revisionId then { r with metadata := .obj [] } else r

/-- The revisions are the same but for the metadata of one. -/
def SameRevisions (revisionId : RevisionId) (db db' : PlanDb) : Prop :=
  db'.revisions.rows.map (forgetMetadata revisionId) =
    db.revisions.rows.map (forgetMetadata revisionId)

/-- What no operation on the given revision touches. -/
structure Frame (revisionId : RevisionId) (db db' : PlanDb) : Prop where
  changeSets : db'.changeSets = db.changeSets
  operations : db'.operations = db.operations
  revisions : SameRevisions revisionId db db'
  requirements : db.requirements.rows <+: db'.requirements.rows
  impacts : db.impacts.rows <+: db'.impacts.rows

theorem Frame.refl (revisionId : RevisionId) (db : PlanDb) : Frame revisionId db db :=
  ⟨rfl, rfl, rfl, List.prefix_refl _, List.prefix_refl _⟩

theorem Frame.trans {revisionId : RevisionId} {a b c : PlanDb} (h : Frame revisionId a b)
    (h' : Frame revisionId b c) : Frame revisionId a c :=
  ⟨h'.1.trans h.1, h'.2.trans h.2, Eq.trans h'.3 h.3, h.4.trans h'.4, h.5.trans h'.5⟩

/-- `metadata.get(key)`, where the metadata is an object. -/
def metadataKey (metadata : Json) (key : String) : Option Json :=
  match metadata with
  | .obj es => Json.get? es key
  | _ => none

/-- Two contexts with the same revision, but for what a note about capacity adds to its metadata,
with the same clock and with the same maps. -/
structure SameMaps (context context' : ApplicationContext) : Prop where
  revision : context'.revision = { context.revision with metadata := context'.revision.metadata }
  metadata : ∀ key ≠ "capacity_policy",
    metadataKey context'.revision.metadata key = metadataKey context.revision.metadata key
  revisionSlug : context'.revisionSlug = context.revisionSlug
  appliedAt : context'.appliedAt = context.appliedAt
  nodesBySourceId : context'.nodesBySourceId = context.nodesBySourceId
  nodesByNewId : context'.nodesByNewId = context.nodesByNewId
  nodesByCode : context'.nodesByCode = context.nodesByCode

theorem SameMaps.refl (context : ApplicationContext) : SameMaps context context :=
  ⟨rfl, fun _ _ => rfl, rfl, rfl, rfl, rfl, rfl⟩

theorem SameMaps.trans {a b c : ApplicationContext} (h : SameMaps a b) (h' : SameMaps b c) :
    SameMaps a c :=
  ⟨by rw [h'.revision, h.revision], fun key hkey => (h'.metadata key hkey).trans (h.metadata key hkey),
    h'.3.trans h.3, h'.4.trans h.4, h'.5.trans h.5, h'.6.trans h.6, h'.7.trans h.7⟩

theorem sameMaps_recordResult (context : ApplicationContext) (operation : PlanChangeOperation)
    (result : List (String × Json)) : SameMaps context (context.recordResult operation result) :=
  ⟨rfl, fun _ _ => rfl, rfl, rfl, rfl, rfl, rfl⟩

theorem sameMaps_recordNote (context : ApplicationContext) (note : Option String) :
    SameMaps context (recordNote py operation context note) :=
  ⟨rfl, fun _ _ => rfl, rfl, rfl, rfl, rfl, rfl⟩

/-! ## The handlers -/

/-- The node that an `ADD_NODE` operation enters. -/
structure NewNode (py : Python) (operation : PlanChangeOperation) (context : ApplicationContext)
    (payload : List (String × Json)) (node : PlanNode) : Prop where
  reads : operationPayload operation = .ok payload
  revision : node.revision = context.revision.revisionId
  code : requiredStr py payload "code" operation = .ok node.code.text
  unknown : lookup context.nodesByCode node.code.text = none
  parent : resolveOptionalParent py payload context = .ok node.parent
  sequence : ∃ i, intValue py (getKey payload "sequence") (nextNodeSequence context) = .ok i ∧
    PositiveInt.store i = .ok node.sequence

/-- The dependency that an `ADD_DEPENDENCY` operation enters. -/
structure NewDependency (py : Python) (operation : PlanChangeOperation)
    (context : ApplicationContext) (payload : List (String × Json)) (node dependsOn : LiveNode)
    (dependency : PlanDependency) : Prop where
  reads : operationPayload operation = .ok payload
  target : resolveNode py payload context ["node_id", "target_node_id"]
    ["node_code", "target_node_code", "code"] = .ok node
  prerequisite : resolveNode py payload context ["depends_on_id"] ["depends_on_code"] = .ok dependsOn
  ends : dependency.node = node.nodeId ∧ dependency.dependsOn = dependsOn.nodeId
  revision : dependency.revision = context.revision.revisionId

/-- The assignment that an `UPDATE_NODE_FIELD` operation makes. -/
structure FieldUpdate (py : Python) (operation : PlanChangeOperation)
    (context : ApplicationContext) (payload : List (String × Json)) (node : LiveNode)
    (assignment : Assignment) : Prop where
  reads : operationPayload operation = .ok payload
  target : resolveNode py (merged [("node_id", .str operation.targetId)] payload) context
    ["node_id", "target_node_id"] ["node_code", "target_node_code", "code"] = .ok node
  assigns : fieldAssignment py context operation.targetField
    ((Json.get? payload "value").getD (.obj payload)) = .ok assignment

/-- What an operation does to the nodes, the dependencies and the maps. -/
inductive Change (py : Python) (operation : PlanChangeOperation)
    (context context' : ApplicationContext) (db db' : PlanDb) : Prop
  | kept (nodes : db'.nodes = db.nodes) (dependencies : db'.dependencies = db.dependencies)
    (maps : SameMaps context context')
  | added (payload : List (String × Json)) (node : PlanNode)
    (type : OperationType.ofValue? operation.operationType = some .addNode ∨
      OperationType.ofValue? operation.operationType = some .addPreparation)
    (new : NewNode py operation context payload node)
    (rows : db'.nodes.rows = db.nodes.rows ++ [node])
    (dependencies : db'.dependencies = db.dependencies)
    (maps : SameMaps (context.rememberNode node none) context')
  | linked (payload : List (String × Json)) (node dependsOn : LiveNode)
    (dependency : PlanDependency)
    (type : OperationType.ofValue? operation.operationType = some .addDependency)
    (new : NewDependency py operation context payload node dependsOn dependency)
    (nodes : db'.nodes = db.nodes)
    (rows : db'.dependencies.rows = db.dependencies.rows ++ [dependency])
    (maps : SameMaps context context')
  | updated (payload : List (String × Json)) (node : LiveNode) (assignment : Assignment)
    (type : OperationType.ofValue? operation.operationType = some .updateNodeField)
    (update : FieldUpdate py operation context payload node assignment)
    (rows : db'.nodes.rows = db.nodes.rows.map fun n => if n.nodeId = node.nodeId then
      { assignment.row n with updatedAt := some context.appliedAt } else n)
    (dependencies : db'.dependencies = db.dependencies)
    (maps : SameMaps (context.setLive (assignment.live node)) context')

/-- The requirement that an operation enters on a node. -/
structure NewRequirement (operation : PlanChangeOperation) (payload : List (String × Json))
    (node : NodeId) (requirement : PlanRequirement) : Prop where
  node : requirement.node = node
  metadata : ∃ es, spread (getKey payload "metadata") = .ok es ∧ requirement.metadata =
    .obj (merged es [("source_change_operation_id", .str operation.operationId)])

theorem addRequirement_ok {payload : List (String × Json)} {node : LiveNode} {ordinal : Option Nat}
    (h : addRequirement py operation payload node ordinal context db = .ok context' db') :
    ∃ requirement requirements, NewRequirement operation payload node.nodeId requirement ∧
      db' = { db with requirements := requirements } ∧
      requirements.rows = db.requirements.rows ++ [requirement] ∧ SameMaps context context' := by
  obtain ⟨name, -, h⟩ := run_compute_bind_ok.1 h
  obtain ⟨slug, -, h⟩ := run_compute_bind_ok.1 h
  rw [run_get_bind] at h
  obtain ⟨id, -, h⟩ := run_compute_bind_ok.1 h
  obtain ⟨quantity, -, h⟩ := run_compute_bind_ok.1 h
  obtain ⟨unitCost, -, h⟩ := run_compute_bind_ok.1 h
  obtain ⟨total, -, h⟩ := run_compute_bind_ok.1 h
  obtain ⟨metadata, hmetadata, h⟩ := run_compute_bind_ok.1 h
  obtain ⟨requirementType, -, h⟩ := run_compute_bind_ok.1 h
  obtain ⟨name, -, h⟩ := run_compute_bind_ok.1 h
  obtain ⟨quantity, -, h⟩ := run_compute_bind_ok.1 h
  obtain ⟨unit, -, h⟩ := run_compute_bind_ok.1 h
  obtain ⟨unitCost, -, h⟩ := run_compute_bind_ok.1 h
  obtain ⟨total, -, h⟩ := run_compute_bind_ok.1 h
  obtain ⟨_, _, hcreate, h⟩ := run_bind_ok.1 h
  obtain ⟨requirements, rfl, hrows⟩ := createRequirement_ok hcreate
  obtain ⟨rfl, rfl⟩ := by simpa using h
  exact ⟨_, requirements, ⟨rfl, metadata, hmetadata, rfl⟩, rfl, hrows, sameMaps_recordResult _ _ _⟩

/-- A requirement and nothing else is added. -/
structure OnlyRequirements (db db' : PlanDb) (context context' : ApplicationContext) : Prop where
  only : db' = { db with requirements := db'.requirements }
  rows : db.requirements.rows <+: db'.requirements.rows
  maps : SameMaps context context'

theorem OnlyRequirements.of_added {payload : List (String × Json)} {node : LiveNode}
    {ordinal : Option Nat}
    (h : addRequirement py operation payload node ordinal context db = .ok context' db') :
    OnlyRequirements db db' context context' := by
  obtain ⟨r, requirements, -, rfl, hrows, hmaps⟩ := addRequirement_ok h
  exact ⟨rfl, hrows ▸ List.prefix_append _ _, hmaps⟩

theorem addNestedRequirement_ok {node : LiveNode} {item : Json × Nat}
    (h : addNestedRequirement py operation node context item db = .ok context' db') :
    OnlyRequirements db db' context context' := by
  unfold addNestedRequirement at h
  obtain ⟨v, i⟩ := item
  cases v with
  | scalar s =>
    cases s with
    | none =>
      obtain ⟨payload, -, h⟩ := run_compute_bind_ok.1 h
      exact .of_added h
    | bool b => cases h
    | int n => cases h
    | float f => cases h
  | str s => cases h
  | arr xs => cases h
  | obj es => exact .of_added h

theorem nestedRequirements_ok {node : LiveNode} {items : List (Json × Nat)}
    (h : items.foldlM (addNestedRequirement py operation node) context db = .ok context' db') :
    OnlyRequirements db db' context context' :=
  foldlM_rel (R := fun p q => OnlyRequirements p.2 q.2 p.1 q.1)
    (fun p => ⟨rfl, List.prefix_refl _, SameMaps.refl _⟩)
    (fun p q r hpq hqr => ⟨by rw [hqr.only, hpq.only], hpq.rows.trans hqr.rows, hpq.maps.trans hqr.maps⟩)
    (fun x _ c s c' s' hx => addNestedRequirement_ok hx) h

theorem applyAddNode_ok (h : applyAddNode py operation context db = .ok context' db') :
    ∃ payload node nodes requirements, NewNode py operation context payload node ∧
      db' = { db with nodes := nodes, requirements := requirements } ∧
      nodes.rows = db.nodes.rows ++ [node] ∧ db.requirements.rows <+: requirements.rows ∧
      SameMaps (context.rememberNode node none) context' ∧
      (getKey payload "requirements" = .scalar .none → requirements = db.requirements) := by
  obtain ⟨payload, hpayload, h⟩ := run_compute_bind_ok.1 h
  obtain ⟨code, hcode, h⟩ := run_compute_bind_ok.1 h
  cases hlookup : lookup context.nodesByCode code with
  | some id =>
    rw [hlookup, if_pos Option.isSome_some] at h
    cases h
  | none =>
    rw [hlookup, if_neg (by simp)] at h
    obtain ⟨expectedCost, -, h⟩ := run_compute_bind_ok.1 h
    obtain ⟨metadata, -, h⟩ := run_compute_bind_ok.1 h
    rw [run_get_bind] at h
    obtain ⟨nodeId, -, h⟩ := run_compute_bind_ok.1 h
    obtain ⟨parent, hparent, h⟩ := run_compute_bind_ok.1 h
    obtain ⟨i, hi, h⟩ := run_compute_bind_ok.1 h
    obtain ⟨title, -, h⟩ := run_compute_bind_ok.1 h
    obtain ⟨startDay, -, h⟩ := run_compute_bind_ok.1 h
    obtain ⟨duration, -, h⟩ := run_compute_bind_ok.1 h
    obtain ⟨endDay, -, h⟩ := run_compute_bind_ok.1 h
    obtain ⟨low, -, h⟩ := run_compute_bind_ok.1 h
    obtain ⟨high, -, h⟩ := run_compute_bind_ok.1 h
    obtain ⟨peopleMin, -, h⟩ := run_compute_bind_ok.1 h
    obtain ⟨peopleMax, -, h⟩ := run_compute_bind_ok.1 h
    obtain ⟨personDays, -, h⟩ := run_compute_bind_ok.1 h
    obtain ⟨sequence, hsequence, h⟩ := run_compute_bind_ok.1 h
    obtain ⟨storedCode, hstored, h⟩ := run_compute_bind_ok.1 h
    obtain ⟨title, -, h⟩ := run_compute_bind_ok.1 h
    obtain ⟨nodeType, -, h⟩ := run_compute_bind_ok.1 h
    obtain ⟨status, -, h⟩ := run_compute_bind_ok.1 h
    obtain ⟨startDay, -, h⟩ := run_compute_bind_ok.1 h
    obtain ⟨duration, -, h⟩ := run_compute_bind_ok.1 h
    obtain ⟨endDay, -, h⟩ := run_compute_bind_ok.1 h
    obtain ⟨low, -, h⟩ := run_compute_bind_ok.1 h
    obtain ⟨expected, -, h⟩ := run_compute_bind_ok.1 h
    obtain ⟨high, -, h⟩ := run_compute_bind_ok.1 h
    obtain ⟨peopleMin, -, h⟩ := run_compute_bind_ok.1 h
    obtain ⟨peopleMax, -, h⟩ := run_compute_bind_ok.1 h
    obtain ⟨personDays, -, h⟩ := run_compute_bind_ok.1 h
    obtain ⟨_, _, hcreate, h⟩ := run_bind_ok.1 h
    obtain ⟨nodes, rfl, hrows⟩ := createNode_ok hcreate
    obtain ⟨context₁, _, hnested, h⟩ := run_bind_ok.1 h
    have honly := nestedRequirements_ok hnested
    obtain ⟨rfl, rfl⟩ := by simpa using h
    have hcodeText : storedCode.text = code := by
      unfold VarChar.store at hstored
      split at hstored
      · obtain rfl := Except.ok.inj hstored
        rfl
      · cases hstored
    refine ⟨payload, _, nodes, _, ⟨hpayload, rfl, ?_, ?_, hparent, i, hi, hsequence⟩, honly.only, hrows,
      honly.rows, honly.maps.trans (sameMaps_recordResult _ _ _), fun hnone => ?_⟩
    · exact hcodeText ▸ hcode
    · exact hcodeText ▸ hlookup
    · rw [hnone] at hnested
      obtain ⟨-, rfl⟩ := by simpa [listValue, List.foldlM_nil] using hnested
      rfl

theorem applyAddDependency_ok (h : applyAddDependency py operation context db = .ok context' db') :
    ∃ payload node dependsOn dependency dependencies,
      NewDependency py operation context payload node dependsOn dependency ∧
      db' = { db with dependencies := dependencies } ∧
      dependencies.rows = db.dependencies.rows ++ [dependency] ∧ SameMaps context context' := by
  obtain ⟨payload, hpayload, h⟩ := run_compute_bind_ok.1 h
  obtain ⟨node, hnode, h⟩ := run_compute_bind_ok.1 h
  obtain ⟨dependsOn, hdependsOn, h⟩ := run_compute_bind_ok.1 h
  obtain ⟨dependsOnSlug, -, h⟩ := run_compute_bind_ok.1 h
  obtain ⟨nodeSlug, -, h⟩ := run_compute_bind_ok.1 h
  rw [run_get_bind] at h
  obtain ⟨id, -, h⟩ := run_compute_bind_ok.1 h
  obtain ⟨metadata, -, h⟩ := run_compute_bind_ok.1 h
  obtain ⟨dependencyType, -, h⟩ := run_compute_bind_ok.1 h
  obtain ⟨_, _, hcreate, h⟩ := run_bind_ok.1 h
  obtain ⟨dependencies, rfl, hrows⟩ := createDependency_ok hcreate
  obtain ⟨rfl, rfl⟩ := by simpa using h
  exact ⟨payload, node, dependsOn, _, dependencies, ⟨hpayload, hnode, hdependsOn, ⟨rfl, rfl⟩, rfl⟩,
    rfl, hrows, sameMaps_recordResult _ _ _⟩

theorem applyAddRequirement_ok
    (h : applyAddRequirement py operation context db = .ok context' db') :
    OnlyRequirements db db' context context' := by
  obtain ⟨payload, -, h⟩ := run_compute_bind_ok.1 h
  obtain ⟨node, -, h⟩ := run_compute_bind_ok.1 h
  exact .of_added h

theorem applyAddCapacityImpact_ok
    (h : applyAddCapacityImpact py operation context db = .ok context' db') :
    ∃ impacts, db' = { db with impacts := impacts } ∧ db.impacts.rows <+: impacts.rows ∧
      SameMaps context context' := by
  obtain ⟨payload, -, h⟩ := run_compute_bind_ok.1 h
  obtain ⟨node, -, h⟩ := run_compute_bind_ok.1 h
  obtain ⟨slug, -, h⟩ := run_compute_bind_ok.1 h
  rw [run_get_bind] at h
  obtain ⟨id, -, h⟩ := run_compute_bind_ok.1 h
  obtain ⟨delta, -, h⟩ := run_compute_bind_ok.1 h
  obtain ⟨metadata, -, h⟩ := run_compute_bind_ok.1 h
  obtain ⟨impactType, -, h⟩ := run_compute_bind_ok.1 h
  obtain ⟨delta, -, h⟩ := run_compute_bind_ok.1 h
  obtain ⟨unit, -, h⟩ := run_compute_bind_ok.1 h
  obtain ⟨_, _, hcreate, h⟩ := run_bind_ok.1 h
  obtain ⟨impacts, rfl, hrows⟩ := createImpact_ok hcreate
  obtain ⟨rfl, rfl⟩ := by simpa using h
  exact ⟨impacts, rfl, hrows ▸ List.prefix_append _ _, sameMaps_recordResult _ _ _⟩

theorem applyUpdateNodeField_ok
    (h : applyUpdateNodeField py operation context db = .ok context' db') :
    ∃ payload node assignment, FieldUpdate py operation context payload node assignment ∧
      db' = { db with
        nodes := db.nodes.modify node.nodeId
          (fun n => { assignment.row n with updatedAt := some context.appliedAt })
          assignment.keepsId fun _ => rfl } ∧
      SameMaps (context.setLive (assignment.live node)) context' := by
  by_cases hfield : ¬ updatableNodeFields.contains operation.targetField
  · rw [applyUpdateNodeField, if_pos hfield] at h
    cases h
  · rw [applyUpdateNodeField, if_neg hfield] at h
    obtain ⟨payload, hpayload, h⟩ := run_compute_bind_ok.1 h
    obtain ⟨node, hnode, h⟩ := run_compute_bind_ok.1 h
    obtain ⟨assignment, hassignment, h⟩ := run_compute_bind_ok.1 h
    obtain ⟨_, _, hsave, h⟩ := run_bind_ok.1 h
    obtain rfl := saveNode_ok hsave
    obtain ⟨rfl, rfl⟩ := by simpa using h
    exact ⟨payload, node, assignment, ⟨hpayload, hnode, hassignment⟩, rfl,
      sameMaps_recordResult _ _ _⟩

theorem forgetMetadata_idem (revisionId : RevisionId) (r : PlanRevision) (metadata : Json)
    (h : r.revisionId = revisionId) :
    forgetMetadata revisionId { r with metadata := metadata } = forgetMetadata revisionId r := by
  rw [forgetMetadata, forgetMetadata, if_pos h, if_pos h]

theorem sameRevisions_saveMetadata (revisionId : RevisionId) (metadata : Json) :
    SameRevisions revisionId db { db with
      revisions := db.revisions.modify revisionId (fun r => { r with metadata := metadata })
        (fun _ => rfl) fun _ => rfl } := by
  rw [SameRevisions, Table.modify_rows, List.map_map]
  refine List.map_congr_left fun r _ => ?_
  rw [Function.comp_apply]
  split
  · rename_i h
    exact forgetMetadata_idem revisionId r metadata h
  · rfl

theorem metadataKey_of_falsy {metadata : Json} (h : ¬ truthy metadata = true) (key : String) :
    metadataKey metadata key = none := by
  cases metadata with
  | obj es =>
    cases es with
    | nil => rfl
    | cons e es => exact absurd rfl h
  | scalar s => rfl
  | str s => rfl
  | arr xs => rfl

theorem spread_obj (es : List (String × Json)) : spread (.obj es) = .ok es := by
  cases es with
  | nil => rfl
  | cons e es => rfl

theorem spread_keeps {metadata : Json} {es : List (String × Json)} (h : spread metadata = .ok es)
    (key : String) : Json.get? es key = metadataKey metadata key := by
  unfold spread at h
  split at h
  · split at h
    · obtain rfl := Except.ok.inj h
      rfl
    · cases h
  · rename_i hfalsy
    obtain rfl := Except.ok.inj h
    exact (metadataKey_of_falsy hfalsy key).symm

theorem assigned_keeps {metadata metadata' value : Json} {key other : String}
    (h : assigned metadata key value = .ok metadata') (hother : other ≠ key) :
    metadataKey metadata' other = metadataKey metadata other := by
  unfold assigned at h
  cases hes : spread metadata with
  | error e =>
    rw [hes] at h
    cases h
  | ok es =>
    rw [hes] at h
    obtain rfl := Except.ok.inj h
    rw [← spread_keeps hes, metadataKey, get?_upsert, if_neg hother]

theorem appendUnder_keeps {metadata item : Json} {key other : String} {es : List (String × Json)}
    (h : appendUnder metadata key item = .ok es) (hother : other ≠ key) :
    Json.get? es other = metadataKey metadata other := by
  have hnew : ∀ xs : List Json, Json.get? [(key, .arr xs)] other = none := fun xs => by
    simp [Json.get?, Ne.symm hother]
  unfold appendUnder at h
  split at h
  · split at h
    · rename_i es₀ _
      dsimp only at h
      split at h
      · obtain rfl := Except.ok.inj h
        have hlast := hnew [item]
        unfold Json.get? at hlast ⊢
        rw [List.find?_append, metadataKey, Json.get?]
        cases hfind : es₀.find? fun e => e.1 = other with
        | none => simpa using hlast
        | some e => rfl
      · obtain rfl := Except.ok.inj h
        rw [get?_upsert, if_neg hother]
        rfl
      · cases h
    · cases h
  · rename_i htruthy
    obtain rfl := Except.ok.inj h
    rw [metadataKey_of_falsy htruthy]
    exact hnew [item]

theorem applyRevisionMetadataNote_ok
    (h : applyRevisionMetadataNote operation "capacity_policy" context db = .ok context' db') :
    ∃ revisions, db' = { db with revisions := revisions } ∧
      SameRevisions context.revision.revisionId db db' ∧ SameMaps context context' := by
  obtain ⟨metadata, hmetadata, h⟩ := run_compute_bind_ok.1 h
  obtain ⟨_, _, hsave, h⟩ := run_bind_ok.1 h
  obtain rfl := pure_eq_ok.1 (run_update_ok.1 hsave)
  obtain ⟨rfl, rfl⟩ := by simpa using h
  exact ⟨_, rfl, sameRevisions_saveMetadata _ _,
    ⟨rfl, fun key hkey => appendUnder_keeps hmetadata hkey, rfl, rfl, rfl, rfl, rfl⟩⟩

/-- **Operations.** -/
theorem applyOperation_ok (h : applyOperation py context operation db = .ok context' db') :
    Frame context.revision.revisionId db db' ∧ Change py operation context context' db db' := by
  have hsame : SameRevisions context.revision.revisionId db db := rfl
  unfold applyOperation at h
  cases htype : OperationType.ofValue? operation.operationType with
  | none =>
    simp only [htype] at h
    split at h
    · cases h
    · obtain ⟨rfl, rfl⟩ := by simpa using h
      exact ⟨.refl _ _, .kept rfl rfl (sameMaps_recordNote _ _)⟩
  | some type =>
    simp only [htype] at h
    cases type with
    | note =>
      obtain ⟨rfl, rfl⟩ := by simpa using h
      exact ⟨.refl _ _, .kept rfl rfl (sameMaps_recordNote _ _)⟩
    | addNode =>
      obtain ⟨payload, node, nodes, requirements, hnew, rfl, hrows, hreqs, hmaps, -⟩ :=
        applyAddNode_ok h
      exact ⟨⟨rfl, rfl, hsame, hreqs, List.prefix_refl _⟩,
        .added payload node (.inl htype) hnew hrows rfl hmaps⟩
    | addPreparation =>
      obtain ⟨payload, node, nodes, requirements, hnew, rfl, hrows, hreqs, hmaps, -⟩ :=
        applyAddNode_ok h
      exact ⟨⟨rfl, rfl, hsame, hreqs, List.prefix_refl _⟩,
        .added payload node (.inr htype) hnew hrows rfl hmaps⟩
    | addDependency =>
      obtain ⟨payload, node, dependsOn, dependency, dependencies, hnew, rfl, hrows, hmaps⟩ :=
        applyAddDependency_ok h
      exact ⟨⟨rfl, rfl, hsame, List.prefix_refl _, List.prefix_refl _⟩,
        .linked payload node dependsOn dependency htype hnew rfl hrows hmaps⟩
    | addRequirement =>
      obtain ⟨hdb, hrows, hmaps⟩ := applyAddRequirement_ok h
      rw [hdb] at hrows ⊢
      exact ⟨⟨rfl, rfl, hsame, hrows, List.prefix_refl _⟩, .kept rfl rfl hmaps⟩
    | addCapacityImpact =>
      obtain ⟨impacts, rfl, hrows, hmaps⟩ := applyAddCapacityImpact_ok h
      exact ⟨⟨rfl, rfl, hsame, List.prefix_refl _, hrows⟩, .kept rfl rfl hmaps⟩
    | updateNodeField =>
      obtain ⟨payload, node, assignment, hupdate, rfl, hmaps⟩ := applyUpdateNodeField_ok h
      exact ⟨⟨rfl, rfl, hsame, List.prefix_refl _, List.prefix_refl _⟩,
        .updated payload node assignment htype hupdate rfl rfl hmaps⟩
    | reduceAdmission =>
      obtain ⟨revisions, rfl, hrevisions, hmaps⟩ := applyRevisionMetadataNote_ok h
      exact ⟨⟨rfl, rfl, hrevisions, List.prefix_refl _, List.prefix_refl _⟩,
        .kept rfl rfl hmaps⟩

/-- The revision of the context stays, but for a note about capacity in its metadata. -/
theorem Change.revision (h : Change py operation context context' db db') :
    context'.revision = { context.revision with metadata := context'.revision.metadata } ∧
      ∀ key ≠ "capacity_policy",
        metadataKey context'.revision.metadata key = metadataKey context.revision.metadata key := by
  cases h with
  | kept nodes dependencies maps => exact ⟨maps.revision, maps.metadata⟩
  | added payload node type new rows dependencies maps => exact ⟨maps.revision, maps.metadata⟩
  | linked payload node dependsOn dependency type new nodes rows maps =>
    exact ⟨maps.revision, maps.metadata⟩
  | updated payload node assignment type update rows dependencies maps =>
    exact ⟨maps.revision, maps.metadata⟩

/-- What the operations together leave alone. -/
structure FrameOfAll (p q : ApplicationContext × PlanDb) : Prop where
  frame : Frame p.1.revision.revisionId p.2 q.2
  revision : q.1.revision = { p.1.revision with metadata := q.1.revision.metadata }
  metadata : ∀ key ≠ "capacity_policy",
    metadataKey q.1.revision.metadata key = metadataKey p.1.revision.metadata key

theorem FrameOfAll.trans {p q r : ApplicationContext × PlanDb} (h : FrameOfAll p q)
    (h' : FrameOfAll q r) : FrameOfAll p r := by
  have hid : q.1.revision.revisionId = p.1.revision.revisionId := by rw [h.revision]
  refine ⟨h.frame.trans (hid ▸ h'.frame), ?_, fun key hkey =>
    (h'.metadata key hkey).trans (h.metadata key hkey)⟩
  rw [h'.revision, h.revision]

/-- The operations together. -/
theorem applyOperations_frame {operations : List PlanChangeOperation}
    (h : operations.foldlM (applyOperation py) context db = .ok context' db') :
    FrameOfAll (context, db) (context', db') :=
  foldlM_rel (R := FrameOfAll) (fun _ => ⟨.refl _ _, rfl, fun _ _ => rfl⟩) (fun _ _ _ => FrameOfAll.trans)
    (fun _ _ _ _ _ _ hx => ⟨(applyOperation_ok hx).1, (applyOperation_ok hx).2.revision.1,
      (applyOperation_ok hx).2.revision.2⟩) h

end LiveOs.Planning
