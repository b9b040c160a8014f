import LiveOs.Lib.Table
import LiveOs.Planning.Values

/-!
# Plans, revisions and change sets

The rows of `core/models/planning.py` and of the change sets of `core/models/simulation_feedback.py`.
The database does not check `choices`, so a type or status that an operation may set is a text.
-/

namespace LiveOs.Planning

open Lib

/-! ## Revisions and their contents -/

/-- `PlanRevision.Status`. -/
inductive RevisionStatus where
  | draft
  | published
  | retired
deriving DecidableEq

abbrev RevisionId := Key 64
abbrev NodeId := Key 96

structure PlanRevision where
  revisionId : RevisionId
  plan : String
  revisionCode : VarChar 64
  status : RevisionStatus
  title : VarChar 255
  changeSummary : String
  createdAt : Nat
  createdBy : Json
  publishedAt : Option Nat
  metadata : Json

/-- `PlanNode.NodeType.STAGE`. -/
def NodeType.stage : String := "stage"

/-- `PlanNode.NodeType.WORK_PACKAGE`. -/
def NodeType.workPackage : String := "work_package"

/-- `PlanNode.NodeType.OPERATIONS`. -/
def NodeType.operations : String := "operations"

/-- `PlanNode.NodeType.RECRUITMENT`. -/
def NodeType.recruitment : String := "recruitment"

/-- `PlanNode.Status.PLANNED`. -/
def NodeStatus.planned : String := "planned"

/-- `PlanNode.Status.COMPLETED`. -/
def NodeStatus.completed : String := "completed"

/-- `PlanNode.Status.CANCELLED`. -/
def NodeStatus.cancelled : String := "cancelled"

structure PlanNode where
  nodeId : NodeId
  revision : RevisionId
  parent : Option NodeId
  sequence : PositiveInt
  code : VarChar 64
  title : VarChar 255
  nodeType : VarChar 32
  status : VarChar 32
  isRequired : Bool
  isExpandable : Bool
  allowSimulationAdjustment : Bool
  description : String
  plannedStartDay : Option PositiveInt
  plannedDurationDays : PositiveInt
  plannedEndDay : Option PositiveInt
  estimatedCostLow : DecimalColumn 14 2
  estimatedCostExpected : DecimalColumn 14 2
  estimatedCostHigh : DecimalColumn 14 2
  requiredPeopleMin : PositiveInt
  requiredPeopleMax : PositiveInt
  requiredPersonDays : DecimalColumn 10 2
  requiredSkills : Json
  requiredResources : Json
  completionCriteria : Json
  riskNotes : String
  createdAt : Nat
  updatedAt : Option Nat
  metadata : Json

/-- `PlanDependency.DependencyType.FINISH_TO_START`. -/
def DependencyType.finishToStart : String := "finish_to_start"

structure PlanDependency where
  dependencyId : Key 96
  revision : RevisionId
  node : NodeId
  dependsOn : NodeId
  dependencyType : VarChar 32
  description : String
  metadata : Json

/-- `PlanRequirement.RequirementType.MATERIAL`. -/
def RequirementType.material : String := "material"

/-- `PlanRequirement.RequirementType.SKILL`. -/
def RequirementType.skill : String := "skill"

/-- `PlanRequirement.RequirementType.PERMIT`. -/
def RequirementType.permit : String := "permit"

/-- `PlanRequirement.RequirementType.BUDGET`. -/
def RequirementType.budget : String := "budget"

structure PlanRequirement where
  requirementId : Key 96
  node : NodeId
  resource : Option String
  requirementType : VarChar 32
  name : VarChar 255
  quantity : DecimalColumn 14 3
  unit : VarChar 32
  unitCost : DecimalColumn 14 2
  totalCostEstimate : DecimalColumn 14 2
  isMust : Bool
  notes : String
  metadata : Json

/-- `PlanCapacityImpact.ImpactType.MEMBER_CAPACITY`. -/
def ImpactType.memberCapacity : String := "member_capacity"

structure PlanCapacityImpact where
  impactId : Key 96
  node : NodeId
  impactType : VarChar 40
  delta : DecimalColumn 14 3
  unit : VarChar 32
  description : String
  metadata : Json

/-! ## Change sets -/

/-- `PlanChangeSet.Status`. -/
inductive ChangeSetStatus where
  | draft
  | reviewed
  | accepted
  | rejected
  | applied
deriving DecidableEq

structure PlanChangeSet where
  changeSetId : String
  run : String
  proposal : String
  planRevision : RevisionId
  status : ChangeSetStatus
  appliedAt : Option Nat
  appliedRevision : Option RevisionId
  metadata : Json

/-- `PlanChangeOperation.OperationType`. -/
inductive OperationType where
  | addNode
  | updateNodeField
  | addDependency
  | addRequirement
  | addCapacityImpact
  | reduceAdmission
  | addPreparation
  | note
deriving DecidableEq

namespace OperationType

/-- The stored text of an operation type. -/
def value : OperationType → String
  | addNode => "add_node"
  | updateNodeField => "update_node_field"
  | addDependency => "add_dependency"
  | addRequirement => "add_requirement"
  | addCapacityImpact => "add_capacity_impact"
  | reduceAdmission => "reduce_admission"
  | addPreparation => "add_preparation"
  | note => "note"

/-- `SUPPORTED_OPERATION_TYPES`. -/
def supported : List OperationType := [addNode, addPreparation, addDependency, addRequirement,
  addCapacityImpact, updateNodeField, reduceAdmission, note]

/-- The supported type with the given stored text, when there is one. -/
def ofValue? (s : String) : Option OperationType := supported.find? fun t => t.value = s

@[simp] theorem ofValue?_value (t : OperationType) : ofValue? t.value = some t := by
  cases t <;> decide

end OperationType

structure PlanChangeOperation where
  operationId : String
  changeSet : String
  sequence : Nat
  operationType : String
  targetId : String
  targetField : String
  newValue : Json
  rationale : String
  isRequired : Bool

/-! ## The database -/

abbrev RevisionTable := Table PlanRevision RevisionId (String × VarChar 64) PlanRevision.revisionId
  fun r => some (r.plan, r.revisionCode)

abbrev NodeTable := Table PlanNode NodeId Unit PlanNode.nodeId fun _ => none

abbrev DependencyTable := Table PlanDependency (Key 96) Unit PlanDependency.dependencyId
  fun _ => none

abbrev RequirementTable := Table PlanRequirement (Key 96) Unit PlanRequirement.requirementId
  fun _ => none

abbrev ImpactTable := Table PlanCapacityImpact (Key 96) Unit PlanCapacityImpact.impactId
  fun _ => none

abbrev ChangeSetTable := Table PlanChangeSet String Unit PlanChangeSet.changeSetId fun _ => none

abbrev OperationTable := Table PlanChangeOperation String (String × Nat)
  PlanChangeOperation.operationId fun o => some (o.changeSet, o.sequence)

structure PlanDb where
  revisions : RevisionTable
  nodes : NodeTable
  dependencies : DependencyTable
  requirements : RequirementTable
  impacts : ImpactTable
  changeSets : ChangeSetTable
  operations : OperationTable

/-- A service on the plan tables. -/
abbrev PlanM := EStateM PyError PlanDb

/-! ## Queries -/

/-- `order_by("sequence", key)`. -/
def orderBy {α : Type} (sequence : α → Nat) (key : α → String) (rows : List α) : List α :=
  rows.insertionSort fun a b =>
    sequence a < sequence b ∨ sequence a = sequence b ∧ key a ≤ key b

/-- The nodes of a revision, `order_by("sequence", "node_id")`. -/
def revisionNodes (db : PlanDb) (revision : RevisionId) : List PlanNode :=
  orderBy (fun n => n.sequence.val) (fun n => n.nodeId.text)
    (db.nodes.rows.filter fun n => n.revision = revision)

/-- The dependencies of a revision, `order_by("dependency_id")`. -/
def revisionDependencies (db : PlanDb) (revision : RevisionId) : List PlanDependency :=
  orderBy (fun _ => 0) (fun d => d.dependencyId.text)
    (db.dependencies.rows.filter fun d => d.revision = revision)

/-- The operations of a change set, `order_by("sequence", "operation_id")`. -/
def changeSetOperations (db : PlanDb) (changeSet : String) : List PlanChangeOperation :=
  orderBy PlanChangeOperation.sequence PlanChangeOperation.operationId
    (db.operations.rows.filter fun o => o.changeSet = changeSet)

end LiveOs.Planning
