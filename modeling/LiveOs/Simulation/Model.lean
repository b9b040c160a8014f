import LiveOs.Planning.Model

/-!
# Simulation runs

The rows of `core/models/simulation_runs.py` and of the proposals of
`core/models/simulation_feedback.py`, with the reading of decimals of
`simulation/world_snapshot.py` and the ids of `simulation/ids.py`. A run is created by the engine
only, so the metadata of a run has the keys that `create_simulation_run` gives it.
-/

namespace LiveOs.Simulation

open Lib Planning
open Procurement (PyDecimal)

/-! ## Decimals -/

/-- A `Decimal`; the digits that a NaN may carry are left out. -/
inductive Decimal where
  | finite (d : PyDecimal)
  | infinity (negative : Bool)
  | nan (signaling : Bool)
deriving DecidableEq

namespace Decimal

/-- The value of a name that is no number. -/
def named (py : Python) (text : String) : Decimal :=
  let (negative, cs) := readSign (((strip text).toList.filter (· ≠ '_')).map py.digits.toAscii)
  match cs.map Char.toLower with
  | 'i' :: _ => .infinity negative
  | 's' :: _ => .nan true
  | _ => .nan false

/-- `Decimal(text)`. -/
def ofText (py : Python) (text : String) : Option Decimal :=
  (decimalOfText py.digits text).map fun d =>
    match d with
    | .finite c e => .finite ⟨c, e⟩
    | .nonFinite => named py text

/-- `str(d)`. -/
def text : Decimal → String
  | .finite d => d.text
  | .infinity negative => if negative then "-Infinity" else "Infinity"
  | .nan signaling => if signaling then "sNaN" else "NaN"

/-- `d + b`. -/
def plus (d : Decimal) (b : PyDecimal) : Except PyError Decimal :=
  match d with
  | .finite a => .ok (.finite (a.add b))
  | .nan true => .error .invalidOperation
  | other => .ok other

/-- `d - b`. -/
def minus (d : Decimal) (b : PyDecimal) : Except PyError Decimal :=
  d.plus ⟨-b.coefficient, b.exponent⟩

/-- The order of `d` and `b`; a NaN has none. -/
def order (d : Decimal) (b : PyDecimal) : Except PyError Ordering :=
  match d with
  | .finite a => .ok (if a.lt b then .lt else if b.lt a then .gt else .eq)
  | .infinity negative => .ok (if negative then .lt else .gt)
  | .nan _ => .error .invalidOperation

end Decimal

/-- `decimal_from_metadata(value, default="0")` of a text. -/
def decimalFromText (py : Python) (text : String) : Decimal :=
  (Decimal.ofText py text).getD (.finite .zero)

/-- `decimal_from_metadata(value, default="0")`. -/
def decimalFromMetadata (py : Python) (value : Json) : Decimal := decimalFromText py (py.str value)

/-! ## Runs -/

/-- `SimulationRun.Status`. -/
inductive RunStatus where
  | draft
  | running
  | failed
  | completed
  | paused
  | aborted
deriving DecidableEq

/-- The metadata of a run. -/
structure RunMetadata where
  initialBudget : String
  remainingBudget : String
  spentBudget : String
  availablePeople : Nat
  availableSkills : List String
  averageFatigue : String

structure SimulationRun where
  runId : String
  planRevision : RevisionId
  status : RunStatus
  currentDay : PositiveInt
  maxTurns : PositiveInt
  startedAt : Nat
  endedAt : Option Nat
  failureSummary : String
  metadata : RunMetadata

/-- `PlanNodeRunState.Status`. -/
inductive StateStatus where
  | pending
  | running
  | blocked
  | failed
  | completed
  | skipped
deriving DecidableEq

structure PlanNodeRunState where
  stateId : String
  run : String
  planNode : NodeId
  status : StateStatus
  startedDay : Option PositiveInt
  completedDay : Option PositiveInt
  progressPercent : DecimalColumn 5 2
  actualCost : DecimalColumn 14 2
  actualPersonDays : DecimalColumn 10 2
  blockerReason : String
  metadata : List (String × Json)

structure SimulationTurn where
  turnId : String
  run : String
  turnNumber : PositiveInt
  simulationDay : PositiveInt
  summary : String
  occurredAt : Nat
  metadata : List (String × Json)

/-- The fields of an observer `Event` that a run gives it. -/
structure SimulationEvent where
  eventId : String
  eventType : String
  simulationDay : PositiveInt
  run : String
  severity : String
  title : VarChar 255
  summary : String
  occurredAt : Nat
  payload : List (String × Json)

/-- `SimulationFailure.FailureType`, as far as the engine raises it. -/
inductive FailureType where
  | budgetUnrealistic
  | laborShortage
  | skillShortage
  | resourceShortage
  | dependencyUnmet
  | personnelIssue
  | responsibilityClosureMissing
deriving DecidableEq

def FailureType.value : FailureType → String
  | budgetUnrealistic => "budget_unrealistic"
  | laborShortage => "labor_shortage"
  | skillShortage => "skill_shortage"
  | resourceShortage => "resource_shortage"
  | dependencyUnmet => "dependency_unmet"
  | personnelIssue => "personnel_issue"
  | responsibilityClosureMissing => "responsibility_closure_missing"

structure SimulationFailure where
  failureId : String
  run : String
  planNode : NodeId
  failureType : FailureType
  title : VarChar 255
  description : String
  simulationDay : PositiveInt
  detectedAt : Nat
  metadata : List (String × Json)

/-- `PlanRevisionProposal.ProposalType`, as far as the engine proposes it. -/
inductive ProposalType where
  | adjustBudget
  | adjustDuration
  | addDependency
  | reduceAdmission
  | addRequirement
deriving DecidableEq

def ProposalType.value : ProposalType → String
  | adjustBudget => "adjust_budget"
  | adjustDuration => "adjust_duration"
  | addDependency => "add_dependency"
  | reduceAdmission => "reduce_admission"
  | addRequirement => "add_requirement"

structure PlanRevisionProposal where
  proposalId : String
  run : String
  sourceFailure : String
  planRevision : RevisionId
  planNode : NodeId
  proposalType : ProposalType
  title : VarChar 255
  rationale : String
  suggestedChanges : List (String × Json)
  createdAt : Nat

/-! ## The database -/

abbrev RunTable := Table SimulationRun String Unit SimulationRun.runId fun _ => none

abbrev StateTable := Table PlanNodeRunState String (String × NodeId) PlanNodeRunState.stateId
  fun s => some (s.run, s.planNode)

abbrev TurnTable := Table SimulationTurn String (String × PositiveInt) SimulationTurn.turnId
  fun t => some (t.run, t.turnNumber)

abbrev EventTable := Table SimulationEvent String Unit SimulationEvent.eventId fun _ => none

abbrev FailureTable := Table SimulationFailure String Unit SimulationFailure.failureId fun _ => none

abbrev ProposalTable := Table PlanRevisionProposal String Unit PlanRevisionProposal.proposalId
  fun _ => none

structure SimDb where
  plan : PlanDb
  runs : RunTable
  states : StateTable
  turns : TurnTable
  events : EventTable
  failures : FailureTable
  proposals : ProposalTable

/-- How a call ends without a result. -/
inductive Halt where
  | raised (e : PyError)
  /-- The call never returns, and its transaction is never committed. -/
  | loops
deriving DecidableEq

/-- A service on the simulation tables. -/
abbrev SimM := EStateM Halt SimDb

/-- A step that only computes. -/
def attempt {α : Type} (x : Except PyError α) : SimM α := compute (x.mapError .raised)

/-! ## What a call takes from outside -/

/-- The language as the engine uses it: `s.lower()` besides what the planning services use. -/
structure Language where
  py : Python
  lower : String → String

/-- The rows of `core_resource` by type and current stock. -/
abbrev Resources := List (String × DecimalColumn 14 3)

/-- `aggregate(total=Sum("current_stock"))["total"] or Decimal("0")` over the resources of a type. -/
def availableStock (resources : Resources) (resourceType : String) : PyDecimal :=
  let total := ((resources.filter fun r => r.1 = resourceType).map fun r => r.2.coefficient).sum
  if total = 0 then .zero else ⟨total, -3⟩

/-- `simulation_available_budget()`. -/
def simulationAvailableBudget (resources : Resources) : PyDecimal :=
  availableStock resources "cash"

/-- What `create_simulation_run` reads of the members and of the latest capacity assessment. -/
structure WorldSnapshot where
  resources : Resources
  startDay : PositiveInt
  availablePeople : Nat
  availableSkills : List String
  averageFatigue : String

/-- The texts that `uuid4` yields in one call. -/
structure Draws where
  run : List String
  state : NodeId → List String
  turn : List String
  event : List String
  failure : List String
  proposal : List String
  changeSet : List String
  operation : Nat → List String

/-- The ids of `simulation/ids.py`: the first of five draws that is free. -/
def generateId (head : String) (draws : List String) (taken : String → Bool) (message : String) :
    Except PyError String :=
  match ((draws.take 5).map (head ++ ·)).find? fun id => !taken id with
  | some id => .ok id
  | none => .error (.domain message)

end LiveOs.Simulation
