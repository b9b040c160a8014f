import LiveOs.Simulation.Feasibility

/-!
# Feasibility of a node in a stored run

`feasibility_failure_for_node` of `simulation/feasibility.py` on a run as the database may hold it,
with any JSON value as its metadata. The checks of the resources and of the responsibility closures
read the node alone and are those of every run.
-/

namespace LiveOs.Simulation

open Lib Planning
open Procurement (PyDecimal)

variable (lang : Language)

/-- A run with its metadata as they are stored. -/
structure StoredRun where
  runId : String
  metadata : Json

/-- `run.metadata.get(key)`. -/
def StoredRun.get (run : StoredRun) (key : String) : Except PyError Json :=
  match run.metadata with
  | .obj entries => .ok (getKey entries key)
  | _ => .error .attribute

/-- `int(run.metadata.get("available_people") or 0)`. -/
def StoredRun.availablePeople (run : StoredRun) : Except PyError Int := do
  intOf lang.py (orElse (← run.get "available_people") (.scalar (.int 0)))

/-- `decimal_from_metadata(run.metadata.get(key), default="0")`. -/
def StoredRun.decimal (run : StoredRun) (key : String) : Except PyError Decimal := do
  return decimalFromMetadata lang.py (← run.get key)

/-- `unmet_dependency_titles(run=run, node=node)`. -/
def unmetTitles (db : SimDb) (run : StoredRun) (node : PlanNode) : List String :=
  ((dependenciesOf db node).filter fun d => isUnmet db run.runId d.1.dependsOn).map fun d =>
    nodeLabel d.2

/-- The check of the dependencies. -/
def storedDependencyFailure (db : SimDb) (run : StoredRun) (node : PlanNode) :
    Option FailureData :=
  match unmetTitles db run node with
  | [] => none
  | unmet => some {
      failureType := .dependencyUnmet
      title := nodeLabel node ++ " 前置条件未满足"
      description := "节点 " ++ node.code.text ++ " 不能启动，因为前置节点尚未完成：" ++
        join "、" unmet ++ "。"
      metadata := [("unmet_dependencies", .arr (unmet.map .str))] }

/-- The check of the people. -/
def storedLaborFailure (run : StoredRun) (node : PlanNode) :
    Except PyError (Option FailureData) := do
  let available ← run.availablePeople lang
  if available < node.requiredPeopleMin.val then
    return some {
      failureType := .laborShortage
      title := nodeLabel node ++ " 人力不足"
      description := "节点最低需要 " ++ toString node.requiredPeopleMin.val ++
        " 人，但当前可用于模拟的守约者只有 " ++ toString available ++ " 人。"
      metadata := [("required_people_min", .scalar (.int node.requiredPeopleMin.val)),
        ("available_people", .scalar (.int available))] }
  return none

/-- The check of the fatigue. -/
def storedPersonnelFailure (run : StoredRun) (node : PlanNode) :
    Except PyError (Option FailureData) := do
  let available ← run.availablePeople lang
  let fatigue ← run.decimal lang "average_fatigue"
  if (← fatigue.order ⟨85, 0⟩) ≠ .lt ∧ max 1 (available / 3) ≤ node.requiredPeopleMin.val then
    return some {
      failureType := .personnelIssue
      title := nodeLabel node ++ " 人员状态不可承受"
      description := "当前平均疲劳值为 " ++ fatigue.text ++ "，继续推进该节点会显著增加退出和冲突风险。"
      metadata := [("average_fatigue", .str fatigue.text), ("threshold", .str "85")] }
  return none

/-- The check of the budget. -/
def storedBudgetFailure (run : StoredRun) (node : PlanNode) :
    Except PyError (Option FailureData) := do
  let cost := node.estimatedCostExpected.value
  let remaining ← run.decimal lang "remaining_budget"
  if (← remaining.order cost) = .lt then
    -- `cost - remaining`, which is finite or infinite here
    let shortfall := match remaining with
      | .finite r => Decimal.finite (cost.add ⟨-r.coefficient, r.exponent⟩)
      | _ => .infinity false
    return some {
      failureType := .budgetUnrealistic
      title := nodeLabel node ++ " 预算不足"
      description := "节点预计需要 " ++ cost.text ++ " 元，但本次模拟剩余预算只有 " ++ remaining.text ++
        " 元，缺口 " ++ shortfall.text ++ " 元。"
      metadata := [("estimated_cost_expected", .str cost.text),
        ("remaining_budget", .str remaining.text), ("budget_shortfall", .str shortfall.text)] }
  return none

/-! ## Skills -/

def hashable : Json → Bool
  | .scalar _ => true
  | .str _ => true
  | _ => false

/-- `set(v or [])`, by what was put into it. -/
def itemSet (v : Json) : Except PyError (List Json) := do
  let items ← iterate (orEmptyList v)
  rejectIf (items.any fun item => !hashable item) .type
  return items

/-- `set(run.metadata.get("available_skills") or [])`. -/
def StoredRun.skills (run : StoredRun) : Except PyError (List Json) := do
  itemSet (← run.get "available_skills")

/-- The members of a set, each by the first that was put into it. -/
def distinct (items : List Json) : List Json :=
  items.foldl (fun kept item =>
    if kept.any fun k => k.toPy.pyEq item.toPy then kept else kept ++ [item]) []

def isText : Json → Bool
  | .str _ => true
  | _ => false

def isNumber : Json → Bool
  | .scalar s => s.number?.isSome
  | _ => false

/-- `a <= b`, on two texts or two numbers. -/
def itemLe : Json → Json → Bool
  | .str s, .str t => s ≤ t
  | .scalar s, .scalar t =>
    match s.number?, t.number? with
    | some a, some b => !b.lt a
    | _, _ => true
  | _, _ => true

/-- `sorted(items)` of a set: two members of different kinds have no order, and neither has
`None`. -/
def sortedSet (items : List Json) : Except PyError (List Json) :=
  match distinct items with
  | [] => .ok []
  | [item] => .ok [item]
  | members =>
    if members.all isText ∨ members.all isNumber then
      .ok (members.insertionSort fun a b => itemLe a b)
    else .error .type

/-- The skills of a node that the run lacks. -/
def lackingSkills (available : List Json) (skills : List Json) : List Json :=
  skills.filter fun skill => !available.any fun item =>
    item.toPy.isStr (normalizeSkill lang skill)

/-- The check of the skills. -/
def storedSkillFailure (run : StoredRun) (node : PlanNode) :
    Except PyError (Option FailureData) := do
  let available ← run.skills
  let skills ← iterate node.requiredSkills
  match lackingSkills lang available skills with
  | [] => return none
  | missing => return some {
      failureType := .skillShortage
      title := nodeLabel node ++ " 技能缺口"
      description := "节点需要 " ++ (← joinItems ", " missing) ++ "，但当前成员技能画像中没有这些能力。"
      metadata := [("missing_skills", .arr missing),
        ("available_skills", .arr (← sortedSet available))] }

/-- `feasibility_failure_for_node(run, node)`. -/
def storedFeasibilityFailure (db : SimDb) (resources : Resources) (run : StoredRun)
    (node : PlanNode) : Except PyError (Option FailureData) :=
  firstFailure [
    .ok (storedDependencyFailure db run node),
    storedLaborFailure lang run node,
    storedPersonnelFailure lang run node,
    storedBudgetFailure lang run node,
    resourceFailure lang resources node,
    closureFailure lang node,
    storedSkillFailure lang run node]

end LiveOs.Simulation
