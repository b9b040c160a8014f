import LiveOs.Roles.Queries
import LiveOs.Runtime

/-!
# Selectors of electorate rules

The validation and evaluation of a selector configuration in `core/electorate_rule_services.py`, on
the JSON document the rule version stores, with the local authorization backend.
-/

namespace LiveOs.Electorate

open Lib Roles

/-! ## Validation -/

/-- `SUPPORTED_PARTICIPATION_STATUSES`. -/
def supportedParticipationStatuses : List String := ["contributor"]

/-- `MAX_SELECTOR_DEPTH`. -/
def maxSelectorDepth : Nat := 8

/-- `ProfessionalDomain.objects.filter(code=code, status=ACTIVE).exists()` -/
def isActiveDomain (db : Directory) (code : String) : Bool :=
  db.domains.rows.any fun d => d.code = code && d.status = .active

/-- The checks on a condition that has no children. -/
def validateLeaf (db : Directory) (key : String) (value : Json) : Except Error Unit :=
  if key = "role_code" then
    match value with
    | .str code => rejectIf (roleDefinitionForCode code).isNone
        (.domain "选民规则引用了未知规范角色代码。")
    | _ => .error (.domain "选民规则引用了未知规范角色代码。")
  else if key = "participation_status" then
    match value with
    | .str status => rejectIf (!supportedParticipationStatuses.contains status)
        (.domain "选民规则引用了未知派生参与状态。")
    | .scalar _ => .error (.domain "选民规则引用了未知派生参与状态。")
    | _ => .error .type
  else if key = "professional_domain" then
    match value with
    | .str code => rejectIf (!isActiveDomain db code)
        (.domain "选民规则引用了未知或已归档的专业领域。")
    | _ => .error (.domain "选民规则引用了未知或已归档的专业领域。")
  else .error (.domain "选民规则包含不受支持的条件类型。")

/-- `_validate_selector_node(node, depth=depth)`. -/
def validateSelectorNode (db : Directory) (depth : Nat) : Json → Except Error Unit
  | .obj [(key, value)] => do
    rejectIf (maxSelectorDepth < depth) (.domain "选民规则嵌套层级过深。")
    if key = "all" || key = "any" then
      match value with
      | .arr (x :: xs) => children (depth + 1) (x :: xs)
      | _ => .error (.domain (key ++ " 条件必须包含至少一个子条件。"))
    else if key = "not" then validateSelectorNode db (depth + 1) value
    else validateLeaf db key value
  | _ => do
    rejectIf (maxSelectorDepth < depth) (.domain "选民规则嵌套层级过深。")
    .error (.domain "每个选民选择器必须是只含一种条件的对象。")
where
  children (depth : Nat) : List Json → Except Error Unit
    | [] => .ok ()
    | x :: xs => do
      validateSelectorNode db depth x
      children depth xs

/-! ## Evaluation -/

/-- `AuthorizationService().member_has_platform_role(member, role_code, at_time=...)` of the local
backend. -/
def memberHasPlatformRole (db : Directory) (now : Nat) (m : Member) (roleCode : String)
    (atTime : Option Nat) : Bool :=
  match roleDefinitionForCode roleCode with
  | none => false
  | some definition => (activeMemberRoleNames db now m atTime).contains definition.displayName

/-- `_active_professional_domain_codes(member, checked_at=...)`. -/
def activeProfessionalDomainCodes (db : Directory) (m : Member) (checkedAt : Nat) : List String :=
  (db.qualifications.rows.filter fun q => q.member = m.pk && q.status = .active &&
    q.validFrom ≤ checkedAt && q.openAt checkedAt).filterMap fun q =>
      (db.domains.get? q.domain).map ProfessionalDomain.code

/-- The match of a condition that has no children. -/
def matchLeaf (db : Directory) (now : Nat) (m : Member) (checkedAt : Nat) (key : String)
    (value : Json) : Except Error Bool :=
  if key = "role_code" then
    match value with
    | .str code => .ok ((roleDefinitionForCode code).isSome &&
        memberHasPlatformRole db now m code (some checkedAt))
    | _ => .ok false
  else if key = "participation_status" then
    match participationStatus db now m (some checkedAt), value with
    | some status, .str s => .ok (status = s)
    | none, .scalar s => .ok (s = .none)
    | _, _ => .ok false
  else if key = "professional_domain" then
    match value with
    | .str code => .ok ((activeProfessionalDomainCodes db m checkedAt).contains code)
    | .scalar _ => .ok false
    | _ => .error .type
  else .error (.domain "选民规则包含无法评估的条件。")

/-- The entry of a condition in the evidence. -/
def leafEvidence (key : String) (value : Json) (matched : Bool) : Json :=
  .obj [("condition", .str key), ("value", value), ("matched", .scalar (.bool matched))]

/-- `_evaluate_selector_node(node, ...)`, with the evidence collected so far. -/
def evaluateSelectorNode (db : Directory) (now : Nat) (m : Member) (checkedAt : Nat)
    (evidence : List Json) : Json → Except Error (Bool × List Json)
  | .obj ((key, value) :: _) =>
    if key = "all" then
      match value with
      | .arr xs => allOf evidence xs
      | .str s => if s = "" then .ok (true, evidence) else .error .attribute
      | .obj es => if es.isEmpty then .ok (true, evidence) else .error .attribute
      | .scalar _ => .error .type
    else if key = "any" then
      match value with
      | .arr xs => anyOf evidence xs
      | .str s => if s = "" then .ok (false, evidence) else .error .attribute
      | .obj es => if es.isEmpty then .ok (false, evidence) else .error .attribute
      | .scalar _ => .error .type
    else if key = "not" then do
      let (matched, evidence) ← evaluateSelectorNode db now m checkedAt evidence value
      return (!matched, evidence)
    else do
      let matched ← matchLeaf db now m checkedAt key value
      return (matched, evidence ++ [leafEvidence key value matched])
  | .obj [] => .error (.runtime "StopIteration")
  | _ => .error .attribute
where
  allOf (evidence : List Json) : List Json → Except Error (Bool × List Json)
    | [] => .ok (true, evidence)
    | x :: xs => do
      let (matched, evidence) ← evaluateSelectorNode db now m checkedAt evidence x
      if matched then allOf evidence xs else return (false, evidence)
  anyOf (evidence : List Json) : List Json → Except Error (Bool × List Json)
    | [] => .ok (false, evidence)
    | x :: xs => do
      let (matched, evidence) ← evaluateSelectorNode db now m checkedAt evidence x
      if matched then return (true, evidence) else anyOf evidence xs

/-! ## Rules -/

structure ElectorateEligibility where
  allowed : Bool
  reasonCode : String
  message : String
  evidence : Json

/-- `evaluate_rule_for_member(...)` for the selector configuration of a rule version. -/
def evaluateRuleForMember (db : Directory) (now : Nat) (selectorConfig : Json) (m : Member)
    (checkedAt : Option Nat) (excludedMemberId : Option Nat) :
    Except Error ElectorateEligibility :=
  let moment := checkedAt.getD now
  if excludedMemberId = some m.pk then
    .ok ⟨false, "excluded_source_actor", "申请人不能参与自己的准入决定。", .obj []⟩
  else if !memberAllowsRoleFacts m then
    .ok ⟨false, "member_inactive", "当前成员或登录账号不可参与。", .obj []⟩
  else do
    validateSelectorNode db 0 selectorConfig
    let (allowed, evidence) ← evaluateSelectorNode db now m moment [] selectorConfig
    if !allowed then
      return ⟨false, "rule_not_satisfied", "你当前不满足该提案的选民规则。",
        .obj [("conditions", .arr evidence)]⟩
    return ⟨true, "eligible", "你属于本提案冻结的选民范围，并且当前资格有效。",
      .obj [("conditions", .arr evidence)]⟩

end LiveOs.Electorate
