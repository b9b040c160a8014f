import LiveOs.EventLedger.Chain
import LiveOs.Roles.Credentials

/-!
# What the public pages read

The rows behind the pages of `observer/`, the queries over the event ledger that select their
events, and the readings of a payload that the pages share.
-/

namespace LiveOs.Observer

open Lib EventLedger Roles

/-! ## The public view of one event

The per-event chain check of `observer/event_context.py`. -/

/-- The flags of `system_event_chain_check`. -/
structure ChainCheck where
  payloadHashValid : Bool
  prevHashValid : Bool
  eventHashValid : Bool
  chainValid : Bool
  hasPrevEvent : Bool
deriving DecidableEq

/-- `SystemEvent.objects.filter(seq=event.seq - 1).first()`. -/
def previousEvent (t : EventTable) (event : SystemEvent) : Option SystemEvent :=
  t.bySeq.find? fun e => e.seq + 1 = event.seq

/-- `system_event_chain_check(event)`. The hash the event has to carry is computed by the lines that
`verify_event_chain` has too. -/
def systemEventChainCheck (rt : Runtime) (t : EventTable) (event : SystemEvent) :
    Except Error ChainCheck := do
  let payloadHash ← hashJson rt (orEmptyDict event.payloadJson.toPy)
  let prev := previousEvent t event
  let prevHashValid : Bool := match prev with
    | some e => event.prevHash = e.eventHash
    | none => event.prevHash = ""
  let expectedHash ← expectedEventHash rt event
  let payloadHashValid : Bool := payloadHash = event.payloadHash
  let eventHashValid : Bool := event.eventHash = expectedHash
  return ⟨payloadHashValid, prevHashValid, eventHashValid,
    payloadHashValid && prevHashValid && eventHashValid, prev.isSome⟩

/-! ## Rows -/

/-- A row of `MemberPublicProfile`, as far as it is shown; times are in microseconds. -/
structure ShownProfile where
  member : Nat
  publicName : String
  avatarKey : String
  avatarUpdatedAt : Option Nat

/-- The tables the pages read. -/
structure ObserverDb where
  events : EventTable
  members : MemberTable
  profiles : List ShownProfile
  grants : GrantTable
  assignments : AssignmentTable

/-- `event.actor_member`. -/
def actorMember (db : ObserverDb) (event : SystemEvent) : Option Member :=
  event.actorMember.bind db.members.get?

/-! ## Labels -/

/-- `SystemEvent.EventType.choices`. -/
def eventTypeChoices : List (String × String) := [
  ("member_created", "成员已创建"), ("member_application_submitted", "成员报名已提交"),
  ("member_application_reviewed", "成员报名已审核"), ("partner_application_submitted", "合作方报名已提交"),
  ("partner_application_reviewed", "合作方报名已审核"), ("role_created", "角色已创建"), ("role_assigned", "任命"),
  ("role_revoked", "卸任"), ("deliberator_exam_question_changed", "执衡者题库已变更"),
  ("deliberator_exam_policy_changed", "执衡者考试政策已变更"), ("credential_granted", "凭证已发放"),
  ("expense_claim_submitted", "报销申请已提交"), ("expense_claim_reviewed", "报销申请已审核"),
  ("expense_claim_paid", "报销已付款"), ("task_created", "任务已创建"), ("task_published", "任务已发布"),
  ("task_assigned", "任务已指派"), ("task_claimed", "任务已领取"), ("task_submitted", "任务已提交"),
  ("task_reviewed", "任务已验收"), ("task_closed", "任务已关闭"), ("event_feedback_submitted", "事件反馈已提交"),
  ("event_feedback_verification_started", "事件反馈已开始核实"),
  ("event_feedback_response_requested", "事件反馈已请求回应"), ("event_feedback_responded", "事件反馈已回应"),
  ("event_feedback_concluded", "事件反馈已形成结论"), ("event_feedback_closed", "事件反馈已结束"),
  ("event_feedback_withdrawn", "事件反馈已撤回"), ("resource_adjusted", "资源已调整"),
  ("supplier_offer_submitted", "供给报价已提交"), ("supplier_offer_accepted", "供给报价已采纳"),
  ("supplier_offer_rejected", "供给报价已拒绝"), ("supplier_offer_receipt_accepted", "供给报价验收通过"),
  ("supplier_offer_receipt_rejected", "供给报价验收失败"), ("supplier_offer_completed", "供给报价已完成"),
  ("approval_proposal_submitted", "审批提案已提交"), ("approval_proposal_approved", "审批提案已通过"),
  ("approval_proposal_rejected", "审批提案已拒绝"), ("approval_proposal_executed", "审批提案已执行"),
  ("approval_proposal_cancelled", "审批提案已取消"), ("electorate_rule_published", "选民规则已发布"),
  ("proposal_voting_started", "提案表决已开始"), ("proposal_ballot_cast", "提案票据已提交"),
  ("proposal_expired", "提案已过期"), ("proposal_execution_failed", "提案执行失败"),
  ("procurement_challenge_submitted", "采购质疑已提交"), ("procurement_challenge_reviewed", "采购质疑已处理"),
  ("risk_alert_triggered", "风险告警已触发"), ("risk_alert_acknowledged", "风险告警已确认"),
  ("risk_alert_resolved", "风险告警已解除"), ("risk_alert_dismissed", "风险告警已忽略"),
  ("risk_rule_updated", "风险规则已更新"), ("credit_earned", "积分获得"), ("credit_deducted", "积分扣减"),
  ("credit_adjusted", "积分调整"), ("credit_reversed", "积分冲正"), ("system_initialized", "系统初始化")]

/-- `mapping.get(key, default)` on a table of texts. -/
def labelOf (labels : List (String × String)) (key default : String) : String :=
  (labels.lookup key).getD default

/-- `event.get_event_type_display()`. -/
def eventTypeDisplay (event : SystemEvent) : String :=
  labelOf eventTypeChoices event.eventType event.eventType

/-- `_short_hash(value)`. -/
def shortHash (value : String) : String :=
  if value = "" then "" else String.ofList (value.toList.take 12) ++ "…"

/-! ## Queries over the ledger -/

/-- The JSON text at a path of keys is `value`. -/
def pathIs (value : String) : List String → Json → Bool
  | [], .str s => s = value
  | key :: keys, .obj es => (Json.get? es key).any (pathIs value keys)
  | _, _ => false

/-- One alternative of a query: an aggregate, or a text at a path of the payload. -/
inductive Lookup where
  | aggregate (aggregateType aggregateId : String)
  | path (keys : List String) (value : String)

def Lookup.holds (event : SystemEvent) : Lookup → Bool
  | .aggregate aggregateType aggregateId =>
    event.aggregateType = aggregateType && event.aggregateId = aggregateId
  | .path keys value => pathIs value keys event.payloadJson

/-- `SystemEvent.objects.filter(query).order_by("seq")` for a disjunction. -/
def selectEvents (t : EventTable) (query : List Lookup) : List SystemEvent :=
  t.bySeq.filter fun event => query.any (Lookup.holds event)

/-- The events whose number was not met before, and is none of `seen`. -/
def distinctSeq (seen : List Nat) : List SystemEvent → List SystemEvent
  | [] => []
  | event :: events =>
    if seen.contains event.seq then distinctSeq seen events
    else event :: distinctSeq (event.seq :: seen) events

/-! ## Reading a payload -/

/-- `str(d.get(key, ""))`. -/
def entryText (rt : Runtime) (es : List (PyKey × PyVal)) (key : String) : String :=
  rt.str ((PyVal.get? es key).getD (.str ""))

/-- `str(payload.get(key, ""))`. -/
def textOf (rt : Runtime) (payload : PyVal) (key : String) : Except Error String := do
  return rt.str (← dictGet payload key (.str ""))

/-- `payload.get(key) if isinstance(payload.get(key), dict) else {}`. -/
def dictUnder (payload : PyVal) (key : String) : Except Error (List (PyKey × PyVal)) := do
  match ← dictGet payload key (.scalar .none) with
  | .dict es => return es
  | _ => return []

/-- `payload.get(key) if isinstance(payload.get(key), list) else []`. -/
def listUnder (payload : PyVal) (key : String) : Except Error (List PyVal) := do
  match ← dictGet payload key (.scalar .none) with
  | .list xs => return xs
  | _ => return []

/-- The payload of an event as the pages read it: `event.payload_json or {}`. -/
def payloadOf (event : SystemEvent) : PyVal := orEmptyDict event.payloadJson.toPy

/-- `validate_public_ledger_payload(payload)` under `except ValueError`. -/
def passesValidation (rt : Runtime) (payload : PyVal) : Except Error Bool :=
  match validatePublicLedgerPayload rt payload with
  | .ok _ => .ok true
  | .error (.value _) => .ok false
  | .error e => .error e

end LiveOs.Observer
