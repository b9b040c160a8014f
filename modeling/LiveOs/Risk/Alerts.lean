import LiveOs.Lib.Rollback
import LiveOs.Procurement.Model

/-!
# Risk alerts

`trigger_risk_alert`, `acknowledge_risk_alert`, `resolve_risk_alert` and `evaluate_resource_risks`
of `core/risk_services.py`. None of them opens a transaction, so what a call has written before it
raises stays written.
-/

namespace LiveOs.Risk

open Lib EventLedger Roles
open Procurement (PyDecimal Resource ResourceTable Resource.label)

variable {rt : Runtime}

/-! ## Rows -/

/-- `RiskAlert.Status`. -/
inductive AlertStatus where
  | active
  | acknowledged
  | investigating
  | resolved
  | dismissed
deriving DecidableEq

def AlertStatus.value : AlertStatus → String
  | active => "active"
  | acknowledged => "acknowledged"
  | investigating => "investigating"
  | resolved => "resolved"
  | dismissed => "dismissed"

/-- The fields of `RiskRule` that the evaluation reads. -/
structure RiskRule where
  ruleId : String
  severity : String
  visibility : String
  responsibleRole : String

structure RiskAlert where
  alertId : String
  rule : Option String
  domain : String
  severity : String
  visibility : String
  status : AlertStatus := .active
  title : String
  summary : String
  dedupeKey : String
  sourceType : String
  sourceId : String
  sourceUrl : String
  metricKey : String
  metricValue : Option PyDecimal
  thresholdValue : Option PyDecimal
  responsibleRole : String
  firstSeenAt : Nat
  lastSeenAt : Nat
  acknowledgedBy : Option Nat := none
  acknowledgedAt : Option Nat := none
  resolvedBy : Option Nat := none
  resolvedAt : Option Nat := none
  resolutionNote : String := ""
  publicNote : String := ""

abbrev RuleTable := Table RiskRule String Unit RiskRule.ruleId fun _ => none

abbrev AlertTable := Table RiskAlert String String RiskAlert.alertId fun a => some a.dedupeKey

structure RiskState (rt : Runtime) where
  rules : RuleTable
  resources : ResourceTable
  alerts : AlertTable
  events : Journal rt

/-- What one call takes from its surroundings: the clock, the random part of the id of a new alert
by the source it is about, and whether a row can be locked, which some databases only do within a
transaction of the caller. -/
structure RiskEnv where
  now : Nat
  uuid : String → String
  mayLock : Bool

/-! ## Alerts -/

/-- `_dedupe_key(domain, source_type, source_id, metric_key)`. -/
def dedupeKey (domain sourceType sourceId metricKey : String) : String :=
  domain ++ ":" ++ sourceType ++ ":" ++ sourceId ++ ":" ++ metricKey

/-- The arguments of `trigger_risk_alert`. -/
structure TriggerArgs where
  rule : Option RiskRule
  domain : String
  title : String
  summary : String
  severity : String
  visibility : String
  sourceType : String
  sourceId : String
  sourceUrl : String
  metricKey : String
  metricValue : Option PyDecimal
  thresholdValue : Option PyDecimal

/-- The object of a new alert. -/
def newAlert (env : RiskEnv) (args : TriggerArgs) : RiskAlert where
  alertId := "risk-" ++ env.uuid args.sourceId
  rule := args.rule.map RiskRule.ruleId
  domain := args.domain
  severity := orText args.severity "medium"
  visibility := orText args.visibility "public"
  title := args.title
  summary := args.summary
  dedupeKey := dedupeKey args.domain args.sourceType args.sourceId args.metricKey
  sourceType := args.sourceType
  sourceId := args.sourceId
  sourceUrl := args.sourceUrl
  metricKey := args.metricKey
  metricValue := args.metricValue
  thresholdValue := args.thresholdValue
  responsibleRole := (args.rule.map RiskRule.responsibleRole).getD ""
  firstSeenAt := env.now
  lastSeenAt := env.now

/-- The row of an alert: its decimals have two places. -/
def RiskAlert.stored (a : RiskAlert) : RiskAlert :=
  { a with
    metricValue := a.metricValue.map (PyDecimal.quantize · 2)
    thresholdValue := a.thresholdValue.map (PyDecimal.quantize · 2) }

/-- `append_event(...)` for an alert. -/
def appendAlertEvent (env : RiskEnv) (alert : RiskAlert) (eventType action summary : String)
    (actor : Option Nat) (facts : List (String × Json)) (s : RiskState rt) :
    Except Error (RiskState rt) := do
  let events ← s.events.append {
    eventType := eventType
    aggregateType := "RiskAlert"
    aggregateId := alert.alertId
    actorMember := actor
    payloadJson := publicEventPayload "risk_alert" (publicRef ["risk-alert", alert.alertId])
      alert.title action alert.status.value summary facts []
    occurredAt := some env.now
    now := env.now }
  return { s with events := events }

/-- `trigger_risk_alert(...)`. -/
def triggerRiskAlert (env : RiskEnv) (args : TriggerArgs) : EStateM Error (RiskState rt) Unit := do
  let dedupe := dedupeKey args.domain args.sourceType args.sourceId args.metricKey
  let s ← get
  match s.alerts.rows.find? fun a => a.dedupeKey = dedupe with
  | none => do
    let alert := newAlert env args
    update fun s => do
      let alerts ← s.alerts.insert alert.stored Error.integrity
      return { s with alerts := alerts }
    update (appendAlertEvent env alert "risk_alert_triggered" "triggered" args.summary none
      [("alert_id", .str alert.alertId), ("domain", .str args.domain),
        ("severity", .str alert.severity), ("title", .str args.title)])
  | some alert =>
    update fun s => .ok { s with alerts := s.alerts.modify alert.alertId (fun a => { a with
      lastSeenAt := env.now
      metricValue := args.metricValue.map (PyDecimal.quantize · 2) }) (fun _ => rfl) fun _ => rfl }

/-- `RiskAlert.objects.select_for_update().get(pk=alert.pk)`. -/
def lockAlert (env : RiskEnv) (s : RiskState rt) (alertId : String) : Except Error RiskAlert := do
  rejectIf (!env.mayLock)
    (.runtime "select_for_update cannot be used outside of a transaction.")
  related s.alerts alertId "RiskAlert"

/-- `acknowledge_risk_alert(alert, actor, note)`. -/
def acknowledgeRiskAlert (env : RiskEnv) (alertId : String) (actor : Nat) (note : String) :
    EStateM Error (RiskState rt) Unit := do
  let s ← get
  let locked ← compute (lockAlert env s alertId)
  let alert := { locked with
    status := .acknowledged
    acknowledgedBy := some actor
    acknowledgedAt := some env.now
    resolutionNote := orText note locked.resolutionNote }
  update fun s => .ok { s with alerts := s.alerts.modify alertId (fun a => { a with
    status := alert.status
    acknowledgedBy := alert.acknowledgedBy
    acknowledgedAt := alert.acknowledgedAt
    resolutionNote := alert.resolutionNote }) (fun _ => rfl) fun _ => rfl }
  update (appendAlertEvent env alert "risk_alert_acknowledged" "acknowledged"
    ("风险 " ++ alert.alertId ++ " 已确认。") (some actor) [])

/-- `resolve_risk_alert(alert, actor, note, public_note)`. -/
def resolveRiskAlert (env : RiskEnv) (alertId : String) (actor : Nat) (note publicNote : String) :
    EStateM Error (RiskState rt) Unit := do
  let s ← get
  let locked ← compute (lockAlert env s alertId)
  let alert := { locked with
    status := .resolved
    resolvedBy := some actor
    resolvedAt := some env.now
    resolutionNote := orText note locked.resolutionNote
    publicNote := orText publicNote locked.publicNote }
  update fun s => .ok { s with alerts := s.alerts.modify alertId (fun a => { a with
    status := alert.status
    resolvedBy := alert.resolvedBy
    resolvedAt := alert.resolvedAt
    resolutionNote := alert.resolutionNote
    publicNote := alert.publicNote }) (fun _ => rfl) fun _ => rfl }
  update (appendAlertEvent env alert "risk_alert_resolved" "resolved"
    ("风险 " ++ alert.alertId ++ " 已解除。") (some actor) [("public_note", .str publicNote)])

/-! ## Evaluation -/

/-- The id of the rule on low stock. -/
def lowStockRule : String := "risk-resource-low-stock"

/-- `warning_threshold__gt=0, current_stock__lte=F("warning_threshold")` on a row. -/
def isShort (r : Resource) : Bool :=
  0 < r.warningThreshold.coefficient && r.currentStock.le r.warningThreshold

/-- `resource.current_stock > resource.warning_threshold`. -/
def isAbove (r : Resource) : Bool := r.warningThreshold.lt r.currentStock

/-- The alert of a short resource. -/
def shortageArgs (rule : RiskRule) (r : Resource) : TriggerArgs where
  rule := some rule
  domain := "resource"
  title := "低库存：" ++ r.label
  summary := "当前库存 " ++ r.currentStock.text ++ " <= 预警线 " ++ r.warningThreshold.text ++ " " ++
    r.unit
  severity := rule.severity
  visibility := rule.visibility
  sourceType := "resource"
  sourceId := r.resourceId
  sourceUrl := "/resources/" ++ r.resourceId ++ "/offers/"
  metricKey := "current_stock"
  metricValue := some r.currentStock
  thresholdValue := some r.warningThreshold

/-- `status__in=[ACTIVE, ACKNOWLEDGED]`. -/
def AlertStatus.isOpen : AlertStatus → Bool
  | active | acknowledged => true
  | _ => false

/-- One turn of the loop that resolves the alerts of resources above their threshold. -/
def settleAlert (env : RiskEnv) (alert : RiskAlert) : EStateM Error (RiskState rt) Unit := do
  let s ← get
  match s.resources.get? alert.sourceId with
  | none => return ()
  | some resource =>
    if isAbove resource then
      update fun s => .ok { s with alerts := s.alerts.modify alert.alertId (fun a => { a with
        status := .resolved
        resolvedAt := some env.now
        resolutionNote := "库存已恢复正常。" }) (fun _ => rfl) fun _ => rfl }
    else return ()

/-- `evaluate_resource_risks()`. -/
def evaluateResourceRisks (env : RiskEnv) : EStateM Error (RiskState rt) Nat := do
  let s ← get
  let rule ← compute (related s.rules lowStockRule "RiskRule")
  let count ← (s.resources.rows.filter isShort).foldlM (fun count r => do
    triggerRiskAlert env (shortageArgs rule r)
    return count + 1) 0
  let s ← get
  (s.alerts.rows.filter fun a => a.rule = some rule.ruleId && a.status.isOpen).foldlM
    (fun _ alert => settleAlert env alert) ()
  return count

/-! ## Runs -/

/-- A step of a history: a service, or a change of the stock or the threshold of a resource. -/
inductive RiskCall where
  | setStock (resourceId : String) (stock : PyDecimal)
  | setThreshold (resourceId : String) (threshold : PyDecimal)
  | acknowledge (alertId : String) (actor : Nat) (note : String)
  | resolve (alertId : String) (actor : Nat) (note publicNote : String)
  | evaluate

theorem setResource_alt (f : Resource → Resource) (r : Resource) :
    (fun _ : Resource => (none : Option Unit)) (f r) = (fun _ => none) r := rfl

def setResource (resourceId : String) (f : Resource → Resource)
    (hf : ∀ r, (f r).resourceId = r.resourceId) : EStateM Error (RiskState rt) Unit :=
  update fun s => .ok { s with resources := s.resources.modify resourceId f hf (setResource_alt f) }

/-- A step in its surroundings. -/
def riskCall (c : RiskEnv × RiskCall) : EStateM Error (RiskState rt) Unit :=
  match c.2 with
  | .setStock resourceId stock =>
    setResource resourceId (fun r => { r with currentStock := stock }) fun _ => rfl
  | .setThreshold resourceId threshold =>
    setResource resourceId (fun r => { r with warningThreshold := threshold }) fun _ => rfl
  | .acknowledge alertId actor note => acknowledgeRiskAlert c.1 alertId actor note
  | .resolve alertId actor note publicNote => resolveRiskAlert c.1 alertId actor note publicNote
  | .evaluate => do
    let _ ← evaluateResourceRisks c.1
    return ()

end LiveOs.Risk
