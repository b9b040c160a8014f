import LiveOs.Observer.MemberProfiles

/-!
# Public projections of the event ledger

The rows, the detail page, the proof rows and the page of a member application of
`observer/event_context.py`, each read from the stored payload of an event.
-/

namespace LiveOs.Observer

open Lib EventLedger Roles

/-! ## The payload -/

/-- `_TRUNCATE_KEYS`. -/
def truncateKeys : List String := ["reason", "summary"]

/-- `_sanitize_value(key, value)`. -/
def sanitizeValue (key : PyKey) : PyVal → Option PyVal
  | .scalar .none => none
  | .str s =>
    let stripped := strip s
    if stripped = "" then none
    else if keyIn key truncateKeys = true ∧ 200 < stripped.toList.length then
      some (.str (String.ofList (stripped.toList.take 200) ++ "…"))
    else some (.str stripped)
  | .list _ => some (.str "[已隐藏]")
  | .dict _ => some (.str "[已隐藏]")
  | value => some value

/-- The facts that are shown: no denylisted key, and no empty value. -/
def safeFacts (facts : List (PyKey × PyVal)) : List (PyKey × PyVal) :=
  facts.filterMap fun (key, value) =>
    if keyIn key publicLedgerDenylistKeys then none
    else (sanitizeValue key value).map fun safe => (key, safe)

/-- A commitment as it is shown; an item that is no dict is left out. -/
def safeCommitment (rt : Runtime) : PyVal → Option PyVal
  | .dict es =>
    some (.dict [
      (.str "name", .str (entryText rt es "name")),
      (.str "present", .scalar (.bool
        ((PyVal.get? es "present").getD (.scalar (.bool false))).truthy)),
      (.str "reason", .str (entryText rt es "reason"))])
  | _ => none

/-- The projection of a validated payload. -/
def safeProjection (rt : Runtime) (pk : PyVal) : Except Error PyVal := do
  let subject ← dictUnder pk "subject"
  let facts ← dictUnder pk "public_facts"
  let commitments ← listUnder pk "private_commitments"
  let schema ← dictGet pk "schema" (.scalar .none)
  let action ← textOf rt pk "action"
  let stage ← textOf rt pk "stage"
  let summary ← textOf rt pk "summary"
  return .dict [
    (.str "schema", schema),
    (.str "subject", .dict [
      (.str "type", .str (entryText rt subject "type")),
      (.str "ref", .str (entryText rt subject "ref")),
      (.str "label", .str (entryText rt subject "label"))]),
    (.str "action", .str action),
    (.str "stage", .str stage),
    (.str "summary", .str summary),
    (.str "public_facts", .dict (safeFacts facts)),
    (.str "private_commitments", .list (commitments.filterMap (safeCommitment rt)))]

def legacyStatus : PyVal := .dict [(.str "legacy_status", .str "旧格式审计事件，不公开复算")]

def unsafeStatus : PyVal :=
  .dict [(.str "unsafe_status", .str "此审计记录 payload 未通过公开安全校验，不能公开展示 payload。")]

/-- `public_system_event_payload(event)`. -/
def publicSystemEventPayload (rt : Runtime) (event : SystemEvent) : Except Error PyVal := do
  let pk := payloadOf event
  if ← isV2 pk then
    if ← passesValidation rt pk then safeProjection rt pk
    else return unsafeStatus
  else return legacyStatus

/-- `_public_subject_ref(event)`. -/
def publicSubjectRef (rt : Runtime) (event : SystemEvent) : Except Error String := do
  let payload := payloadOf event
  if ← isV2 payload then
    if ← passesValidation rt payload then
      let subject ← dictGet payload "subject" (.scalar .none)
      let ref ← textOf rt (orEmptyDict subject) "ref"
      return strip ref
    else return ""
  else return ""

/-! ## Rows and the detail page -/

/-- `_actor_label(event)`. -/
def actorLabel (db : ObserverDb) (event : SystemEvent) : String :=
  match actorMember db event with
  | none => ""
  | some member => publicMemberLabel member.displayName member.memberNo

/-- A row of the public event list. -/
structure SystemEventRow where
  seq : Nat
  eventType : String
  eventTypeDisplay : String
  aggregateType : String
  subjectRef : String
  actorLabel : String
  occurredAt : Nat
  eventHashShort : String
  detailUrl : String
  detailName : String

/-- `public_system_event_row(event)`. -/
def publicSystemEventRow (rt : Runtime) (db : ObserverDb) (event : SystemEvent) :
    Except Error SystemEventRow := do
  let ref ← publicSubjectRef rt event
  return {
    seq := event.seq
    eventType := event.eventType
    eventTypeDisplay := eventTypeDisplay event
    aggregateType := event.aggregateType
    subjectRef := ref
    actorLabel := actorLabel db event
    occurredAt := event.occurredAt
    eventHashShort := shortHash event.eventHash
    detailUrl := "/event-ledger/" ++ toString event.seq ++ "/"
    detailName := "observer-event-ledger-detail" }

/-- The detail page of an event. -/
structure SystemEventDetail where
  seq : Nat
  eventType : String
  eventTypeDisplay : String
  aggregateType : String
  subjectRef : String
  actorLabel : String
  occurredAt : Nat
  payloadHash : String
  prevHash : String
  eventHash : String
  payloadPublic : PyVal
  chain : ChainCheck

/-- `public_system_event_detail(event)`. -/
def publicSystemEventDetail (rt : Runtime) (db : ObserverDb) (event : SystemEvent) :
    Except Error SystemEventDetail := do
  let chain ← systemEventChainCheck rt db.events event
  let ref ← publicSubjectRef rt event
  let payloadPublic ← publicSystemEventPayload rt event
  return {
    seq := event.seq
    eventType := event.eventType
    eventTypeDisplay := eventTypeDisplay event
    aggregateType := event.aggregateType
    subjectRef := ref
    actorLabel := actorLabel db event
    occurredAt := event.occurredAt
    payloadHash := event.payloadHash
    prevHash := event.prevHash
    eventHash := event.eventHash
    payloadPublic := payloadPublic
    chain := chain }

/-! ## Audit proofs -/

/-- `canonical_json(value)`. -/
def canonicalJson (value : PyVal) : Except Error String :=
  match canonicalText value with
  | some text => .ok text
  | none => .error .type

/-- What a browser recomputes the event hash from. -/
structure AuditInput where
  subjectRef : String
  eventHashInput : PyVal
  canonical : String

def AuditInput.hidden : AuditInput := ⟨"", .dict [], ""⟩

/-- The lines that fill the input of a payload that passed. -/
def auditInput (rt : Runtime) (item : SystemEvent) : Except Error AuditInput := do
  let ref ← subjectRef rt (payloadOf item) item.aggregateId
  let input := eventHashPayloadV2 item.seq item.eventType item.aggregateType ref item.payloadHash
    item.prevHash
  let canonical ← canonicalJson input
  return ⟨ref, input, canonical⟩

/-- The audit proof of one event. -/
structure ProofRow where
  payloadHash : String
  prevHash : String
  eventHash : String
  eventHashShort : String
  chain : ChainCheck
  audit : AuditInput
  payloadPublicDisplay : PyVal
  payloadPublic : PyVal
  payloadCanonicalJson : String
  payloadJsonScriptId : String
  eventHashInputJsonScriptId : String
  canBrowserVerify : Bool
  legacyNote : String
  isNewSchema : Bool

def unsafeNote : String := "此审计记录 payload 未通过公开安全校验，不能在浏览器端复算。"

def legacyNote : String := "旧格式事件，hash 不可在浏览器端完整复算。"

/-- What both kinds of proof row do before the input: the display of the payload, whether the
payload may be shown whole, and the note on it. -/
def proofDisplay (rt : Runtime) (item : SystemEvent) (isNewSchema : Bool) :
    Except Error (PyVal × Bool × String) := do
  if isNewSchema then
    let display ← publicSystemEventPayload rt item
    if ← passesValidation rt (payloadOf item) then return (display, true, "")
    else return (display, false, unsafeNote)
  else return (legacyStatus, false, legacyNote)

/-- `_make_single_proof_row(se)`. -/
def makeSingleProofRow (rt : Runtime) (t : EventTable) (se : SystemEvent) :
    Except Error ProofRow := do
  let pk := payloadOf se
  let chain ← systemEventChainCheck rt t se
  let isNewSchema ← isV2 pk
  let (display, passes, note) ← proofDisplay rt se isNewSchema
  let payloadCanonical ← if passes then canonicalJson pk else pure ""
  -- an input that cannot be built takes the payload back too
  let (canBrowserVerify, audit) := match passes, auditInput rt se with
    | true, .ok audit => (true, audit)
    | _, _ => (false, AuditInput.hidden)
  return {
    payloadHash := se.payloadHash
    prevHash := se.prevHash
    eventHash := se.eventHash
    eventHashShort := shortHash se.eventHash
    chain := chain
    audit := audit
    payloadPublicDisplay := display
    payloadPublic := if canBrowserVerify then pk else .dict []
    payloadCanonicalJson := if canBrowserVerify then payloadCanonical else ""
    payloadJsonScriptId := "audit-payload-json-" ++ toString se.seq
    eventHashInputJsonScriptId := "audit-input-json-" ++ toString se.seq
    canBrowserVerify := canBrowserVerify
    legacyNote := note
    isNewSchema := isNewSchema }

/-- A proof row of a public event. -/
structure EventProofRow where
  seq : Nat
  eventTypeDisplay : String
  occurredAt : Nat
  aggregateType : String
  proof : ProofRow

/-- The body of the loop of `public_system_event_proof_rows_for_event`. -/
def eventProofRow (rt : Runtime) (t : EventTable) (item : SystemEvent) :
    Except Error EventProofRow := do
  let pk := payloadOf item
  let isNewSchema ← isV2 pk
  let chain ← systemEventChainCheck rt t item
  let (display, canBrowserVerify, note) ← proofDisplay rt item isNewSchema
  let payloadCanonical ← if canBrowserVerify then canonicalJson pk else pure ""
  -- here an input that cannot be built leaves the payload in place
  let audit := match canBrowserVerify, auditInput rt item with
    | true, .ok audit => audit
    | _, _ => AuditInput.hidden
  return {
    seq := item.seq
    eventTypeDisplay := eventTypeDisplay item
    occurredAt := item.occurredAt
    aggregateType := item.aggregateType
    proof := {
      payloadHash := item.payloadHash
      prevHash := item.prevHash
      eventHash := item.eventHash
      eventHashShort := shortHash item.eventHash
      chain := chain
      audit := audit
      payloadPublicDisplay := display
      payloadPublic := if canBrowserVerify then pk else .dict []
      payloadCanonicalJson := payloadCanonical
      payloadJsonScriptId := "audit-payload-json-" ++ toString item.seq
      eventHashInputJsonScriptId := "audit-event-hash-input-json-" ++ toString item.seq
      canBrowserVerify := canBrowserVerify
      legacyNote := note
      isNewSchema := isNewSchema } }

/-- A public row of `Event`, as far as its audit trail is found from it. -/
structure AuditedEvent where
  payload : Json
  relatedTask : Option String
  relatedFeedbackId : String

/-- `str(payload.get(key) or other or "").strip()`. -/
def idUnder (rt : Runtime) (payload : PyVal) (key other : String) : Except Error String := do
  let value ← dictGet payload key (.scalar .none)
  return strip (if value.truthy then rt.str value else other)

/-- `if value: query |= ...`. -/
def lookupsFor (value : String) (lookups : List Lookup) : List Lookup :=
  if value = "" then [] else lookups

/-- `_system_event_filter_for_public_event(event)`. -/
def systemEventFilterForPublicEvent (rt : Runtime) (event : AuditedEvent) :
    Except Error (List Lookup) := do
  let payload := orEmptyDict event.payload.toPy
  let applicationId ← idUnder rt payload "application_id" ""
  let taskId ← idUnder rt payload "task_id" (event.relatedTask.getD "")
  let resourceId ← idUnder rt payload "resource_id" ""
  let feedbackId ← idUnder rt payload "feedback_id" event.relatedFeedbackId
  let claimId ← idUnder rt payload "claim_id" ""
  let transactionId ← idUnder rt payload "transaction_id" ""
  return lookupsFor applicationId [
      .aggregate "MemberApplication" applicationId,
      .path ["public_facts", "application_id"] applicationId,
      .path ["application_id"] applicationId] ++
    lookupsFor taskId [.aggregate "Task" taskId] ++
    lookupsFor resourceId [.aggregate "Resource" resourceId] ++
    lookupsFor feedbackId [.aggregate "EventFeedback" feedbackId] ++
    lookupsFor claimId [
      .aggregate "ExpenseClaim" claimId,
      .path ["public_facts", "claim_id"] claimId] ++
    lookupsFor transactionId [
      .aggregate "FinanceTransaction" transactionId,
      .path ["public_facts", "transaction_id"] transactionId]

/-- `public_system_event_proof_rows_for_event(event, limit=...)`. -/
def publicSystemEventProofRowsForEvent (rt : Runtime) (t : EventTable) (event : AuditedEvent)
    (limit : Nat) : Except Error (List EventProofRow) := do
  let query ← systemEventFilterForPublicEvent rt event
  if query.isEmpty then return []
  ((selectEvents t query).take limit).mapM (eventProofRow rt t)

/-! ## The page of a member application -/

/-- `_TL_TITLES`. -/
def timelineTitles : List (String × String) := [
  ("member_application_submitted", "收到成员报名"), ("member_application_reviewed", "报名审查完成"),
  ("member_created", "成员账号已创建"), ("role_assigned", "守约者角色已授予"),
  ("approval_proposal_submitted", "准入提案已建立"), ("proposal_voting_started", "准入表决已开始"),
  ("proposal_ballot_cast", "实名票据已提交"), ("approval_proposal_approved", "准入提案已通过"),
  ("approval_proposal_rejected", "准入提案未通过"), ("proposal_expired", "准入提案已过期"),
  ("approval_proposal_executed", "守约者准入已执行"), ("proposal_execution_failed", "准入执行失败")]

/-- What `_timeline_node_from_system_event` returns. -/
structure TimelineNode where
  seq : Nat
  occurredAt : Nat
  eventType : String
  eventTypeDisplay : String
  title : String
  summary : String
  actorDisplay : String
  voteChoiceLabel : String
  voteReason : String
  aggregateType : String
  actorMemberNo : String
  actorAvatarUrl : String
  actorProfilePublicName : String
deriving DecidableEq

/-- The label of the member who acted, for an event that names no voter. -/
def timelineActor (db : ObserverDb) (se : SystemEvent) : String :=
  match actorMember db se with
  | none => ""
  | some member => publicMemberLabel (orText member.displayName member.memberNo) member.memberNo

/-- The summary of an event that has none. -/
def defaultSummary (se : SystemEvent) : String :=
  "系统事件 #" ++ toString se.seq ++ "（" ++ eventTypeDisplay se ++ "）"

/-- `_timeline_node_from_system_event(se)`. -/
def timelineNodeFromSystemEvent (rt : Runtime) (db : ObserverDb) (se : SystemEvent) :
    Except Error TimelineNode := do
  let pk := payloadOf se
  let facts ← dictUnder pk "public_facts"
  let summary ← textOf rt pk "summary"
  let identity := (actorMember db se).map (publicMemberIdentity db)
  return {
    seq := se.seq
    occurredAt := se.occurredAt
    eventType := se.eventType
    eventTypeDisplay := eventTypeDisplay se
    title := labelOf timelineTitles se.eventType (eventTypeDisplay se)
    summary := orText summary (defaultSummary se)
    actorDisplay := orText (entryText rt facts "voter_public_name") (timelineActor db se)
    voteChoiceLabel := entryText rt facts "vote_choice_label"
    voteReason := entryText rt facts "reason"
    aggregateType := se.aggregateType
    actorMemberNo := (identity.map MemberIdentity.memberNo).getD ""
    actorAvatarUrl := (identity.map MemberIdentity.avatarUrl).getD ""
    actorProfilePublicName := (identity.map MemberIdentity.publicName).getD "" }

/-- An item of the timeline: the node and the audit proof in it. -/
structure TimelineItem where
  node : TimelineNode
  proof : ProofRow

/-- The body of the loop of `_build_timeline_items`. -/
def timelineItem (rt : Runtime) (db : ObserverDb) (se : SystemEvent) :
    Except Error TimelineItem := do
  let row ← makeSingleProofRow rt db.events se
  let node ← timelineNodeFromSystemEvent rt db se
  return ⟨node, row⟩

/-- `_build_timeline_items(system_events)`. -/
def buildTimelineItems (rt : Runtime) (db : ObserverDb) (systemEvents : List SystemEvent) :
    Except Error (List TimelineItem) :=
  (distinctSeq [] systemEvents).mapM (timelineItem rt db)

/-- The query of the page. -/
def applicationQuery (applicationId : String) : List Lookup := [
  .aggregate "MemberApplication" applicationId,
  .path ["public_facts", "application_id"] applicationId,
  .path ["application_id"] applicationId]

/-- The events of the page. -/
def applicationEvents (t : EventTable) (applicationId : String) : List SystemEvent :=
  distinctSeq [] (selectEvents t (applicationQuery applicationId))

/-- The loop that looks for the header: the last event whose facts name the application. A payload
it settles on is not empty, so `not latest_payload` says that there was none. -/
def latestStated (applicationId : String) (latest : Option SystemEvent) :
    List SystemEvent → Except Error (Option SystemEvent)
  | [] => .ok latest
  | se :: events => do
    let facts ← dictGet (payloadOf se) "public_facts" (.dict [])
    let stated ← dictGet facts "application_id" (.scalar .none)
    latestStated applicationId (if stated.isStr applicationId then some se else latest) events

/-- The event the header is taken from. -/
def headerEvent (t : EventTable) (applicationId : String) : Except Error (Option SystemEvent) := do
  let ordered := applicationEvents t applicationId
  match ← latestStated applicationId none ordered with
  | some se => return some se
  | none => return ordered.getLast?

/-- `a or b`. -/
def pyOr (a b : PyVal) : PyVal := if a.truthy then a else b

/-- `(payload.get("public_facts") or {}).get(fact) or payload.get(key, "") or ...` over the given
keys. -/
def headerValue (payload : PyVal) (fact : String) (keys : List String) : Except Error PyVal := do
  let facts ← dictGet payload "public_facts" (.scalar .none)
  let value ← dictGet (orEmptyDict facts) fact (.scalar .none)
  keys.foldlM (fun v key => do return pyOr v (← dictGet payload key (.str ""))) value

/-- `_status_display_short(stage)`. -/
def statusDisplayShort (stage : String) : String :=
  labelOf [("submitted", "表决中"), ("voting", "表决中"), ("admitted", "已通过"),
    ("rejected", "未通过")] stage (orText stage "未知")

/-- The badge of a stage. -/
def statusBadge (stage : String) : String :=
  labelOf [("submitted", "badge-info"), ("admitted", "badge-success"),
    ("rejected", "badge-error")] stage "badge-ghost"

/-- The page of a member application. -/
structure MemberApplicationDetail where
  applicationId : String
  currentStatus : String
  statusBadge : String
  applicantLabel : String
  roleLabel : String
  proposalNo : String
  timelineItems : List TimelineItem

/-- `public_member_application_detail(application_id)`. -/
def publicMemberApplicationDetail (rt : Runtime) (db : ObserverDb) (applicationId : String) :
    Except Error (Option MemberApplicationDetail) := do
  match ← headerEvent db.events applicationId with
  | none => return none
  | some header =>
    let latestPayload := payloadOf header
    let stage ← headerValue latestPayload "stage" ["stage"]
    let items ← buildTimelineItems rt db (applicationEvents db.events applicationId)
    let applicant ← headerValue latestPayload "public_applicant_label"
      ["public_applicant_label", "public_member_label"]
    let role ← headerValue latestPayload "role_gap_label" ["role_gap_label", "role_gap"]
    let proposalNo ← headerValue latestPayload "proposal_no" ["proposal_no"]
    let currentStage := rt.str stage
    return some {
      applicationId := applicationId
      currentStatus := statusDisplayShort currentStage
      statusBadge := statusBadge currentStage
      applicantLabel := rt.str (pyOr applicant (.str "未公开"))
      roleLabel := rt.str (pyOr role (.str "未公开"))
      proposalNo := rt.str (pyOr proposalNo (.str "未关联"))
      timelineItems := items }

end LiveOs.Observer
