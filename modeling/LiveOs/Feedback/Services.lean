import LiveOs.Proposals.Slots

/-!
# Event feedback

The row of `core/models/event_feedback.py` and the services of `core/event_feedback_services.py`
that write it. A transition takes a feedback object of its caller, which may be out of date, and
reads the row again under a lock; what it saves is the row it has read.
-/

namespace LiveOs.Feedback

open Lib EventLedger Roles
open Proposals (memberCanAdminister)

/-! ## Rows -/

/-- `EventFeedback.FeedbackType`, with the display of each. -/
def feedbackTypes : List (String × String) := [("correction", "纠错"), ("opinion", "意见"),
  ("complaint", "投诉"), ("report", "举报"), ("review", "复核"), ("risk", "风险")]

/-- `EventFeedback.Status`. -/
inductive FeedbackStatus where
  | submitted
  | verifying
  | awaitingResponse
  | concluded
  | closed
  | withdrawn
deriving DecidableEq

def FeedbackStatus.value : FeedbackStatus → String
  | submitted => "submitted"
  | verifying => "verifying"
  | awaitingResponse => "awaiting_response"
  | concluded => "concluded"
  | closed => "closed"
  | withdrawn => "withdrawn"

/-- The values of `EventFeedback.SubmitterVisibility`. -/
def submitterVisibilities : List String := ["public", "parties_and_handlers", "handlers_only"]

/-- The values of `EventFeedback.Conclusion`. -/
def conclusions : List String :=
  ["confirmed", "partly_confirmed", "not_confirmed", "inconclusive", "not_applicable"]

structure EventFeedback where
  feedbackId : String
  relatedEvent : String
  feedbackType : String
  status : FeedbackStatus
  submittedBy : Nat
  subjectMember : Option Nat
  statement : String
  requestedOutcome : String
  evidenceRefs : List String
  submitterVisibility : String
  privacyReason : String
  assignedHandler : Option Nat
  responseStatement : String
  respondedBy : Option Nat
  respondedAt : Option Nat
  conclusion : String
  conclusionReason : String
  resolutionEvent : Option String
  concludedBy : Option Nat
  submittedAt : Nat
  verificationStartedAt : Option Nat
  concludedAt : Option Nat
  closedAt : Option Nat
  metadata : List (String × Json)

/-- `get_feedback_type_display()`. -/
def EventFeedback.typeDisplay (f : EventFeedback) : String :=
  (feedbackTypes.lookup f.feedbackType).getD f.feedbackType

/-- What the services read of an `Event`. -/
structure PublicEvent where
  eventId : String
  visibility : String

abbrev FeedbackTable :=
  Table EventFeedback String Unit EventFeedback.feedbackId fun _ => none

structure FeedbackState (rt : Runtime) where
  feedbacks : FeedbackTable
  events : Journal rt

/-- What a call takes from its surroundings: the roles of the members, the random parts of
feedback ids, and the clock. -/
structure FeedbackEnv where
  directory : Directory
  draws : List String
  now : Nat

variable {rt : Runtime}

/-! ## Events -/

/-- `_payload(feedback, action=..., summary=...)`. -/
def feedbackPayload (f : EventFeedback) (action summary : String) : PyVal :=
  publicEventPayload "event_feedback" ("feedback:" ++ f.feedbackId) f.typeDisplay action
    f.status.value summary
    [("feedback_type", .str f.feedbackType), ("status", .str f.status.value)]
    [commitment "submitted_by" true "内部实名责任记录",
      commitment "evidence" (f.evidenceRefs ≠ []) "证据按独立隐私规则提供"]

/-- The event of a service: its type, `action` and `summary`. -/
structure FeedbackEvent where
  eventType : String
  action : String
  summary : String

/-- `_append(feedback, event_type, actor, action, summary)`. -/
def appendFeedbackEvent (env : FeedbackEnv) (events : Journal rt) (f : EventFeedback) (actor : Nat)
    (event : FeedbackEvent) : Except Error (Journal rt) :=
  events.append {
    eventType := event.eventType
    aggregateType := "EventFeedback"
    aggregateId := f.feedbackId
    actorMember := some actor
    payloadJson := feedbackPayload f event.action event.summary
    now := env.now }

/-! ## Guards, locks and saves -/

/-- `_require_handler(actor)`. -/
def requireHandler (env : FeedbackEnv) (actor : Member) : Except Error Unit :=
  rejectIf (memberCanAdminister env.directory env.now actor = false)
    (.domain "当前成员没有事件反馈处理权限。")

/-- `_lock_feedback(feedback)`. -/
def lockFeedback (s : FeedbackState rt) (feedback : EventFeedback) : Except Error EventFeedback :=
  match s.feedbacks.get? feedback.feedbackId with
  | some row => .ok row
  | none => .error (.doesNotExist "EventFeedback")

/-- A row as it is written over another one. -/
def EventFeedback.over (new old : EventFeedback) : EventFeedback :=
  { new with feedbackId := old.feedbackId }

theorem EventFeedback.over_feedbackId (new old : EventFeedback) :
    (new.over old).feedbackId = old.feedbackId := rfl

theorem EventFeedback.over_unkeyed (new old : EventFeedback) :
    (fun _ : EventFeedback => (none : Option Unit)) (new.over old) = (fun _ => none) old := rfl

/-- `feedback.save(update_fields=[...])` and the event of the service. -/
def saveFeedback (env : FeedbackEnv) (s : FeedbackState rt) (new : EventFeedback) (actor : Nat)
    (event : FeedbackEvent) : Except Error (FeedbackState rt × EventFeedback) := do
  let feedbacks := s.feedbacks.modify new.feedbackId new.over new.over_feedbackId new.over_unkeyed
  let events ← appendFeedbackEvent env s.events new actor event
  return (⟨feedbacks, events⟩, new)

/-! ## Submission -/

/-- The arguments of `submit_event_feedback`. -/
structure SubmitArgs where
  relatedEvent : PublicEvent
  submittedBy : Member
  feedbackType : String
  statement : String
  requestedOutcome : String
  evidenceRefs : Option Json
  subjectMember : Option Member
  submitterVisibility : String
  privacyReason : String
  metadata : Option Json

/-- An element of `evidence_refs`, stripped, when it is a text that is not blank. -/
def evidenceText : Json → Option String
  | .str t => if strip t = "" then none else some (strip t)
  | _ => none

/-- The stored `evidence_refs`; none when the argument is refused. -/
def evidenceTexts : Option Json → Option (List String)
  | none => some []
  | some (.arr xs) => xs.mapM evidenceText
  | some _ => none

/-- `metadata or {}`; none when the argument is no object. -/
def metadataOf : Option Json → Option (List (String × Json))
  | none => some []
  | some (.obj es) => some es
  | some _ => none

/-- `generate_event_feedback_id()`: the first of five draws that is free. -/
def generateEventFeedbackId (env : FeedbackEnv) (s : FeedbackState rt) : Except Error String :=
  match ((env.draws.take 5).map ("feedback-" ++ ·)).find? fun id =>
    (s.feedbacks.get? id).isNone with
  | some id => .ok id
  | none => .error (.domain "无法生成事件反馈 ID，请重试。")

/-- The row that `submit_event_feedback` creates. -/
def submittedFeedback (env : FeedbackEnv) (args : SubmitArgs) (id : String) (evidence : List String)
    (metadata : List (String × Json)) : EventFeedback where
  feedbackId := id
  relatedEvent := args.relatedEvent.eventId
  feedbackType := args.feedbackType
  status := .submitted
  submittedBy := args.submittedBy.pk
  subjectMember := args.subjectMember.map Member.pk
  statement := strip args.statement
  requestedOutcome := strip args.requestedOutcome
  evidenceRefs := evidence
  submitterVisibility := args.submitterVisibility
  privacyReason := strip args.privacyReason
  assignedHandler := none
  responseStatement := ""
  respondedBy := none
  respondedAt := none
  conclusion := ""
  conclusionReason := ""
  resolutionEvent := none
  concludedBy := none
  submittedAt := env.now
  verificationStartedAt := none
  concludedAt := none
  closedAt := none
  metadata := metadata

/-- `submit_event_feedback(...)`. -/
def submitEventFeedback (env : FeedbackEnv) (s : FeedbackState rt) (args : SubmitArgs) :
    Except Error (FeedbackState rt × EventFeedback) := do
  rejectIf (args.relatedEvent.visibility ≠ "public") (.domain "无权查看该事件。")
  rejectIf ((feedbackTypes.lookup args.feedbackType).isNone) (.domain "反馈类型无效。")
  match evidenceTexts args.evidenceRefs with
  | none => .error (.domain "证据引用必须是非空字符串数组。")
  | some evidence => do
    match metadataOf args.metadata with
    | none => .error (.domain "反馈 metadata 必须是对象。")
    | some metadata => do
      rejectIf (strip args.statement = "") (.domain "事实陈述不能为空。")
      rejectIf (args.submitterVisibility ∉ submitterVisibilities)
        (.domain "提交人身份展示范围无效。")
      rejectIf (args.submitterVisibility ≠ "public" ∧ strip args.privacyReason = "")
        (.domain "限制提交人身份展示时必须说明理由。")
      let id ← generateEventFeedbackId env s
      let row := submittedFeedback env args id evidence metadata
      let feedbacks ← s.feedbacks.insert row .integrity
      let events ← appendFeedbackEvent env s.events row args.submittedBy.pk
        ⟨"event_feedback_submitted", "submitted", "事件反馈已提交。"⟩
      return (⟨feedbacks, events⟩, row)

/-! ## Transitions -/

/-- `start_event_feedback_verification(...)`. -/
def startEventFeedbackVerification (env : FeedbackEnv) (s : FeedbackState rt)
    (feedback : EventFeedback) (handler : Member) :
    Except Error (FeedbackState rt × EventFeedback) := do
  requireHandler env handler
  let row ← lockFeedback s feedback
  rejectIf (row.status ≠ .submitted) (.domain "只有已提交反馈可以开始核实。")
  saveFeedback env s { row with
      status := .verifying
      assignedHandler := some handler.pk
      verificationStartedAt := some env.now } handler.pk
    ⟨"event_feedback_verification_started", "verification_started", "事件反馈已开始核实。"⟩

/-- `request_event_feedback_response(...)`; a subject with key 0 counts as none. -/
def requestEventFeedbackResponse (env : FeedbackEnv) (s : FeedbackState rt)
    (feedback : EventFeedback) (handler : Member) :
    Except Error (FeedbackState rt × EventFeedback) := do
  requireHandler env handler
  let row ← lockFeedback s feedback
  rejectIf (row.status ≠ .verifying ∨ row.subjectMember.getD 0 = 0)
    (.domain "当前反馈不能请求相关方回应。")
  saveFeedback env s { row with
      status := .awaitingResponse
      assignedHandler := some handler.pk } handler.pk
    ⟨"event_feedback_response_requested", "response_requested", "事件反馈已请求相关方回应。"⟩

/-- `respond_to_event_feedback(...)`. -/
def respondToEventFeedback (env : FeedbackEnv) (s : FeedbackState rt) (feedback : EventFeedback)
    (responder : Member) (responseStatement : String) :
    Except Error (FeedbackState rt × EventFeedback) := do
  let row ← lockFeedback s feedback
  rejectIf (row.status ≠ .awaitingResponse ∨ row.subjectMember ≠ some responder.pk)
    (.domain "当前成员不能回应该反馈。")
  rejectIf (strip responseStatement = "") (.domain "回应内容不能为空。")
  saveFeedback env s { row with
      responseStatement := strip responseStatement
      respondedBy := some responder.pk
      respondedAt := some env.now
      status := .verifying } responder.pk
    ⟨"event_feedback_responded", "responded", "相关方已回应事件反馈。"⟩

/-- `conclude_event_feedback(...)`. -/
def concludeEventFeedback (env : FeedbackEnv) (s : FeedbackState rt) (feedback : EventFeedback)
    (handler : Member) (conclusion conclusionReason : String)
    (resolutionEvent : Option PublicEvent) : Except Error (FeedbackState rt × EventFeedback) := do
  requireHandler env handler
  let row ← lockFeedback s feedback
  rejectIf (row.status ≠ .verifying ∧ row.status ≠ .awaitingResponse)
    (.domain "当前反馈不能形成结论。")
  rejectIf (conclusion ∉ conclusions ∨ strip conclusionReason = "")
    (.domain "必须提供有效结论和结论依据。")
  saveFeedback env s { row with
      status := .concluded
      conclusion := conclusion
      conclusionReason := strip conclusionReason
      resolutionEvent := resolutionEvent.map PublicEvent.eventId
      concludedBy := some handler.pk
      concludedAt := some env.now } handler.pk
    ⟨"event_feedback_concluded", "concluded", "事件反馈已形成并公布结论。"⟩

/-- `close_event_feedback(...)`. -/
def closeEventFeedback (env : FeedbackEnv) (s : FeedbackState rt) (feedback : EventFeedback)
    (handler : Member) : Except Error (FeedbackState rt × EventFeedback) := do
  requireHandler env handler
  let row ← lockFeedback s feedback
  rejectIf (row.status ≠ .concluded) (.domain "只有已形成结论的反馈可以结束。")
  saveFeedback env s { row with
      status := .closed
      closedAt := some env.now } handler.pk
    ⟨"event_feedback_closed", "closed", "事件反馈已结束。"⟩

/-- `withdraw_event_feedback(...)`. -/
def withdrawEventFeedback (env : FeedbackEnv) (s : FeedbackState rt) (feedback : EventFeedback)
    (submittedBy : Member) : Except Error (FeedbackState rt × EventFeedback) := do
  let row ← lockFeedback s feedback
  rejectIf (row.status ≠ .submitted ∨ row.submittedBy ≠ submittedBy.pk)
    (.domain "当前反馈不能由该成员撤回。")
  saveFeedback env s { row with
      status := .withdrawn
      closedAt := some env.now } submittedBy.pk
    ⟨"event_feedback_withdrawn", "withdrawn", "事件反馈已由提交人撤回。"⟩

/-! ## Calls -/

/-- The arguments of one call. -/
inductive FeedbackRequest where
  | submit (args : SubmitArgs)
  | startVerification (feedback : EventFeedback) (handler : Member)
  | requestResponse (feedback : EventFeedback) (handler : Member)
  | respond (feedback : EventFeedback) (responder : Member) (responseStatement : String)
  | conclude (feedback : EventFeedback) (handler : Member) (conclusion conclusionReason : String)
      (resolutionEvent : Option PublicEvent)
  | close (feedback : EventFeedback) (handler : Member)
  | withdraw (feedback : EventFeedback) (submittedBy : Member)

/-- One call with its surroundings. -/
structure FeedbackCall where
  env : FeedbackEnv
  request : FeedbackRequest

/-- The service of a call, with the feedback it returns. -/
def FeedbackCall.run (s : FeedbackState rt) (c : FeedbackCall) :
    Except Error (FeedbackState rt × EventFeedback) :=
  match c.request with
  | .submit args => submitEventFeedback c.env s args
  | .startVerification f handler => startEventFeedbackVerification c.env s f handler
  | .requestResponse f handler => requestEventFeedbackResponse c.env s f handler
  | .respond f responder text => respondToEventFeedback c.env s f responder text
  | .conclude f handler conclusion reason resolution =>
    concludeEventFeedback c.env s f handler conclusion reason resolution
  | .close f handler => closeEventFeedback c.env s f handler
  | .withdraw f submittedBy => withdrawEventFeedback c.env s f submittedBy

/-- A call as a step on the state. -/
def feedbackStep (s : FeedbackState rt) (c : FeedbackCall) : Except Error (FeedbackState rt) :=
  Prod.fst <$> c.run s

end LiveOs.Feedback
