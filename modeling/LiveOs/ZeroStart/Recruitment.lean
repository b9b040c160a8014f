import LiveOs.Lib.Table
import LiveOs.ZeroStart.Strategy

/-!
# The recruitment loop

One observation window of `simulation/zero_start.py`: hour by hour, the applications of the hour are
submitted through the forms and those that are due are screened, as `zero_start_screening.py` does
it. A later window goes on with the run at the hour after its last one.
-/

namespace LiveOs.ZeroStart

open Lib

/-! ## Applications -/

/-- An entry of `state_history`. -/
structure HistoryEntry (δ : Type) where
  hour : Nat
  status : δ
  reason : String
  deriving DecidableEq

/-- The screening fields of an application's metadata. -/
structure Screening (δ : Type) where
  applicationStatus : δ
  screeningStatus : δ
  screenedHour : Nat
  screeningNotes : String
  deriving DecidableEq

/-- What the screening writes to the metadata of the member of an application. -/
structure MemberScreening where
  simulationRunId : String
  applicantIndex : Nat
  appliedHour : Nat
  screening : Screening ApplicationStatus
  stateHistory : List (HistoryEntry ApplicationStatus)
  deriving DecidableEq

structure LinkedMember where
  memberNo : String
  screening : Option MemberScreening := none
  deriving DecidableEq

structure MemberApplication where
  applicationId : String
  applicantName : String
  linkedMember : Option LinkedMember
  externalRef : String
  simulationRunId : String
  simulationHour : Nat
  batchId : String := ""
  screening : Option (Screening ApplicationStatus) := none
  stateHistory : List (HistoryEntry ApplicationStatus) := []
  reviewNote : String := ""
  deriving DecidableEq

structure PartnerApplication where
  applicationId : String
  organizationName : String
  status : PartnerStatus := .submitted
  externalRef : String
  simulationRunId : String
  simulationHour : Nat
  screening : Option (Screening PartnerStatus) := none
  stateHistory : List (HistoryEntry PartnerStatus) := []
  reviewNote : String := ""
  deriving DecidableEq

/-- A row of the results that `screen_member_application` returns. -/
structure MemberResult where
  applicationId : String
  memberNo : String
  displayName : String
  decision : ApplicationStatus
  availabilityHoursPerWeek : Nat
  capabilityScores : List (String × Nat)
  documentAuthorityDomains : List String
  deriving DecidableEq

/-- A row of the results that `screen_partner_application` returns. -/
structure PartnerResult where
  applicationId : String
  organizationName : String
  decision : PartnerStatus
  serviceDomains : List String
  responsibilityDocumentDomains : List String
  canIssueResponsibilityDocuments : Bool
  deriving DecidableEq

/-- The turn of an hour. -/
structure HourTurn where
  simulationHour : Nat
  simulationDay : Nat
  applicantsApplied : List Nat
  partnersApplied : List Nat
  screeningResults : List MemberResult
  partnerScreeningResults : List PartnerResult
  deriving DecidableEq

/-! ## The run and the database -/

inductive RunStatus where
  | running | failed | completed
  deriving DecidableEq, Repr

structure ZeroStartRun where
  runId : String
  status : RunStatus := .running
  currentDay : Nat := 1
  maxTurns : Int
  currentHour : Int := -1
  completedHours : Option Nat := none
  observationWindowHours : Option Nat := none
  failureSummary : String := ""
  canContinue : Bool := true

abbrev MemberApplications :=
  Table MemberApplication String Empty MemberApplication.applicationId fun _ => none

abbrev PartnerApplications :=
  Table PartnerApplication String Empty PartnerApplication.applicationId fun _ => none

structure Db where
  memberApplications : MemberApplications
  partnerApplications : PartnerApplications
  turns : List HourTurn := []

/-- `f"{run.run_id}:member:{spec.index}"`. -/
def memberRef (runId : String) (index : Nat) : String := runId ++ ":member:" ++ index.repr

/-- `f"{run.run_id}:partner:{spec.index}"`. -/
def partnerRef (runId : String) (index : Nat) : String := runId ++ ":partner:" ++ index.repr

/-- `hour // 24 + 1`. -/
def simulationDay (hour : Nat) : Nat := hour / 24 + 1

/-! ## The forms -/

/-- What is posted; the form fields are those of the spec. -/
structure FormSubmission (σ : Type) where
  runId : String
  simulationHour : Nat
  externalRef : String
  spec : σ

/-- A `FormSubmissionResult` without success. -/
structure FormFailure where
  path : String
  statusCode : Nat
  errors : List String

/-- The application that was stored and the number of the member registered with it. -/
structure Receipt where
  applicationId : String
  memberNo : Option String

/-- The pages and services behind `HttpFormDriver`. -/
structure FormDriver where
  submitMemberApplication : Db → FormSubmission ApplicantSpec → Except FormFailure Receipt
  submitPartnerApplication : Db → FormSubmission PartnerSpec → Except FormFailure String

/-- What a window has at hand: the run and the applications it has submitted itself. -/
structure LoopState where
  db : Db
  run : ZeroStartRun
  applicationsByIndex : List (Nat × String) := []
  partnerApplicationsByIndex : List (Nat × String) := []

inductive Fault where
  | doesNotExist | multipleObjectsReturned
  deriving DecidableEq, Repr

/-- How the loop stops early: by an exception, or by the failure of a form or of a review. -/
inductive Halt where
  | raised (fault : Fault)
  | failed (state : LoopState) (hour : Nat) (failure : FormFailure)

variable (driver : FormDriver)

/-- The application that a successful form leaves behind. -/
def newMemberApplication (submission : FormSubmission ApplicantSpec) (receipt : Receipt) :
    MemberApplication where
  applicationId := receipt.applicationId
  applicantName := submission.spec.displayName
  linkedMember := receipt.memberNo.map fun memberNo => { memberNo }
  externalRef := submission.externalRef
  simulationRunId := submission.runId
  simulationHour := submission.simulationHour

def newPartnerApplication (submission : FormSubmission PartnerSpec) (applicationId : String) :
    PartnerApplication where
  applicationId := applicationId
  organizationName := submission.spec.organizationName
  externalRef := submission.externalRef
  simulationRunId := submission.runId
  simulationHour := submission.simulationHour

/-- `submit_member_application_via_form(...)` and the branch on its result. -/
def submitMember (hour : Nat) (s : LoopState) (spec : ApplicantSpec) : Except Halt LoopState := do
  let submission : FormSubmission ApplicantSpec := {
    runId := s.run.runId
    simulationHour := hour
    externalRef := memberRef s.run.runId spec.index
    spec := spec }
  let stored : Except FormFailure (MemberApplications × Receipt) := do
    let receipt ← driver.submitMemberApplication s.db submission
    let table ← s.db.memberApplications.insert (newMemberApplication submission receipt)
      { path := "/workspace/apply/", statusCode := 500, errors := [] }
    return (table, receipt)
  match stored with
  | .error failure => throw (.failed s hour failure)
  | .ok (table, receipt) =>
    return { s with
      db := { s.db with memberApplications := table }
      applicationsByIndex := (spec.index, receipt.applicationId) :: s.applicationsByIndex }

/-- `submit_partner_application_via_form(...)` and the branch on its result. -/
def submitPartner (hour : Nat) (s : LoopState) (spec : PartnerSpec) : Except Halt LoopState := do
  let submission : FormSubmission PartnerSpec := {
    runId := s.run.runId
    simulationHour := hour
    externalRef := partnerRef s.run.runId spec.index
    spec := spec }
  let stored : Except FormFailure (PartnerApplications × String) := do
    let applicationId ← driver.submitPartnerApplication s.db submission
    let table ← s.db.partnerApplications.insert (newPartnerApplication submission applicationId)
      { path := "service:submit_partner_application", statusCode := 500, errors := [] }
    return (table, applicationId)
  match stored with
  | .error failure => throw (.failed s hour failure)
  | .ok (table, applicationId) =>
    return { s with
      db := { s.db with partnerApplications := table }
      partnerApplicationsByIndex := (spec.index, applicationId) :: s.partnerApplicationsByIndex }

/-! ## Screening -/

/-- `objects.get(...)` among the rows that meet the condition. -/
def getOne {α : Type} : List α → Except Halt α
  | [] => .error (.raised .doesNotExist)
  | [row] => .ok row
  | _ => .error (.raised .multipleObjectsReturned)

/-- `member_application_for_run(run=run, spec=spec)`. -/
def memberApplicationForRun (db : Db) (runId : String) (spec : ApplicantSpec) :
    Except Halt MemberApplication :=
  getOne (db.memberApplications.rows.filter fun a => a.externalRef = memberRef runId spec.index)

/-- `partner_application_for_run(run=run, spec=spec)`. -/
def partnerApplicationForRun (db : Db) (runId : String) (spec : PartnerSpec) :
    Except Halt PartnerApplication :=
  getOne (db.partnerApplications.rows.filter fun a => a.externalRef = partnerRef runId spec.index)

/-- `applications_by_index.get(spec.index) or member_application_for_run(...)`. The object at hand
is the row as it was last saved. -/
def memberApplicationAtHand (s : LoopState) (spec : ApplicantSpec) :
    Except Halt MemberApplication :=
  match (s.applicationsByIndex.lookup spec.index).bind s.db.memberApplications.get? with
  | some application => .ok application
  | none => memberApplicationForRun s.db s.run.runId spec

/-- `partner_applications_by_index.get(spec.index) or partner_application_for_run(...)`. -/
def partnerApplicationAtHand (s : LoopState) (spec : PartnerSpec) :
    Except Halt PartnerApplication :=
  match (s.partnerApplicationsByIndex.lookup spec.index).bind s.db.partnerApplications.get? with
  | some application => .ok application
  | none => partnerApplicationForRun s.db s.run.runId spec

/-- The note of a member's decision. -/
def memberNote : ApplicationStatus → String
  | .candidate => "进入候选池：具备可用能力或较高到场时间，但不等于具备文件签署责任。"
  | .standby => "进入备用池：兴趣明确，但可用时间或能力匹配度不足。"
  | .withdrew => "报名者在筛选截止前主动退出。"
  | _ => "项目方暂不接纳：当前能力和可用时间不足以进入候选池。"

/-- The entry that the screening of an applicant adds to the history. -/
def memberEntry (spec : ApplicantSpec) (screenedHour : Nat) : HistoryEntry ApplicationStatus :=
  let decision := screeningDecision spec screenedHour
  { hour := screenedHour, status := decision, reason := memberNote decision }

/-- The screening fields after an entry. -/
def HistoryEntry.screening {δ : Type} (entry : HistoryEntry δ) : Screening δ where
  applicationStatus := entry.status
  screeningStatus := entry.status
  screenedHour := entry.hour
  screeningNotes := entry.reason

/-- `str(run_id)[-6:]`. -/
def lastSix (runId : String) : String := String.ofList (runId.toList.drop (runId.length - 6))

/-- The application after `screen_member_application`. -/
def MemberApplication.screened (spec : ApplicantSpec) (entry : HistoryEntry ApplicationStatus)
    (application : MemberApplication) : MemberApplication :=
  let history := application.stateHistory ++ [entry]
  { application with
    batchId := "zero-start-" ++ lastSix application.simulationRunId
    screening := some entry.screening
    stateHistory := history
    reviewNote := entry.reason
    linkedMember := application.linkedMember.map fun member => { member with
      screening := some {
        simulationRunId := application.simulationRunId
        applicantIndex := spec.index
        appliedHour := spec.applyHour
        screening := entry.screening
        stateHistory := history } } }

/-- `screen_member_application(application=application, spec=spec, screened_hour=screened_hour)`. -/
def screenMemberApplication (db : Db) (application : MemberApplication) (spec : ApplicantSpec)
    (screenedHour : Nat) : Db × MemberResult :=
  let entry := memberEntry spec screenedHour
  let table := db.memberApplications.modify application.applicationId
    (fun row => row.screened spec entry) (fun _ => rfl) (fun _ => rfl)
  ({ db with memberApplications := table },
    { applicationId := application.applicationId
      memberNo := (application.linkedMember.map LinkedMember.memberNo).getD ""
      displayName := application.applicantName
      decision := entry.status
      availabilityHoursPerWeek := spec.availabilityHoursPerWeek
      capabilityScores := spec.capabilityScores
      documentAuthorityDomains := spec.documentAuthorityDomains })

/-- The note of a partner's screening. -/
def partnerNote (spec : PartnerSpec) : String :=
  if spec.reviewStatus = .qualified ∧ spec.canIssueResponsibilityDocuments = true then
    "合作方已初筛为可合作：具备责任文件签署能力；后续仍需以具体合同和正式文件固化责任。"
  else if spec.reviewStatus = .qualified then
    "合作方已初筛为可合作：可提供服务能力，但不承担责任文件签署。"
  else "合作方已初筛进入线索池：可作为辅助能力或报价来源，不能直接视为关键责任文件到位。"

def partnerEntry (spec : PartnerSpec) (screenedHour : Nat) : HistoryEntry PartnerStatus :=
  { hour := screenedHour, status := spec.reviewStatus, reason := partnerNote spec }

/-- `review_partner_application(...)`: the statuses it accepts, and what it saves. -/
def reviewPartnerApplication (db : Db) (application : PartnerApplication) (status : PartnerStatus)
    (reviewNote : String) : Except String Db :=
  if status = .submitted then .error "合作方报名审核状态无效。"
  else
    let table := db.partnerApplications.modify application.applicationId
      (fun row => { row with status := status, reviewNote := reviewNote }) (fun _ => rfl)
      (fun _ => rfl)
    .ok { db with partnerApplications := table }

/-- The application after `screen_partner_application`. -/
def PartnerApplication.screened (entry : HistoryEntry PartnerStatus)
    (application : PartnerApplication) : PartnerApplication :=
  { application with
    screening := some entry.screening
    stateHistory := application.stateHistory ++ [entry] }

/-- `screen_partner_application(...)`; a refused review is a `DomainError`. -/
def screenPartnerApplication (db : Db) (application : PartnerApplication) (spec : PartnerSpec)
    (screenedHour : Nat) : Except String (Db × PartnerResult) := do
  let entry := partnerEntry spec screenedHour
  let db ← reviewPartnerApplication db application spec.reviewStatus entry.reason
  let table := db.partnerApplications.modify application.applicationId
    (fun row => row.screened entry) (fun _ => rfl) (fun _ => rfl)
  return ({ db with partnerApplications := table },
    { applicationId := application.applicationId
      organizationName := application.organizationName
      decision := spec.reviewStatus
      serviceDomains := spec.serviceDomains
      responsibilityDocumentDomains := spec.responsibilityDocumentDomains
      canIssueResponsibilityDocuments := spec.canIssueResponsibilityDocuments })

/-- The body of the loop over `screened`. -/
def screenMember (hour : Nat) (acc : LoopState × List MemberResult) (spec : ApplicantSpec) :
    Except Halt (LoopState × List MemberResult) := do
  let application ← memberApplicationAtHand acc.1 spec
  let (db, row) := screenMemberApplication acc.1.db application spec hour
  return ({ acc.1 with db := db }, acc.2 ++ [row])

/-- The body of the loop over `partner_screened`. -/
def screenPartner (hour : Nat) (acc : LoopState × List PartnerResult) (spec : PartnerSpec) :
    Except Halt (LoopState × List PartnerResult) := do
  let application ← partnerApplicationAtHand acc.1 spec
  match screenPartnerApplication acc.1.db application spec hour with
  | .error message => throw (.failed acc.1 hour
      { path := "partner_application_review", statusCode := 0, errors := [message] })
  | .ok (db, row) => return ({ acc.1 with db := db }, acc.2 ++ [row])

/-! ## The window -/

/-- The turn of the hour and the run after it. -/
def recordHour (hour : Nat) (turn : HourTurn) (s : LoopState) : LoopState :=
  { s with
    db := { s.db with turns := s.db.turns ++ [turn] }
    run := { s.run with currentDay := simulationDay hour, currentHour := hour } }

/-- The body of the loop over the hours. -/
def runHour (applicants : List ApplicantSpec) (partners : List PartnerSpec) (s : LoopState)
    (hour : Nat) : Except Halt LoopState := do
  let applied := applicants.filter fun spec => spec.applyHour = hour
  let screened := applicants.filter fun spec => spec.screenHour = hour
  let partnerApplied := partners.filter fun spec => spec.applyHour = hour
  let partnerScreened := partners.filter fun spec => spec.screenHour = hour
  let s ← applied.foldlM (submitMember driver hour) s
  let s ← partnerApplied.foldlM (submitPartner driver hour) s
  let (s, rows) ← screened.foldlM (screenMember hour) (s, [])
  let (s, partnerRows) ← partnerScreened.foldlM (screenPartner hour) (s, [])
  return recordHour hour
    { simulationHour := hour
      simulationDay := simulationDay hour
      applicantsApplied := applied.map ApplicantSpec.index
      partnersApplied := partnerApplied.map PartnerSpec.index
      screeningResults := rows
      partnerScreeningResults := partnerRows } s

/-- The startup gate and the work that follows it, as they are read off the database. -/
structure Outlook where
  startupGateSatisfied : Bool
  preEngineeringCompleted : Bool

variable (outlook : Db → ZeroStartRun → Nat → Outlook)

/-- The run at the start of a window: a new one, or the one that goes on. -/
def beginRun (newId : String) (hours : Nat) : Option ZeroStartRun → ZeroStartRun
  | none => { runId := newId, maxTurns := hours }
  | some run => { run with status := .running, maxTurns := run.currentHour + 1 + hours }

/-- The run at the end of a window. -/
def closeWindow (endHour hours : Nat) (view : Outlook) (run : ZeroStartRun) : ZeroStartRun :=
  let completed := view.startupGateSatisfied && view.preEngineeringCompleted
  { run with
    status := if completed then .completed else .running
    failureSummary :=
      if completed then ""
      else if view.startupGateSatisfied then "启动门槛已满足，工程前置流程仍在推进。"
      else "启动门槛未满足，继续筹备和招募。"
    completedHours := some endHour
    observationWindowHours := some hours
    canContinue := !completed }

/-- `create_zero_start_form_interaction_failure(...)`: the run fails at the hour. -/
def failRun (hour : Nat) (run : ZeroStartRun) : ZeroStartRun :=
  { run with
    status := .failed
    failureSummary := "零起点仿真表单交互失败"
    completedHours := some hour }

/-- `_run_zero_start(revision=revision, hours=hours, run=run)`. -/
def runZeroStart (newId : String) (hours : Nat) (run : Option ZeroStartRun) (db : Db) :
    Except Fault (Db × ZeroStartRun) :=
  let run := beginRun newId hours run
  let startHour := (run.currentHour + 1).toNat
  let endHour := startHour + hours
  let applicants := applicantSpecsForHours endHour
  let partners := partnerSpecsForHours endHour
  match (List.range' startHour hours).foldlM (runHour driver applicants partners)
      { db := db, run := run } with
  | .ok s => .ok (s.db, closeWindow endHour hours (outlook s.db s.run endHour) s.run)
  | .error (.failed s hour _) => .ok (s.db, failRun hour s.run)
  | .error (.raised fault) => .error fault

/-- Consecutive windows on one run. -/
def runWindows (newId : String) : List Nat → Option ZeroStartRun → Db →
    Except Fault (Db × Option ZeroStartRun)
  | [], run, db => .ok (db, run)
  | hours :: rest, run, db => do
    let (db, run) ← runZeroStart driver outlook newId hours run db
    runWindows newId rest (some run) db

end LiveOs.ZeroStart
