import Mathlib.Algebra.BigOperators.Group.Finset.Basic
import Mathlib.Algebra.Order.Ring.Int
import LiveOs.Exams.QuestionBank

/-!
# Taking the exam

`start_deliberator_exam` and `submit_deliberator_exam` of `core/deliberator_exam_services.py`. An
attempt keeps what it is graded by; a passed one is linked to the term of `create_role_assignment`.
Score thresholds are computed exactly.
-/

namespace LiveOs.Exams

open Lib EventLedger Roles

variable {rt : Runtime}

/-! ## Starting -/

/-- The active policy with the highest version. -/
def activePolicy (policies : PolicyTable) : Option DeliberatorExamPolicy :=
  ((policies.rows.filter fun p => p.status = .active).insertionSort fun p q =>
    q.version ≤ p.version).head?

/-- `order_by("question_id", "-version")`. -/
def questionOrder (q r : DeliberatorExamQuestion) : Bool :=
  q.questionId < r.questionId || q.questionId = r.questionId && r.version ≤ q.version

/-- The published questions in their order. -/
def publishedQuestions (questions : QuestionTable) : List DeliberatorExamQuestion :=
  (questions.rows.filter fun q => q.status = .published).insertionSort fun q r => questionOrder q r

/-- `f"q{index + 1}"` and the content of the question. -/
def snapshotItem (index : Nat) (q : DeliberatorExamQuestion) : SnapshotItem where
  snapshotId := "q" ++ toString (index + 1)
  questionId := q.questionId
  version := q.version
  prompt := q.prompt
  options := q.optionsJson
  correctOptionId := q.correctOptionId
  points := q.points

/-- `math.ceil(total * passing_percent / 100)`. -/
def passingScoreOf (total passingPercent : Int) : Int := -(-(total * passingPercent) / 100)

/-- `sum(item["points"] for item in snapshot)`. -/
def totalPointsOf (snapshot : List SnapshotItem) : Int := (snapshot.map SnapshotItem.points).sum

/-- `start_deliberator_exam(member=...)`. -/
def startDeliberatorExam (env : ExamEnv) (s : ExamState rt) (memberPk : Nat) :
    Except Error (ExamState rt × DeliberatorExamAttempt) :=
  match s.roles.db.members.get? memberPk with
  | none => .error (.doesNotExist "Member")
  | some member => do
    assertExamCandidate s.roles.db env.now member env.now
    match activePolicy s.policies with
    | none => .error (.domain examUnavailableMessage)
    | some policy => do
      let questions := publishedQuestions s.questions
      rejectIf ((questions.length : Int) < policy.questionCount) (.domain examUnavailableMessage)
      let selected := env.sampler questions policy.questionCount
      let snapshot := selected.mapIdx snapshotItem
      let total := totalPointsOf snapshot
      let attempt : DeliberatorExamAttempt := {
        pk := nextPk (s.attempts.rows.map DeliberatorExamAttempt.pk)
        attemptId := "delib-attempt-" ++ env.uuid
        member := member.pk
        policy := policy.version
        policyVersion := policy.version
        questionSnapshotJson := snapshot
        answersJson := []
        score := none
        totalPoints := total
        passingScore := passingScoreOf total policy.passingPercent
        status := .inProgress
        roleAssignment := none
        startedAt := env.now
        submittedAt := none }
      let attempts ← s.attempts.insert attempt Error.integrity
      return ({ s with attempts := attempts }, attempt)

/-! ## Grading -/

/-- The option ids of a snapshot question; iterating what is not a list of dicts raises. -/
def optionIds (rt : Runtime) : Json → Except Error (List String)
  | .arr xs => xs.mapM fun item => match item with
    | .obj es => .ok (optionId rt es)
    | _ => .error .attribute
  | .obj [] => .ok []
  | .str "" => .ok []
  | .obj _ => .error .attribute
  | .str _ => .error .attribute
  | .scalar _ => .error .type

/-- `answers[snapshot_id]`. -/
def answerFor (answers : List (String × String)) (snapshotId : String) : Option String :=
  (answers.find? fun a => a.1 = snapshotId).map Prod.snd

/-- The points a question adds to the score. -/
def gradeItem (rt : Runtime) (answers : List (String × String)) (score : Int) (item : SnapshotItem) :
    Except Error Int := do
  let ids ← optionIds rt item.options
  match answerFor answers item.snapshotId with
  | none => .error (.value "KeyError")
  | some selected => do
    rejectIf (!ids.contains selected) (.domain "提交的选项不属于本次考试。")
    return if selected = item.correctOptionId then score + item.points else score

/-- `set(answers) != expected_ids`. -/
def answersCover (answers : List (String × String)) (snapshot : List SnapshotItem) : Bool :=
  (answers.all fun a => snapshot.any fun item => item.snapshotId = a.1) &&
    snapshot.all fun item => answers.any fun a => a.1 = item.snapshotId

/-! ## Submitting -/

/-- The year has a leap day. -/
def isLeapYear (year : Nat) : Bool := year % 4 = 0 && (year % 100 ≠ 0 || year % 400 = 0)

/-- `deliberator_term_end_at(start_at)`: the same date of the next year, and 28 February for a leap
day. -/
def deliberatorTermEndAt (startAt : Nat) : Nat :=
  let (year, month, day) := civilDate (startAt / 86400000000)
  let leapDayWithin := if month ≤ 2 then isLeapYear year && !(month = 2 && day = 29)
    else isLeapYear (year + 1)
  startAt + days (if leapDayWithin then 366 else 365)

/-- `DeliberatorExamAttempt.full_clean()` on a graded attempt. -/
def DeliberatorExamAttempt.fullClean (a : DeliberatorExamAttempt) : Except Error Unit := do
  rejectIf a.questionSnapshotJson.isEmpty (.validation "question_snapshot_json")
  rejectIf (a.roleAssignment.isSome && a.status ≠ .passed)
    (.validation "只有通过的考试可以关联执衡者任期。")

/-- `locked.save(update_fields=...)`. -/
def saveAttempt (s : ExamState rt) (a : DeliberatorExamAttempt) : ExamState rt :=
  let fields : DeliberatorExamAttempt → DeliberatorExamAttempt := fun row =>
    { row with
      answersJson := a.answersJson
      score := a.score
      submittedAt := a.submittedAt
      status := a.status
      roleAssignment := a.roleAssignment }
  { s with attempts := s.attempts.modify a.pk fields (fun _ => rfl) fun _ => rfl }

/-- The term of a passed attempt. -/
def grantTerm (env : ExamEnv) (s : ExamState rt) (member : Nat) (checkedAt : Nat) :
    Except Error (ExamState rt × RoleAssignment) := do
  let (db, role) ← ensureCatalogRole s.roles.db roleDeliberator
  let (roles, assignment) ← createRoleAssignment env.role { s.roles with db := db } member role none
    (some checkedAt) (some (deliberatorTermEndAt checkedAt)) .selfApplication false
  return ({ s with roles := roles }, assignment)

/-- The outcome of a graded attempt. A term that another attempt is linked to invalidates it. -/
def concludeAttempt (env : ExamEnv) (s : ExamState rt) (graded : DeliberatorExamAttempt)
    (score : Int) (checkedAt : Nat) : Except Error (ExamState rt × DeliberatorExamAttempt) :=
  if graded.passingScore ≤ score then do
    let (s, assignment) ← grantTerm env s graded.member checkedAt
    let outcome : DeliberatorExamAttempt :=
      if s.attempts.rows.any fun a => a.roleAssignment = some assignment.pk && a.pk ≠ graded.pk
      then { graded with status := .invalidated, roleAssignment := none }
      else { graded with status := .passed, roleAssignment := some assignment.pk }
    outcome.fullClean
    return (saveAttempt s outcome, outcome)
  else do
    let outcome : DeliberatorExamAttempt := { graded with status := .failed }
    outcome.fullClean
    return (saveAttempt s outcome, outcome)

/-- `submit_deliberator_exam(...)`. -/
def submitDeliberatorExam (env : ExamEnv) (s : ExamState rt) (memberPk attemptPk : Nat)
    (answers : List (String × String)) (atTime : Option Nat) :
    Except Error (ExamState rt × DeliberatorExamAttempt) :=
  match s.roles.db.members.get? memberPk, s.attempts.get? attemptPk with
  | some member, some locked => do
    let checkedAt := atTime.getD env.now
    rejectIf (locked.member ≠ member.pk) (.domain "该考试尝试不属于当前成员。")
    rejectIf (locked.status ≠ .inProgress) (.domain "该考试已经提交，不能重复评分。")
    match assertExamCandidate s.roles.db env.now member checkedAt with
    | .error _ =>
      let outcome := { locked with
        status := .invalidated, submittedAt := some checkedAt, answersJson := [], score := some 0 }
      return (saveAttempt s outcome, outcome)
    | .ok () => do
      rejectIf (!answersCover answers locked.questionSnapshotJson)
        (.domain "请完整回答本次考试的全部题目。")
      let score ← locked.questionSnapshotJson.foldlM (gradeItem rt answers) 0
      concludeAttempt env s { locked with
        answersJson := answers, score := some score, submittedAt := some checkedAt } score checkedAt
  | none, _ => .error (.doesNotExist "Member")
  | some _, none => .error (.doesNotExist "DeliberatorExamAttempt")

/-! ## Histories -/

/-- One call of a history: the question bank, the exam, the role assignments, or a change of the
members and of what roles permit. -/
inductive ExamCall where
  | bank (actor : Nat) (call : BankCall)
  | start (member : Nat)
  | submit (member attempt : Nat) (answers : List (String × String)) (atTime : Option Nat)
  | grant (member : Nat) (role : Role) (grantedBy startAt endAt : Option Nat)
    (sourceType : SourceType) (skipValidation : Bool)
  | revoke (assignment : Nat) (revokedBy endAt : Option Nat)
  | members (members : MemberTable) (rolePermissions : List RolePermission)

/-- A call in its surroundings, as a step of the state. -/
def examStep (s : ExamState rt) (c : ExamEnv × ExamCall) : Except Error (ExamState rt) :=
  match c.2 with
  | .bank actor call => bankStep c.1 s actor call
  | .start member => do
    let (s, _) ← startDeliberatorExam c.1 s member
    return s
  | .submit member attempt answers atTime => do
    let (s, _) ← submitDeliberatorExam c.1 s member attempt answers atTime
    return s
  | .grant member role grantedBy startAt endAt sourceType skipValidation => do
    let (roles, _) ← createRoleAssignment c.1.role s.roles member role grantedBy startAt endAt
      sourceType skipValidation
    return { s with roles := roles }
  | .revoke assignment revokedBy endAt => do
    let (roles, _) ← revokeRoleAssignment c.1.role s.roles assignment revokedBy endAt
    return { s with roles := roles }
  | .members members rolePermissions => .ok { s with roles := { s.roles with
      db := { s.roles.db with members := members, rolePermissions := rolePermissions } } }

end LiveOs.Exams
