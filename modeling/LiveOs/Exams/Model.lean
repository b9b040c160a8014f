import LiveOs.Roles.Catalog

/-!
# The deliberator exam

The rows of `core/models/deliberator_exams.py`: versioned questions and policies, and the attempts
that keep a snapshot of both. The lists of errors that `full_clean()` collects are represented by
their first one.
-/

namespace LiveOs.Exams

open Lib EventLedger Roles

/-! ## Rows -/

/-- `DeliberatorExamPolicy.Status`. -/
inductive PolicyStatus where
  | draft
  | active
  | retired
deriving DecidableEq

def PolicyStatus.value : PolicyStatus → String
  | draft => "draft"
  | active => "active"
  | retired => "retired"

structure DeliberatorExamPolicy where
  policyId : String
  version : Nat
  questionCount : Int
  passingPercent : Int
  status : PolicyStatus
  publishedBy : Option Nat
  publishedAt : Option Nat
deriving DecidableEq

/-- `active_slot`, which a constraint of the table ties to the status. -/
def DeliberatorExamPolicy.activeSlot (p : DeliberatorExamPolicy) : Option Nat :=
  if p.status = .active then some 1 else none

/-- `DeliberatorExamQuestion.Status`. -/
inductive QuestionStatus where
  | draft
  | published
  | retired
deriving DecidableEq

def QuestionStatus.value : QuestionStatus → String
  | draft => "draft"
  | published => "published"
  | retired => "retired"

structure DeliberatorExamQuestion where
  pk : Nat
  questionId : String
  version : Nat
  prompt : String
  optionsJson : Json
  correctOptionId : String
  explanation : String
  points : Int
  status : QuestionStatus
  createdBy : Option Nat
  publishedBy : Option Nat
  publishedAt : Option Nat

/-- `DeliberatorExamAttempt.Status`. -/
inductive AttemptStatus where
  | inProgress
  | passed
  | failed
  | invalidated
deriving DecidableEq

/-- One entry of `question_snapshot_json`. -/
structure SnapshotItem where
  snapshotId : String
  questionId : String
  version : Nat
  prompt : String
  options : Json
  correctOptionId : String
  points : Int

structure DeliberatorExamAttempt where
  pk : Nat
  attemptId : String
  member : Nat
  /-- The version of the policy, by which policies are known. -/
  policy : Nat
  policyVersion : Nat
  questionSnapshotJson : List SnapshotItem
  answersJson : List (String × String)
  score : Option Int
  totalPoints : Int
  passingScore : Int
  status : AttemptStatus
  roleAssignment : Option Nat
  startedAt : Nat
  submittedAt : Option Nat

/-- Policies, by their unique version; at most one of them has the active slot. -/
abbrev PolicyTable := Table DeliberatorExamPolicy Nat Nat DeliberatorExamPolicy.version
  DeliberatorExamPolicy.activeSlot

/-- Questions; the pair of id and version is unique. -/
abbrev QuestionTable := Table DeliberatorExamQuestion Nat (String × Nat) DeliberatorExamQuestion.pk
  fun q => some (q.questionId, q.version)

abbrev AttemptTable := Table DeliberatorExamAttempt Nat String DeliberatorExamAttempt.pk
  fun a => some a.attemptId

/-- What the exam services read and write. -/
structure ExamState (rt : Runtime) where
  roles : RoleState rt
  policies : PolicyTable
  questions : QuestionTable
  attempts : AttemptTable

variable {rt : Runtime}

/-- What one call takes from its surroundings: the clock, the random parts of new ids, and the
choice of questions. -/
structure ExamEnv where
  now : Nat
  uuid : String
  grantUuid : String
  sampler : List DeliberatorExamQuestion → Int → List DeliberatorExamQuestion

def ExamEnv.role (env : ExamEnv) : RoleEnv := ⟨env.now, env.grantUuid⟩

/-! ## Validation -/

/-- `str(option.get("id", ""))` for an item that is a dict. -/
def optionId (rt : Runtime) (es : List (String × Json)) : String :=
  match Json.get? es "id" with
  | some v => rt.str v.toPy
  | none => ""

/-- The ids of the items that are dicts. -/
def dictIds (rt : Runtime) (options : List Json) : List String :=
  options.filterMap fun item => match item with
    | .obj es => some (optionId rt es)
    | _ => none

/-- `options_json if isinstance(options_json, list) else []`. -/
def optionList : Json → List Json
  | .arr xs => xs
  | _ => []

/-- `DeliberatorExamQuestion.full_clean()` without the uniqueness of its version. -/
def DeliberatorExamQuestion.clean (rt : Runtime) (q : DeliberatorExamQuestion) :
    Except Error Unit := do
  let options := optionList q.optionsJson
  let ids := dictIds rt options
  rejectIf (q.prompt = "") (.validation "prompt")
  rejectIf (q.correctOptionId = "") (.validation "correct_option_id")
  rejectIf (options.length < 2 || ids.length ≠ options.length || ids.any (fun id => id = "") ||
      !decide ids.Nodup)
    (.validation "options_json: 必须提供至少两个具有唯一非空 ID 的选项。")
  rejectIf (!ids.contains q.correctOptionId) (.validation "correct_option_id: 正确选项必须存在于选项列表中。")
  rejectIf (q.points < 1) (.validation "points: 分值必须大于零。")

/-- `full_clean()`, with the constraint `unique_deliberator_question_version`. -/
def DeliberatorExamQuestion.fullClean (rt : Runtime) (questions : QuestionTable)
    (q : DeliberatorExamQuestion) : Except Error Unit := do
  q.clean rt
  rejectIf (questions.rows.any fun r => r.questionId = q.questionId && r.version = q.version &&
      r.pk ≠ q.pk) (.validation "unique_deliberator_question_version")

/-- `DeliberatorExamPolicy.full_clean()`. -/
def DeliberatorExamPolicy.fullClean (policies : PolicyTable) (p : DeliberatorExamPolicy) :
    Except Error Unit := do
  rejectIf (p.questionCount < 1) (.validation "question_count: 抽题数量必须大于零。")
  rejectIf (!(1 ≤ p.passingPercent && p.passingPercent ≤ 100))
    (.validation "passing_percent: 及格百分比必须在 1 到 100 之间。")
  rejectIf (policies.rows.any fun r => r.policyId = p.policyId) (.validation "policy_id")

/-! ## Checks -/

/-- `DELIBERATOR_EXAM_MANAGE_PERMISSION`. -/
def deliberatorExamManagePermission : String := "governance.manage_deliberator_exam"

def examUnavailableMessage : String := "执衡者资格考试暂未开放，请稍后再试"

/-- `_assert_exam_administrator(member)`. -/
def assertExamAdministrator (s : ExamState rt) (now : Nat) (memberPk : Nat) : Except Error Unit :=
  match s.roles.db.members.get? memberPk with
  | none => .error (.doesNotExist "Member")
  | some member =>
    rejectIf (!legacyMemberHasPermission s.roles.db now member deliberatorExamManagePermission none)
      (.domain "没有维护执衡者题库的权限。")

/-- `_assert_exam_candidate(member, at_time=...)`. -/
def assertExamCandidate (db : Directory) (now : Nat) (member : Member) (checkedAt : Nat) :
    Except Error Unit := do
  rejectIf (member.status = .suspended || member.status = .exited)
    (.domain "当前成员状态不能参加执衡者考试。")
  rejectIf (!member.accountActive) (.domain "登录账号已停用，不能参加执衡者考试。")
  rejectIf (!memberHasRole db now member [roleCovenanter] (some checkedAt))
    (.domain "只有当前有效的守约者可以参加执衡者考试。")
  rejectIf (memberHasRole db now member [roleDeliberator] (some checkedAt))
    (.domain "当前执衡者任期尚未结束，不能重复申请。")

/-! ## Events -/

/-- `deliberator_exam_change_payload(...)`. -/
def deliberatorExamChangePayload (subjectType subjectRef action stage summary : String)
    (publicFacts : List (String × Json)) : PyVal :=
  publicEventPayload subjectType subjectRef "执衡者资格考试配置" action stage summary publicFacts
    [commitment "exam_content" true "题目全文、选项、答案和解析不进入公开事件账本"]

/-- `f"{question.question_id}:v{question.version}"`. -/
def DeliberatorExamQuestion.ref (q : DeliberatorExamQuestion) : String :=
  q.questionId ++ ":v" ++ toString q.version

/-- `_append_question_event(question, actor=..., action=...)`. -/
def appendQuestionEvent (now : Nat) (s : ExamState rt) (q : DeliberatorExamQuestion) (actor : Nat)
    (action : String) : Except Error (ExamState rt) := do
  let events ← s.roles.events.append {
    eventType := "deliberator_exam_question_changed"
    aggregateType := "DeliberatorExamQuestion"
    aggregateId := q.ref
    actorMember := some actor
    payloadJson := deliberatorExamChangePayload "deliberator_exam_question" q.ref action
      q.status.value "执衡者资格考试题库配置已变更。"
      [("question_version", .scalar (.int q.version)), ("status", .str q.status.value),
        ("points", .scalar (.int q.points))]
    occurredAt := none
    now := now }
  return { s with roles := { s.roles with events := events } }

/-- `_append_policy_event(policy, actor=..., action=...)`. -/
def appendPolicyEvent (now : Nat) (s : ExamState rt) (p : DeliberatorExamPolicy) (actor : Nat)
    (action : String) : Except Error (ExamState rt) := do
  let events ← s.roles.events.append {
    eventType := "deliberator_exam_policy_changed"
    aggregateType := "DeliberatorExamPolicy"
    aggregateId := p.policyId
    actorMember := some actor
    payloadJson := deliberatorExamChangePayload "deliberator_exam_policy" p.policyId action
      p.status.value "执衡者资格考试政策已变更。"
      [("policy_version", .scalar (.int p.version)),
        ("question_count", .scalar (.int p.questionCount)),
        ("passing_percent", .scalar (.int p.passingPercent)), ("status", .str p.status.value)]
    occurredAt := none
    now := now }
  return { s with roles := { s.roles with events := events } }

end LiveOs.Exams
