import LiveOs.Exams.Model

/-!
# The question bank

The services of `core/deliberator_exam_services.py` that maintain questions and policies. Each one
looks after the version it is called on and the one it adds.
-/

namespace LiveOs.Exams

open Lib EventLedger Roles

variable {rt : Runtime}

/-! ## Policies -/

/-- The policy, retired if it was active. -/
def DeliberatorExamPolicy.retired (p : DeliberatorExamPolicy) : DeliberatorExamPolicy :=
  if p.status = .active then { p with status := .retired } else p

@[simp] theorem DeliberatorExamPolicy.retired_version (p : DeliberatorExamPolicy) :
    p.retired.version = p.version := by
  by_cases h : p.status = .active <;> simp [retired, h]

theorem DeliberatorExamPolicy.retired_status (p : DeliberatorExamPolicy) :
    p.retired.status ≠ .active := by
  by_cases h : p.status = .active <;> simp [retired, h]

@[simp] theorem DeliberatorExamPolicy.retired_activeSlot (p : DeliberatorExamPolicy) :
    p.retired.activeSlot = none := if_neg p.retired_status

/-- `.update(status=RETIRED, active_slot=None)` on the active policies. -/
def retireActivePolicies (policies : PolicyTable) : PolicyTable where
  rows := policies.rows.map DeliberatorExamPolicy.retired
  pkUnique := by
    have hversion : DeliberatorExamPolicy.version ∘ DeliberatorExamPolicy.retired =
        DeliberatorExamPolicy.version := funext fun p => p.retired_version
    rw [List.map_map, hversion]
    exact policies.pkUnique
  altUnique := by
    rw [List.filterMap_map, List.filterMap_eq_nil_iff.2 fun p _ => p.retired_activeSlot]
    exact List.nodup_nil

/-- `order_by("-version").first()`, as the version after it. -/
def nextVersion (policies : PolicyTable) : Nat :=
  (policies.rows.map DeliberatorExamPolicy.version).foldr max 0 + 1

/-- `publish_exam_policy(...)`. -/
def publishExamPolicy (env : ExamEnv) (s : ExamState rt) (actor : Nat)
    (questionCount passingPercent : Int) : Except Error (ExamState rt × DeliberatorExamPolicy) := do
  assertExamAdministrator s env.now actor
  let activeQuestions := s.questions.rows.countP fun q => q.status = .published
  rejectIf (questionCount < 1 || (activeQuestions : Int) < questionCount)
    (.domain "已发布有效题目不足，不能发布该考试政策。")
  rejectIf (!(1 ≤ passingPercent && passingPercent ≤ 100))
    (.domain "及格百分比必须在 1 到 100 之间。")
  let policies := retireActivePolicies s.policies
  let policy : DeliberatorExamPolicy := {
    policyId := "delib-policy-" ++ env.uuid
    version := nextVersion policies
    questionCount := questionCount
    passingPercent := passingPercent
    status := .active
    publishedBy := some actor
    publishedAt := some env.now }
  policy.fullClean policies
  let policies ← policies.insert policy
    (.domain "已有另一项考试政策同时生效，请刷新后重试。")
  let s ← appendPolicyEvent env.now { s with policies := policies } policy actor "published"
  return (s, policy)

/-! ## Questions -/

/-- The content of a question version. -/
structure QuestionContent where
  prompt : String
  options : Json
  correctOptionId : String
  points : Int
  explanation : String

/-- `create_exam_question(...)`. -/
def createExamQuestion (env : ExamEnv) (s : ExamState rt) (actor : Nat) (content : QuestionContent)
    (publish : Bool) : Except Error (ExamState rt × DeliberatorExamQuestion) := do
  assertExamAdministrator s env.now actor
  let question : DeliberatorExamQuestion := {
    pk := nextPk (s.questions.rows.map DeliberatorExamQuestion.pk)
    questionId := "delib-question-" ++ env.uuid
    version := 1
    prompt := strip content.prompt
    optionsJson := content.options
    correctOptionId := content.correctOptionId
    explanation := content.explanation
    points := content.points
    status := if publish then .published else .draft
    createdBy := some actor
    publishedBy := if publish then some actor else none
    publishedAt := if publish then some env.now else none }
  question.fullClean rt s.questions
  let questions ← s.questions.insert question Error.integrity
  let s ← appendQuestionEvent env.now { s with questions := questions } question actor
    (if publish then "published" else "draft_created")
  return (s, question)

/-- The other published versions of the question. -/
def isPublishedSibling (question : DeliberatorExamQuestion) (q : DeliberatorExamQuestion) : Bool :=
  q.questionId = question.questionId && q.status = .published && q.pk ≠ question.pk

/-- `.update(status=RETIRED)` on the rows that meet the test. -/
def retireQuestions (questions : QuestionTable) (p : DeliberatorExamQuestion → Bool) :
    QuestionTable :=
  let retire : DeliberatorExamQuestion → DeliberatorExamQuestion := fun q =>
    { q with status := .retired }
  questions.update p retire (fun _ => rfl) fun _ => rfl

/-- The fields that publishing sets. -/
def DeliberatorExamQuestion.publish (actor now : Nat) (q : DeliberatorExamQuestion) :
    DeliberatorExamQuestion :=
  { q with status := .published, publishedBy := some actor, publishedAt := some now }

/-- `publish_exam_question(...)`. -/
def publishExamQuestion (env : ExamEnv) (s : ExamState rt) (actor questionPk : Nat) :
    Except Error (ExamState rt × DeliberatorExamQuestion) :=
  match s.questions.get? questionPk with
  | none => .error (.doesNotExist "DeliberatorExamQuestion")
  | some question => do
    assertExamAdministrator s env.now actor
    rejectIf (question.status ≠ .draft) (.domain "只有草稿题目可以发布。")
    question.fullClean rt s.questions
    let questions := (retireQuestions s.questions (isPublishedSibling question)).modify question.pk
      (DeliberatorExamQuestion.publish actor env.now) (fun _ => rfl) fun _ => rfl
    let s ← appendQuestionEvent env.now { s with questions := questions }
      (question.publish actor env.now) actor "published"
    return (s, question.publish actor env.now)

/-- The versions of the question are all at most this one. -/
def isLatestVersion (questions : QuestionTable) (question : DeliberatorExamQuestion) : Bool :=
  questions.rows.all fun q => q.questionId ≠ question.questionId || q.version ≤ question.version

/-- `copy_exam_question_to_draft(...)`. -/
def copyExamQuestionToDraft (env : ExamEnv) (s : ExamState rt) (actor questionPk : Nat) :
    Except Error (ExamState rt × DeliberatorExamQuestion) :=
  match s.questions.get? questionPk with
  | none => .error (.doesNotExist "DeliberatorExamQuestion")
  | some question => do
    assertExamAdministrator s env.now actor
    rejectIf (!isLatestVersion s.questions question || question.status = .draft)
      (.domain "只能从题目的最新已发布或已停用版本创建新草稿。")
    let draft : DeliberatorExamQuestion := { question with
      pk := nextPk (s.questions.rows.map DeliberatorExamQuestion.pk)
      version := question.version + 1
      status := .draft
      createdBy := some actor
      publishedBy := none
      publishedAt := none }
    let questions ← s.questions.insert draft Error.integrity
    let s ← appendQuestionEvent env.now { s with questions := questions } draft actor
      "draft_version_created"
    return (s, draft)

/-- `replace_exam_question(...)`. -/
def replaceExamQuestion (env : ExamEnv) (s : ExamState rt) (actor questionPk : Nat)
    (content : QuestionContent) : Except Error (ExamState rt × DeliberatorExamQuestion) :=
  match s.questions.get? questionPk with
  | none => .error (.doesNotExist "DeliberatorExamQuestion")
  | some question => do
    assertExamAdministrator s env.now actor
    -- only this version is retired, whatever its status was
    let questions := retireQuestions s.questions fun q => q.pk = question.pk
    let replacement : DeliberatorExamQuestion := {
      pk := nextPk (questions.rows.map DeliberatorExamQuestion.pk)
      questionId := question.questionId
      version := question.version + 1
      prompt := strip content.prompt
      optionsJson := content.options
      correctOptionId := content.correctOptionId
      explanation := content.explanation
      points := content.points
      status := .published
      createdBy := some actor
      publishedBy := some actor
      publishedAt := some env.now }
    replacement.fullClean rt questions
    let questions ← questions.insert replacement Error.integrity
    let s := { s with questions := questions }
    let s ← appendQuestionEvent env.now s { question with status := .retired } actor "retired"
    let s ← appendQuestionEvent env.now s replacement actor "replacement_published"
    return (s, replacement)

/-- `retire_exam_question(...)`. -/
def retireExamQuestion (env : ExamEnv) (s : ExamState rt) (actor questionPk : Nat) :
    Except Error (ExamState rt × DeliberatorExamQuestion) :=
  match s.questions.get? questionPk with
  | none => .error (.doesNotExist "DeliberatorExamQuestion")
  | some question => do
    assertExamAdministrator s env.now actor
    if question.status = .retired then return (s, question)
    else
      let questions := retireQuestions s.questions fun q => q.pk = question.pk
      let s ← appendQuestionEvent env.now { s with questions := questions }
        { question with status := .retired } actor "retired"
      return (s, { question with status := .retired })

/-! ## Histories -/

/-- A call of the bank services. -/
inductive BankCall where
  | publishPolicy (questionCount passingPercent : Int)
  | create (content : QuestionContent) (publish : Bool)
  | publish (question : Nat)
  | copy (question : Nat)
  | replace (question : Nat) (content : QuestionContent)
  | retire (question : Nat)

/-- A call by a member, as a step of the state. -/
def bankStep (env : ExamEnv) (s : ExamState rt) (actor : Nat) (c : BankCall) :
    Except Error (ExamState rt) :=
  match c with
  | .publishPolicy questionCount passingPercent => do
    let (s, _) ← publishExamPolicy env s actor questionCount passingPercent
    return s
  | .create content publish => do
    let (s, _) ← createExamQuestion env s actor content publish
    return s
  | .publish question => do
    let (s, _) ← publishExamQuestion env s actor question
    return s
  | .copy question => do
    let (s, _) ← copyExamQuestionToDraft env s actor question
    return s
  | .replace question content => do
    let (s, _) ← replaceExamQuestion env s actor question content
    return s
  | .retire question => do
    let (s, _) ← retireExamQuestion env s actor question
    return s

end LiveOs.Exams
