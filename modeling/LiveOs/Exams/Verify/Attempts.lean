import LiveOs.Exams.Attempts
import LiveOs.Roles.Verify.Catalog

/-!
# What starting and submitting an exam write

A start adds one open attempt with what it is graded by. A submission closes the attempt it is made
for; it grants a term only after the grading, and links it unless another attempt has it.
-/

namespace LiveOs.Exams

open Lib EventLedger Roles

variable {rt : Runtime} {env : ExamEnv} {s s' : ExamState rt} {member attemptPk checkedAt : Nat}
  {answers : List (String × String)} {a outcome : DeliberatorExamAttempt}

/-! ## Starting -/

/-- What a successful start writes. -/
structure Started (s s' : ExamState rt) (memberPk : Nat) (a : DeliberatorExamAttempt) : Prop where
  same : s' = { s with attempts := s'.attempts }
  rows : s'.attempts.rows = s.attempts.rows ++ [a]
  fresh : ∀ b ∈ s.attempts.rows, b.pk ≠ a.pk
  member : a.member = memberPk
  status : a.status = .inProgress
  link : a.roleAssignment = none
  total : a.totalPoints = totalPointsOf a.questionSnapshotJson
  policy : ∃ p ∈ s.policies.rows, a.policy = p.version ∧
    a.passingScore = passingScoreOf a.totalPoints p.passingPercent

theorem activePolicy_mem {policies : PolicyTable} {p : DeliberatorExamPolicy}
    (h : activePolicy policies = some p) : p ∈ policies.rows := by
  have hmem := List.mem_of_head? h
  rw [List.mem_insertionSort, List.mem_filter] at hmem
  exact hmem.1

theorem startDeliberatorExam_ok (h : startDeliberatorExam env s member = .ok (s', a)) :
    Started s s' member a := by
  unfold startDeliberatorExam at h
  split at h
  · cases h
  · rename_i row hget
    obtain ⟨-, hpk⟩ := Table.get?_eq_some.1 hget
    obtain ⟨⟨⟩, -, h⟩ := bind_eq_ok.1 h
    dsimp only at h
    split at h
    · cases h
    · rename_i policy hpolicy
      obtain ⟨-, h⟩ := rejectIf_bind_eq_ok.1 h
      obtain ⟨attempts, hinsert, h⟩ := bind_eq_ok.1 h
      obtain ⟨rfl, rfl⟩ := Prod.mk.inj (pure_eq_ok.1 h)
      obtain ⟨hrows, hfresh, -⟩ := Table.insert_ok hinsert
      exact ⟨rfl, hrows, hfresh, hpk, rfl, rfl, rfl, policy, activePolicy_mem hpolicy, rfl, rfl⟩

/-! ## Submitting -/

/-- The same attempt with the same questions and the same threshold. -/
structure SameAttempt (a b : DeliberatorExamAttempt) : Prop where
  pk : b.pk = a.pk
  attemptId : b.attemptId = a.attemptId
  member : b.member = a.member
  policy : b.policy = a.policy
  snapshot : b.questionSnapshotJson = a.questionSnapshotJson
  totalPoints : b.totalPoints = a.totalPoints
  passingScore : b.passingScore = a.passingScore

/-- The answers cover the questions and reach the threshold. -/
structure Graded (rt : Runtime) (answers : List (String × String)) (outcome : DeliberatorExamAttempt) :
    Prop where
  answersJson : outcome.answersJson = answers
  cover : answersCover answers outcome.questionSnapshotJson = true
  score : ∃ score, outcome.questionSnapshotJson.foldlM (gradeItem rt answers) 0 = .ok score ∧
    outcome.score = some score ∧ outcome.passingScore ≤ score

/-- The member may still take the exam. -/
def Candidate (env : ExamEnv) (db : Directory) (memberPk checkedAt : Nat) : Prop :=
  ∃ m ∈ db.members.rows, m.pk = memberPk ∧ assertExamCandidate db env.now m checkedAt = .ok ()

/-- What a submission does besides closing the attempt. -/
inductive SubmitEffect (env : ExamEnv) (s s' : ExamState rt) (answers : List (String × String))
    (checkedAt : Nat) (locked outcome : DeliberatorExamAttempt) : Prop
  | noTerm (roles : s'.roles = s.roles) (status : outcome.status ≠ .passed)
      (link : outcome.roleAssignment = locked.roleAssignment)
  | taken (candidate : Candidate env s.roles.db locked.member checkedAt)
      (s₁ : ExamState rt) (assignment : RoleAssignment)
      (grant : grantTerm env s locked.member checkedAt = .ok (s₁, assignment))
      (roles : s'.roles = s₁.roles) (status : outcome.status ≠ .passed)
      (link : outcome.roleAssignment = none)
      (other : ∃ b ∈ s.attempts.rows, b.roleAssignment = some assignment.pk)
  | passed (candidate : Candidate env s.roles.db locked.member checkedAt)
      (s₁ : ExamState rt) (assignment : RoleAssignment)
      (grant : grantTerm env s locked.member checkedAt = .ok (s₁, assignment))
      (roles : s'.roles = s₁.roles) (status : outcome.status = .passed)
      (link : outcome.roleAssignment = some assignment.pk)
      (free : ∀ b ∈ s.attempts.rows, b.pk ≠ locked.pk → b.roleAssignment ≠ some assignment.pk)
      (graded : Graded rt answers outcome)

/-- What a successful submission writes. -/
structure Submitted (env : ExamEnv) (s s' : ExamState rt) (member attemptPk : Nat)
    (answers : List (String × String)) (checkedAt : Nat) (locked outcome : DeliberatorExamAttempt) :
    Prop where
  mem : locked ∈ s.attempts.rows
  pk : locked.pk = attemptPk
  member : locked.member = member
  inProgress : locked.status = .inProgress
  same : SameAttempt locked outcome
  closed : outcome.status ≠ .inProgress
  submittedAt : outcome.submittedAt = some checkedAt
  rows : s'.attempts.rows = s.attempts.rows.map fun a => if a.pk = attemptPk then outcome else a
  bank : s'.questions = s.questions ∧ s'.policies = s.policies
  effect : SubmitEffect env s s' answers checkedAt locked outcome

theorem grantTerm_ok {assignment : RoleAssignment}
    (h : grantTerm env s member checkedAt = .ok (s', assignment)) :
    s' = { s with roles := s'.roles } ∧ ∃ db role, ensureCatalogRole s.roles.db roleDeliberator =
      .ok (db, role) ∧ createRoleAssignment env.role { s.roles with db := db } member role none
        (some checkedAt) (some (deliberatorTermEndAt checkedAt)) .selfApplication false =
          .ok (s'.roles, assignment) := by
  obtain ⟨⟨db, role⟩, hrole, h⟩ := bind_eq_ok.1 h
  obtain ⟨⟨roles, b⟩, hcreate, h⟩ := bind_eq_ok.1 h
  obtain ⟨rfl, rfl⟩ := Prod.mk.inj (pure_eq_ok.1 h)
  exact ⟨rfl, db, role, hrole, hcreate⟩

/-- The saved row is the outcome, if it differs from the locked row in the saved fields only. -/
theorem saveAttempt_rows {locked : DeliberatorExamAttempt} (hmem : locked ∈ s.attempts.rows)
    (hfields : outcome = { locked with
      answersJson := outcome.answersJson, score := outcome.score,
      submittedAt := outcome.submittedAt, status := outcome.status,
      roleAssignment := outcome.roleAssignment }) :
    (saveAttempt s outcome).attempts.rows =
      s.attempts.rows.map fun a => if a.pk = locked.pk then outcome else a := by
  have hpk : outcome.pk = locked.pk := by rw [hfields]
  refine List.map_congr_left fun b hb => ?_
  rw [hpk]
  split
  · rename_i hbpk
    obtain rfl := s.attempts.eq_of_pk hb hmem hbpk
    exact hfields.symm
  · rfl

theorem SameAttempt.of_fields {locked : DeliberatorExamAttempt}
    (hfields : outcome = { locked with
      answersJson := outcome.answersJson, score := outcome.score,
      submittedAt := outcome.submittedAt, status := outcome.status,
      roleAssignment := outcome.roleAssignment }) : SameAttempt locked outcome := by
  rw [hfields]
  exact ⟨rfl, rfl, rfl, rfl, rfl, rfl, rfl⟩

/-- Closing an attempt writes the outcome and nothing else of the bank. -/
theorem Submitted.of_save {locked : DeliberatorExamAttempt} {s₁ : ExamState rt}
    (hmem : locked ∈ s.attempts.rows) (hinProgress : locked.status = .inProgress)
    (hs₁ : s₁ = { s with roles := s₁.roles })
    (hfields : outcome = { locked with
      answersJson := outcome.answersJson, score := outcome.score,
      submittedAt := outcome.submittedAt, status := outcome.status,
      roleAssignment := outcome.roleAssignment })
    (hclosed : outcome.status ≠ .inProgress) (hsubmitted : outcome.submittedAt = some checkedAt)
    (heffect : SubmitEffect env s (saveAttempt s₁ outcome) answers checkedAt locked outcome) :
    Submitted env s (saveAttempt s₁ outcome) locked.member locked.pk answers checkedAt locked
      outcome := by
  refine ⟨hmem, rfl, rfl, hinProgress, .of_fields hfields, hclosed, hsubmitted, ?_, ?_, heffect⟩
  · have hmem₁ : locked ∈ s₁.attempts.rows := by
      rw [hs₁]
      exact hmem
    rw [saveAttempt_rows hmem₁ hfields, hs₁]
  · rw [hs₁]
    exact ⟨rfl, rfl⟩

theorem concludeAttempt_ok {locked graded : DeliberatorExamAttempt} {score : Int}
    (hmem : locked ∈ s.attempts.rows) (hinProgress : locked.status = .inProgress)
    (hcandidate : Candidate env s.roles.db locked.member checkedAt)
    (hgraded : graded = { locked with
      answersJson := answers, score := some score, submittedAt := some checkedAt })
    (hcover : answersCover answers locked.questionSnapshotJson = true)
    (hscore : locked.questionSnapshotJson.foldlM (gradeItem rt answers) 0 = .ok score)
    (h : concludeAttempt env s graded score checkedAt = .ok (s', outcome)) :
    Submitted env s s' locked.member locked.pk answers checkedAt locked outcome := by
  subst hgraded
  unfold concludeAttempt at h
  split at h
  · rename_i hpassed
    obtain ⟨⟨s₁, assignment⟩, hgrant, h⟩ := bind_eq_ok.1 h
    obtain ⟨⟨⟩, -, h⟩ := bind_eq_ok.1 h
    have hs₁ := (grantTerm_ok hgrant).1
    have hattempts : s₁.attempts = s.attempts := by rw [hs₁]
    split at h
    · rename_i hother
      obtain ⟨rfl, rfl⟩ := Prod.mk.inj (pure_eq_ok.1 h)
      refine .of_save hmem hinProgress hs₁ rfl (by simp) rfl
        (.taken hcandidate s₁ assignment hgrant rfl (by simp) rfl ?_)
      obtain ⟨b, hb, hlinked⟩ := List.any_eq_true.1 hother
      simp only [Bool.and_eq_true, decide_eq_true_eq] at hlinked
      exact ⟨b, hattempts ▸ hb, hlinked.1⟩
    · rename_i hother
      obtain ⟨rfl, rfl⟩ := Prod.mk.inj (pure_eq_ok.1 h)
      refine .of_save hmem hinProgress hs₁ rfl (by simp) rfl
        (.passed hcandidate s₁ assignment hgrant rfl rfl rfl ?_ ⟨rfl, hcover, score, hscore, rfl, hpassed⟩)
      intro b hb hpk hlink
      refine hother (List.any_eq_true.2 ⟨b, hattempts ▸ hb, ?_⟩)
      simp [hlink, hpk]
  · obtain ⟨⟨⟩, -, h⟩ := bind_eq_ok.1 h
    obtain ⟨rfl, rfl⟩ := Prod.mk.inj (pure_eq_ok.1 h)
    exact .of_save hmem hinProgress rfl rfl (by simp) rfl (.noTerm rfl (by simp) rfl)

/-- **Submissions.** -/
theorem submitDeliberatorExam_ok {atTime : Option Nat}
    (h : submitDeliberatorExam env s member attemptPk answers atTime = .ok (s', outcome)) :
    ∃ locked, Submitted env s s' member attemptPk answers (atTime.getD env.now) locked outcome := by
  unfold submitDeliberatorExam at h
  split at h
  · rename_i row locked hmember hlocked
    obtain ⟨hmem, rfl⟩ := Table.get?_eq_some.1 hlocked
    obtain ⟨hrow, rfl⟩ := Table.get?_eq_some.1 hmember
    obtain ⟨howner, h⟩ := rejectIf_bind_eq_ok.1 h
    obtain ⟨hinProgress, h⟩ := rejectIf_bind_eq_ok.1 h
    have hsame := not_not.1 howner
    rw [← hsame]
    refine ⟨locked, ?_⟩
    split at h
    · obtain ⟨rfl, rfl⟩ := Prod.mk.inj (Except.ok.inj h)
      exact .of_save hmem (not_not.1 hinProgress) rfl rfl (by simp) rfl (.noTerm rfl (by simp) rfl)
    · rename_i hcandidate
      obtain ⟨hcover, h⟩ := rejectIf_bind_eq_ok.1 h
      obtain ⟨score, hscore, h⟩ := bind_eq_ok.1 h
      refine concludeAttempt_ok hmem (not_not.1 hinProgress) ⟨row, hrow, hsame.symm, hcandidate⟩ rfl
        ?_ hscore h
      simpa using hcover
  · cases h
  · cases h

end LiveOs.Exams
