import LiveOs.Exams.Verify.Attempts

/-!
# Versions in the question bank

Content never changes and a retired version stays retired. One published version per question is
kept by every service but the replacement, which retires the version it is called on and publishes
another one, whichever version was published.
-/

namespace LiveOs.Exams

open Lib EventLedger Roles

variable {rt : Runtime} {env : ExamEnv} {s s' : ExamState rt} {actor : Nat}
  {questions questions' : QuestionTable}

/-! ## What the services write -/

/-- What a successful call writes to the questions. -/
inductive BankWrites (questions questions' : QuestionTable) : BankCall → Prop
  | same {c : BankCall} (rows : questions' = questions) : BankWrites questions questions' c
  | created {content : QuestionContent} {publish : Bool} (q : DeliberatorExamQuestion)
      (rows : questions'.rows = questions.rows ++ [q]) (first : q.version = 1)
      (free : ∀ r ∈ questions.rows, r.questionId = q.questionId → r.version ≠ 1) :
      BankWrites questions questions' (.create content publish)
  | published (question : DeliberatorExamQuestion) (actor now : Nat) (mem : question ∈ questions.rows)
      (draft : question.status = .draft)
      (rows : questions'.rows = (retireQuestions questions (isPublishedSibling question)).rows.map
        fun r => if r.pk = question.pk then r.publish actor now else r) :
      BankWrites questions questions' (.publish question.pk)
  | copied (question q : DeliberatorExamQuestion) (mem : question ∈ questions.rows)
      (same : q.questionId = question.questionId) (next : q.version = question.version + 1)
      (draft : q.status = .draft) (rows : questions'.rows = questions.rows ++ [q]) :
      BankWrites questions questions' (.copy question.pk)
  | replaced {content : QuestionContent} (question q : DeliberatorExamQuestion)
      (mem : question ∈ questions.rows) (same : q.questionId = question.questionId)
      (next : q.version = question.version + 1) (published : q.status = .published)
      (fresh : ∀ r ∈ questions.rows, r.pk ≠ q.pk)
      (rows : questions'.rows =
        (retireQuestions questions fun r => r.pk = question.pk).rows ++ [q]) :
      BankWrites questions questions' (.replace question.pk content)
  | retired (question : DeliberatorExamQuestion) (mem : question ∈ questions.rows)
      (rows : questions' = retireQuestions questions fun r => r.pk = question.pk) :
      BankWrites questions questions' (.retire question.pk)

theorem retireQuestions_rows {p : DeliberatorExamQuestion → Bool} :
    (retireQuestions questions p).rows =
      questions.rows.map fun q => if p q = true then { q with status := .retired } else q := rfl

/-- The bank services leave attempts, members and roles as they are. -/
structure SameExams (s s' : ExamState rt) : Prop where
  attempts : s'.attempts = s.attempts
  db : s'.roles.db = s.roles.db

/-- A state with other questions or policies. -/
structure BankOnly (s s' : ExamState rt) (questions : QuestionTable) (policies : PolicyTable) :
    Prop extends SameExams s s' where
  questions : s'.questions = questions
  policies : s'.policies = policies

theorem appendQuestionEvent_ok {now : Nat} {q : DeliberatorExamQuestion} {action : String}
    (h : appendQuestionEvent now s q actor action = .ok s') :
    BankOnly s s' s.questions s.policies := by
  obtain ⟨events, -, h⟩ := bind_eq_ok.1 h
  obtain rfl := pure_eq_ok.1 h
  exact ⟨⟨rfl, rfl⟩, rfl, rfl⟩

theorem publishExamPolicy_ok {questionCount passingPercent : Int} {policy : DeliberatorExamPolicy}
    (h : publishExamPolicy env s actor questionCount passingPercent = .ok (s', policy)) :
    BankOnly s s' s.questions s'.policies ∧
      s'.policies.rows = s.policies.rows.map DeliberatorExamPolicy.retired ++ [policy] := by
  obtain ⟨⟨⟩, -, h⟩ := bind_eq_ok.1 h
  obtain ⟨-, h⟩ := rejectIf_bind_eq_ok.1 h
  obtain ⟨-, h⟩ := rejectIf_bind_eq_ok.1 h
  obtain ⟨⟨⟩, -, h⟩ := bind_eq_ok.1 h
  obtain ⟨policies, hinsert, h⟩ := bind_eq_ok.1 h
  obtain ⟨s₁, hevent, h⟩ := bind_eq_ok.1 h
  obtain ⟨rfl, rfl⟩ := Prod.mk.inj (pure_eq_ok.1 h)
  obtain ⟨events, -, hevent⟩ := bind_eq_ok.1 hevent
  obtain rfl := pure_eq_ok.1 hevent
  exact ⟨⟨⟨rfl, rfl⟩, rfl, rfl⟩, (Table.insert_ok hinsert).1⟩

theorem createExamQuestion_ok {content : QuestionContent} {publish : Bool}
    {q : DeliberatorExamQuestion}
    (h : createExamQuestion env s actor content publish = .ok (s', q)) :
    BankOnly s s' s'.questions s.policies ∧
      BankWrites s.questions s'.questions (.create content publish) := by
  obtain ⟨⟨⟩, -, h⟩ := bind_eq_ok.1 h
  obtain ⟨⟨⟩, -, h⟩ := bind_eq_ok.1 h
  obtain ⟨questions, hinsert, h⟩ := bind_eq_ok.1 h
  obtain ⟨s₁, hevent, h⟩ := bind_eq_ok.1 h
  obtain ⟨rfl, rfl⟩ := Prod.mk.inj (pure_eq_ok.1 h)
  obtain ⟨⟨hattempts, hdb⟩, hquestions, hpolicies⟩ := appendQuestionEvent_ok hevent
  obtain ⟨hrows, -, hfree⟩ := Table.insert_ok hinsert
  refine ⟨⟨⟨hattempts, hdb⟩, rfl, hpolicies⟩, ?_⟩
  rw [hquestions]
  refine .created _ hrows rfl fun r hr hid hversion => ?_
  exact hfree (r.questionId, r.version) (by rw [hid, hversion]) r hr rfl

theorem publishExamQuestion_ok {pk : Nat} {q : DeliberatorExamQuestion}
    (h : publishExamQuestion env s actor pk = .ok (s', q)) :
    BankOnly s s' s'.questions s.policies ∧ BankWrites s.questions s'.questions (.publish pk) := by
  unfold publishExamQuestion at h
  split at h
  · cases h
  · rename_i question hget
    obtain ⟨hmem, rfl⟩ := Table.get?_eq_some.1 hget
    obtain ⟨⟨⟩, -, h⟩ := bind_eq_ok.1 h
    obtain ⟨hdraft, h⟩ := rejectIf_bind_eq_ok.1 h
    obtain ⟨⟨⟩, -, h⟩ := bind_eq_ok.1 h
    obtain ⟨s₁, hevent, h⟩ := bind_eq_ok.1 h
    obtain ⟨rfl, rfl⟩ := Prod.mk.inj (pure_eq_ok.1 h)
    obtain ⟨⟨hattempts, hdb⟩, hquestions, hpolicies⟩ := appendQuestionEvent_ok hevent
    refine ⟨⟨⟨hattempts, hdb⟩, rfl, hpolicies⟩, ?_⟩
    rw [hquestions]
    exact .published question actor env.now hmem (not_not.1 hdraft) rfl

theorem copyExamQuestionToDraft_ok {pk : Nat} {q : DeliberatorExamQuestion}
    (h : copyExamQuestionToDraft env s actor pk = .ok (s', q)) :
    BankOnly s s' s'.questions s.policies ∧ BankWrites s.questions s'.questions (.copy pk) := by
  unfold copyExamQuestionToDraft at h
  split at h
  · cases h
  · rename_i question hget
    obtain ⟨hmem, rfl⟩ := Table.get?_eq_some.1 hget
    obtain ⟨⟨⟩, -, h⟩ := bind_eq_ok.1 h
    obtain ⟨-, h⟩ := rejectIf_bind_eq_ok.1 h
    obtain ⟨questions, hinsert, h⟩ := bind_eq_ok.1 h
    obtain ⟨s₁, hevent, h⟩ := bind_eq_ok.1 h
    obtain ⟨rfl, rfl⟩ := Prod.mk.inj (pure_eq_ok.1 h)
    obtain ⟨⟨hattempts, hdb⟩, hquestions, hpolicies⟩ := appendQuestionEvent_ok hevent
    refine ⟨⟨⟨hattempts, hdb⟩, rfl, hpolicies⟩, ?_⟩
    rw [hquestions]
    refine .copied question _ hmem ?_ ?_ ?_ (Table.insert_ok hinsert).1 <;> rfl

theorem mem_retireQuestions {p : DeliberatorExamQuestion → Bool} {q : DeliberatorExamQuestion}
    (hq : q ∈ questions.rows) : ∃ q' ∈ (retireQuestions questions p).rows, q'.pk = q.pk := by
  refine ⟨_, List.mem_map_of_mem hq, ?_⟩
  split <;> rfl

theorem replaceExamQuestion_ok {pk : Nat} {content : QuestionContent} {q : DeliberatorExamQuestion}
    (h : replaceExamQuestion env s actor pk content = .ok (s', q)) :
    BankOnly s s' s'.questions s.policies ∧
      BankWrites s.questions s'.questions (.replace pk content) := by
  unfold replaceExamQuestion at h
  split at h
  · cases h
  · rename_i question hget
    obtain ⟨hmem, rfl⟩ := Table.get?_eq_some.1 hget
    obtain ⟨⟨⟩, -, h⟩ := bind_eq_ok.1 h
    obtain ⟨⟨⟩, -, h⟩ := bind_eq_ok.1 h
    obtain ⟨questions, hinsert, h⟩ := bind_eq_ok.1 h
    obtain ⟨s₁, hretired, h⟩ := bind_eq_ok.1 h
    obtain ⟨s₂, hreplaced, h⟩ := bind_eq_ok.1 h
    obtain ⟨rfl, rfl⟩ := Prod.mk.inj (pure_eq_ok.1 h)
    obtain ⟨⟨hattempts, hdb⟩, hquestions, hpolicies⟩ := appendQuestionEvent_ok hretired
    obtain ⟨⟨hattempts', hdb'⟩, hquestions', hpolicies'⟩ := appendQuestionEvent_ok hreplaced
    refine ⟨⟨⟨hattempts'.trans hattempts, hdb'.trans hdb⟩, rfl, hpolicies'.trans hpolicies⟩, ?_⟩
    rw [hquestions', hquestions]
    obtain ⟨hrows, hfresh, -⟩ := Table.insert_ok hinsert
    refine .replaced question _ hmem ?_ ?_ ?_ (fun r hr heq => ?_) hrows
    · rfl
    · rfl
    · rfl
    · obtain ⟨r', hr', hpk⟩ := mem_retireQuestions hr
      exact hfresh r' hr' (hpk.trans heq)

theorem retireExamQuestion_ok {pk : Nat} {q : DeliberatorExamQuestion}
    (h : retireExamQuestion env s actor pk = .ok (s', q)) :
    BankOnly s s' s'.questions s.policies ∧ BankWrites s.questions s'.questions (.retire pk) := by
  unfold retireExamQuestion at h
  split at h
  · cases h
  · rename_i question hget
    obtain ⟨hmem, rfl⟩ := Table.get?_eq_some.1 hget
    obtain ⟨⟨⟩, -, h⟩ := bind_eq_ok.1 h
    dsimp only at h
    split at h
    · obtain ⟨rfl, -⟩ := Prod.mk.inj (pure_eq_ok.1 h)
      exact ⟨⟨⟨rfl, rfl⟩, rfl, rfl⟩, .same rfl⟩
    · obtain ⟨s₁, hevent, h⟩ := bind_eq_ok.1 h
      obtain ⟨rfl, rfl⟩ := Prod.mk.inj (pure_eq_ok.1 h)
      obtain ⟨⟨hattempts, hdb⟩, hquestions, hpolicies⟩ := appendQuestionEvent_ok hevent
      refine ⟨⟨⟨hattempts, hdb⟩, rfl, hpolicies⟩, ?_⟩
      rw [hquestions]
      exact .retired question hmem rfl

/-- **The bank services.** -/
theorem bankStep_ok {c : BankCall} (h : bankStep env s actor c = .ok s') :
    SameExams s s' ∧ BankWrites s.questions s'.questions c ∧
      (s'.policies = s.policies ∨
        ∃ p, s'.policies.rows = s.policies.rows.map DeliberatorExamPolicy.retired ++ [p]) := by
  cases c with
  | publishPolicy questionCount passingPercent =>
    obtain ⟨⟨s₁, p⟩, hcall, hrest⟩ := bind_eq_ok.1 h
    obtain rfl := pure_eq_ok.1 hrest
    obtain ⟨hbank, hrows⟩ := publishExamPolicy_ok hcall
    exact ⟨hbank.toSameExams, .same hbank.questions, .inr ⟨p, hrows⟩⟩
  | create content publish =>
    obtain ⟨⟨s₁, q⟩, hcall, hrest⟩ := bind_eq_ok.1 h
    obtain rfl := pure_eq_ok.1 hrest
    obtain ⟨hbank, hwrites⟩ := createExamQuestion_ok hcall
    exact ⟨hbank.toSameExams, hwrites, .inl hbank.policies⟩
  | publish question =>
    obtain ⟨⟨s₁, q⟩, hcall, hrest⟩ := bind_eq_ok.1 h
    obtain rfl := pure_eq_ok.1 hrest
    obtain ⟨hbank, hwrites⟩ := publishExamQuestion_ok hcall
    exact ⟨hbank.toSameExams, hwrites, .inl hbank.policies⟩
  | copy question =>
    obtain ⟨⟨s₁, q⟩, hcall, hrest⟩ := bind_eq_ok.1 h
    obtain rfl := pure_eq_ok.1 hrest
    obtain ⟨hbank, hwrites⟩ := copyExamQuestionToDraft_ok hcall
    exact ⟨hbank.toSameExams, hwrites, .inl hbank.policies⟩
  | replace question content =>
    obtain ⟨⟨s₁, q⟩, hcall, hrest⟩ := bind_eq_ok.1 h
    obtain rfl := pure_eq_ok.1 hrest
    obtain ⟨hbank, hwrites⟩ := replaceExamQuestion_ok hcall
    exact ⟨hbank.toSameExams, hwrites, .inl hbank.policies⟩
  | retire question =>
    obtain ⟨⟨s₁, q⟩, hcall, hrest⟩ := bind_eq_ok.1 h
    obtain rfl := pure_eq_ok.1 hrest
    obtain ⟨hbank, hwrites⟩ := retireExamQuestion_ok hcall
    exact ⟨hbank.toSameExams, hwrites, .inl hbank.policies⟩

/-! ## Rows that change -/

/-- The row is the same version with the same content, and stays retired. -/
structure QuestionKeeps (q q' : DeliberatorExamQuestion) : Prop where
  pk : q'.pk = q.pk
  questionId : q'.questionId = q.questionId
  version : q'.version = q.version
  prompt : q'.prompt = q.prompt
  optionsJson : q'.optionsJson = q.optionsJson
  correctOptionId : q'.correctOptionId = q.correctOptionId
  points : q'.points = q.points
  retired : q.status = .retired → q'.status = .retired

theorem QuestionKeeps.refl (q : DeliberatorExamQuestion) : QuestionKeeps q q :=
  ⟨rfl, rfl, rfl, rfl, rfl, rfl, rfl, id⟩

theorem QuestionKeeps.trans {q₁ q₂ q₃ : DeliberatorExamQuestion} (h : QuestionKeeps q₁ q₂)
    (h' : QuestionKeeps q₂ q₃) : QuestionKeeps q₁ q₃ :=
  ⟨h'.pk.trans h.pk, h'.questionId.trans h.questionId, h'.version.trans h.version,
    h'.prompt.trans h.prompt, h'.optionsJson.trans h.optionsJson,
    h'.correctOptionId.trans h.correctOptionId, h'.points.trans h.points,
    fun hretired => h'.retired (h.retired hretired)⟩

theorem QuestionKeeps.retire (q : DeliberatorExamQuestion) (p : DeliberatorExamQuestion → Bool) :
    QuestionKeeps q (if p q = true then { q with status := .retired } else q) := by
  split
  · exact ⟨rfl, rfl, rfl, rfl, rfl, rfl, rfl, fun _ => rfl⟩
  · exact .refl q

theorem QuestionKeeps.publish {q : DeliberatorExamQuestion} {actor now : Nat}
    (hdraft : q.status ≠ .retired) : QuestionKeeps q (q.publish actor now) :=
  ⟨rfl, rfl, rfl, rfl, rfl, rfl, rfl, fun hretired => absurd hretired hdraft⟩

variable {c : BankCall}

/-- No call removes a row. -/
theorem BankWrites.keeps (h : BankWrites questions questions' c) {q : DeliberatorExamQuestion}
    (hq : q ∈ questions.rows) : ∃ q' ∈ questions'.rows, QuestionKeeps q q' := by
  cases h with
  | same rows => exact ⟨q, rows ▸ hq, .refl q⟩
  | created r rows => exact ⟨q, rows ▸ List.mem_append_left _ hq, .refl q⟩
  | published question actor now mem draft rows =>
    by_cases hpk : q.pk = question.pk
    · -- the row that is published is the draft itself
      obtain rfl := questions.eq_of_pk hq mem hpk
      have hsibling : ¬ isPublishedSibling q q = true := by simp [isPublishedSibling]
      refine ⟨q.publish actor now, ?_, .publish ?_⟩
      · rw [rows]
        exact List.mem_map.2 ⟨q, List.mem_map.2 ⟨q, hq, if_neg hsibling⟩, if_pos rfl⟩
      · rw [draft]
        decide
    · have hkeeps := QuestionKeeps.retire q (isPublishedSibling question)
      refine ⟨_, ?_, hkeeps⟩
      rw [rows]
      refine List.mem_map.2 ⟨_, List.mem_map_of_mem hq, if_neg fun heq => hpk ?_⟩
      exact hkeeps.pk.symm.trans heq
  | copied question r mem same next draft rows =>
    exact ⟨q, rows ▸ List.mem_append_left _ hq, .refl q⟩
  | replaced question r mem same next published fresh rows =>
    refine ⟨_, ?_, .retire q fun r => r.pk = question.pk⟩
    rw [rows]
    exact List.mem_append_left _ (List.mem_map_of_mem hq)
  | retired question mem rows =>
    refine ⟨_, ?_, .retire q fun r => r.pk = question.pk⟩
    rw [rows]
    exact List.mem_map_of_mem hq

/-! ## One published version -/

/-- At most one version of a question is published. -/
def OnePublished (questions : QuestionTable) : Prop :=
  ∀ q ∈ questions.rows, ∀ r ∈ questions.rows, q.questionId = r.questionId →
    q.status = .published → r.status = .published → q = r

/-- Every question has its first version. -/
def FirstVersions (questions : QuestionTable) : Prop :=
  ∀ q ∈ questions.rows, ∃ r ∈ questions.rows, r.questionId = q.questionId ∧ r.version = 1

/-- No other version of the question is published. -/
def NoOtherPublished (questions : QuestionTable) (questionPk : Nat) : Prop :=
  ∀ question ∈ questions.rows, question.pk = questionPk → ∀ r ∈ questions.rows,
    isPublishedSibling question r = false

theorem mem_retireQuestions_published {p : DeliberatorExamQuestion → Bool}
    {q : DeliberatorExamQuestion} (hq : q.status = .published) :
    q ∈ (retireQuestions questions p).rows ↔ q ∈ questions.rows ∧ p q = false := by
  rw [retireQuestions_rows, Table.mem_map_update, or_iff_left]
  rintro ⟨r, -, -, rfl⟩
  cases hq

theorem OnePublished.retire (h : OnePublished questions) {p : DeliberatorExamQuestion → Bool} :
    OnePublished (retireQuestions questions p) := by
  intro q hq r hr hid hpublished hpublished'
  obtain ⟨hq, -⟩ := (mem_retireQuestions_published hpublished).1 hq
  obtain ⟨hr, -⟩ := (mem_retireQuestions_published hpublished').1 hr
  exact h q hq r hr hid hpublished hpublished'

theorem isPublishedSibling_eq_true {question q : DeliberatorExamQuestion} :
    isPublishedSibling question q = true ↔
      q.questionId = question.questionId ∧ q.status = .published ∧ q.pk ≠ question.pk := by
  simp [isPublishedSibling, and_assoc]

theorem OnePublished.append (h : OnePublished questions) {q : DeliberatorExamQuestion}
    (hrows : questions'.rows = questions.rows ++ [q])
    (hfree : q.status = .published → ∀ r ∈ questions.rows, r.questionId = q.questionId →
      r.status ≠ .published) : OnePublished questions' := by
  intro x hx y hy hid hpublished hpublished'
  rw [hrows, List.mem_append, List.mem_singleton] at hx hy
  rcases hx with hx | rfl
  · rcases hy with hy | rfl
    · exact h x hx y hy hid hpublished hpublished'
    · exact absurd hpublished (hfree hpublished' x hx hid)
  · rcases hy with hy | rfl
    · exact absurd hpublished' (hfree hpublished y hy hid.symm)
    · rfl

theorem OnePublished.publish (h : OnePublished questions) {question : DeliberatorExamQuestion}
    {actor now : Nat} (hmem : question ∈ questions.rows)
    (hrows : questions'.rows = (retireQuestions questions (isPublishedSibling question)).rows.map
      fun r => if r.pk = question.pk then r.publish actor now else r) : OnePublished questions' := by
  have hretire := OnePublished.retire h (p := isPublishedSibling question)
  -- a published row is the one that was published now, or one of another question
  have horigin : ∀ x ∈ questions'.rows, x.status = .published →
      x = question.publish actor now ∨
        x ∈ (retireQuestions questions (isPublishedSibling question)).rows ∧
          x.questionId ≠ question.questionId := by
    intro x hx hpublished
    rw [hrows, List.mem_map] at hx
    obtain ⟨r, hr, rfl⟩ := hx
    by_cases hpk : r.pk = question.pk
    · rw [if_pos hpk]
      obtain ⟨q, hq, rfl⟩ := List.mem_map.1 hr
      have hkeeps := QuestionKeeps.retire q (isPublishedSibling question)
      obtain rfl : q = question := questions.eq_of_pk hq hmem (hkeeps.pk.symm.trans hpk)
      have hsibling : isPublishedSibling q q = false := by simp [isPublishedSibling]
      rw [if_neg (Bool.eq_false_iff.1 hsibling)]
      exact .inl rfl
    · rw [if_neg hpk] at hpublished ⊢
      refine .inr ⟨hr, fun hid => ?_⟩
      obtain ⟨-, hsibling⟩ := (mem_retireQuestions_published hpublished).1 hr
      rw [isPublishedSibling_eq_true.2 ⟨hid, hpublished, hpk⟩] at hsibling
      cases hsibling
  intro x hx y hy hid hpublished hpublished'
  rcases horigin x hx hpublished with rfl | ⟨hx, hother⟩
  · rcases horigin y hy hpublished' with rfl | ⟨hy, hother'⟩
    · rfl
    · exact absurd hid.symm hother'
  · rcases horigin y hy hpublished' with rfl | ⟨hy, hother'⟩
    · exact absurd hid hother
    · exact hretire x hx y hy hid hpublished hpublished'

/-- A successful replacement keeps one published version exactly if no other one was published. -/
theorem replaced_onePublished_iff (h : OnePublished questions) {question q : DeliberatorExamQuestion}
    (hmem : question ∈ questions.rows) (hid : q.questionId = question.questionId)
    (hpublished : q.status = .published) (hfresh : ∀ r ∈ questions.rows, r.pk ≠ q.pk)
    (hrows : questions'.rows =
      (retireQuestions questions fun r => r.pk = question.pk).rows ++ [q]) :
    OnePublished questions' ↔ NoOtherPublished questions question.pk := by
  constructor
  · intro hone x hx hpk r hr
    obtain rfl := questions.eq_of_pk hx hmem hpk
    by_contra hsibling
    obtain ⟨hrid, hrpublished, hrpk⟩ := isPublishedSibling_eq_true.1 (Bool.not_eq_false _ ▸ hsibling)
    have hr' : r ∈ questions'.rows := by
      rw [hrows]
      refine List.mem_append_left _ ((mem_retireQuestions_published hrpublished).2 ⟨hr, ?_⟩)
      exact decide_eq_false hrpk
    have hq' : q ∈ questions'.rows := by
      rw [hrows]
      exact List.mem_append_right _ (List.mem_singleton_self q)
    have hsame := hone r hr' q hq' (hrid.trans hid.symm) hrpublished hpublished
    exact hfresh r hr (congrArg DeliberatorExamQuestion.pk hsame)
  · intro hno
    refine OnePublished.append h.retire hrows fun _ r hr hrid hrpublished => ?_
    obtain ⟨hr, hpk⟩ := (mem_retireQuestions_published hrpublished).1 hr
    have hsibling := hno question hmem rfl r hr
    rw [isPublishedSibling_eq_true.2 ⟨hrid.trans hid, hrpublished, of_decide_eq_false hpk⟩]
      at hsibling
    cases hsibling

theorem BankWrites.firstVersions (h : BankWrites questions questions' c)
    (hfirst : FirstVersions questions) : FirstVersions questions' := by
  -- a row is a first version, or there was a row of its question before
  have horigin : ∀ x ∈ questions'.rows, x.version = 1 ∨
      ∃ q ∈ questions.rows, q.questionId = x.questionId := by
    intro x hx
    cases h with
    | same rows => exact .inr ⟨x, rows ▸ hx, rfl⟩
    | created q rows first free =>
      rw [rows, List.mem_append, List.mem_singleton] at hx
      rcases hx with hx | rfl
      · exact .inr ⟨x, hx, rfl⟩
      · exact .inl first
    | published question actor now mem draft rows =>
      rw [rows, List.mem_map] at hx
      obtain ⟨r, hr, rfl⟩ := hx
      obtain ⟨q, hq, hqr⟩ := List.mem_map.1 hr
      have hid : r.questionId = q.questionId :=
        hqr ▸ (QuestionKeeps.retire q (isPublishedSibling question)).questionId
      refine .inr ⟨q, hq, ?_⟩
      split <;> exact hid.symm
    | copied question q mem same next draft rows =>
      rw [rows, List.mem_append, List.mem_singleton] at hx
      rcases hx with hx | rfl
      · exact .inr ⟨x, hx, rfl⟩
      · exact .inr ⟨question, mem, same.symm⟩
    | replaced question q mem same next published fresh rows =>
      rw [rows, List.mem_append, List.mem_singleton] at hx
      rcases hx with hx | rfl
      · obtain ⟨q, hq, rfl⟩ := List.mem_map.1 hx
        exact .inr ⟨q, hq, (QuestionKeeps.retire q fun r => r.pk = question.pk).questionId.symm⟩
      · exact .inr ⟨question, mem, same.symm⟩
    | retired question mem rows =>
      rw [rows] at hx
      obtain ⟨q, hq, rfl⟩ := List.mem_map.1 hx
      exact .inr ⟨q, hq, (QuestionKeeps.retire q fun r => r.pk = question.pk).questionId.symm⟩
  intro x hx
  rcases horigin x hx with hversion | ⟨q, hq, hid⟩
  · exact ⟨x, hx, rfl, hversion⟩
  · obtain ⟨r, hr, hrid, hrversion⟩ := hfirst q hq
    obtain ⟨r', hr', hkeeps⟩ := h.keeps hr
    exact ⟨r', hr', hkeeps.questionId.trans (hrid.trans hid), hkeeps.version.trans hrversion⟩

/-- A replacement is made while no other version is published. -/
def BankCallClear (questions : QuestionTable) : BankCall → Prop
  | .replace question _ => NoOtherPublished questions question
  | _ => True

theorem BankWrites.onePublished (h : BankWrites questions questions' c)
    (hfirst : FirstVersions questions) (hone : OnePublished questions)
    (hclear : BankCallClear questions c) : OnePublished questions' := by
  cases h with
  | same rows => exact rows ▸ hone
  | created q rows first free =>
    refine hone.append rows fun _ r hr hid => ?_
    obtain ⟨r₁, hr₁, hid₁, hversion⟩ := hfirst r hr
    exact absurd hversion (free r₁ hr₁ (hid₁.trans hid))
  | published question actor now mem draft rows => exact hone.publish mem rows
  | copied question q mem same next draft rows =>
    refine hone.append rows fun hpublished => ?_
    rw [draft] at hpublished
    cases hpublished
  | replaced question q mem same next published fresh rows =>
    exact (replaced_onePublished_iff hone mem same published fresh rows).2 hclear
  | retired question mem rows => exact rows ▸ hone.retire

/-! ## Histories -/

/-- The bank services meet their condition; the other calls are free. -/
def ExamCallClear (s : ExamState rt) (c : ExamEnv × ExamCall) : Prop :=
  match c.2 with
  | .bank _ call => BankCallClear s.questions call
  | _ => True

/-- Every call but those of the bank leaves it as it is. -/
theorem examStep_bank {c : ExamEnv × ExamCall} (h : examStep s c = .ok s') :
    (∃ actor call, c.2 = .bank actor call ∧ bankStep c.1 s actor call = .ok s') ∨
      s'.questions = s.questions ∧ s'.policies = s.policies := by
  obtain ⟨env, c⟩ := c
  cases c with
  | bank actor call => exact .inl ⟨actor, call, rfl, h⟩
  | start member =>
    obtain ⟨⟨s₁, a⟩, hcall, hrest⟩ := bind_eq_ok.1 h
    obtain rfl := pure_eq_ok.1 hrest
    have hsame := (startDeliberatorExam_ok hcall).same
    rw [hsame]
    exact .inr ⟨rfl, rfl⟩
  | submit member attempt answers atTime =>
    obtain ⟨⟨s₁, a⟩, hcall, hrest⟩ := bind_eq_ok.1 h
    obtain rfl := pure_eq_ok.1 hrest
    obtain ⟨locked, hsubmitted⟩ := submitDeliberatorExam_ok hcall
    exact .inr hsubmitted.bank
  | grant member role grantedBy startAt endAt sourceType skipValidation =>
    obtain ⟨roles, -, hrest⟩ := bind_eq_ok.1 h
    obtain rfl := pure_eq_ok.1 hrest
    exact .inr ⟨rfl, rfl⟩
  | revoke assignment revokedBy endAt =>
    obtain ⟨roles, -, hrest⟩ := bind_eq_ok.1 h
    obtain rfl := pure_eq_ok.1 hrest
    exact .inr ⟨rfl, rfl⟩
  | members members rolePermissions =>
    obtain rfl := Except.ok.inj h
    exact .inr ⟨rfl, rfl⟩

/-- The bank is in order: one published version of each question, and a first version. -/
structure SoundBank (questions : QuestionTable) : Prop where
  one : OnePublished questions
  first : FirstVersions questions

theorem examStep_soundBank {c : ExamEnv × ExamCall} (hsound : SoundBank s.questions)
    (hclear : ExamCallClear s c) (h : examStep s c = .ok s') : SoundBank s'.questions := by
  rcases examStep_bank h with ⟨actor, call, hcall, hstep⟩ | ⟨hquestions, -⟩
  · rw [ExamCallClear, hcall] at hclear
    obtain ⟨-, hwrites, -⟩ := bankStep_ok hstep
    exact ⟨hwrites.onePublished hsound.first hsound.one hclear,
      hwrites.firstVersions hsound.first⟩
  · rwa [hquestions]

/-- Every question row is still there with its content. -/
def QuestionsKept (s s' : ExamState rt) : Prop :=
  ∀ q ∈ s.questions.rows, ∃ q' ∈ s'.questions.rows, QuestionKeeps q q'

theorem QuestionsKept.refl (s : ExamState rt) : QuestionsKept s s := fun q hq => ⟨q, hq, .refl q⟩

theorem QuestionsKept.trans {s₁ s₂ s₃ : ExamState rt} (h : QuestionsKept s₁ s₂)
    (h' : QuestionsKept s₂ s₃) : QuestionsKept s₁ s₃ := by
  intro q hq
  obtain ⟨q₂, hq₂, hkeeps⟩ := h q hq
  obtain ⟨q₃, hq₃, hkeeps'⟩ := h' q₂ hq₂
  exact ⟨q₃, hq₃, hkeeps.trans hkeeps'⟩

theorem examStep_questionsKept {c : ExamEnv × ExamCall} (h : examStep s c = .ok s') :
    QuestionsKept s s' := by
  intro q hq
  rcases examStep_bank h with ⟨actor, call, -, hstep⟩ | ⟨hquestions, -⟩
  · exact (bankStep_ok hstep).2.1.keeps hq
  · exact ⟨q, hquestions ▸ hq, .refl q⟩

theorem questionsKept_run (s : ExamState rt) (cs : List (ExamEnv × ExamCall)) :
    QuestionsKept s (runCalls examStep s cs) := by
  have hcs : EachCall examStep (fun _ _ => True) s cs := EachCall.of_forall _ fun _ _ _ => trivial
  exact EachCall.rel (R := QuestionsKept) QuestionsKept.refl (fun _ _ _ => QuestionsKept.trans)
    (fun _ _ _ _ _ _ => trivial) (fun _ _ _ _ _ => examStep_questionsKept) trivial hcs

/-- What holds over a history of the question bank. -/
structure BankHistory (s : ExamState rt) (cs : List (ExamEnv × ExamCall)) : Prop where
  /-- At most one version of a question is published. -/
  published : ∀ before after, cs = before ++ after →
    OnePublished (runCalls examStep s before).questions
  versions : ∀ before after, cs = before ++ after →
    ∀ q ∈ (runCalls examStep s before).questions.rows,
    ∀ r ∈ (runCalls examStep s before).questions.rows,
      q.questionId = r.questionId → q.version = r.version → q = r
  /-- A published row keeps its content. -/
  frozen : ∀ before after, cs = before ++ after →
    ∀ q ∈ (runCalls examStep s before).questions.rows, q.status = .published →
    ∀ q' ∈ (runCalls examStep s cs).questions.rows, q'.pk = q.pk →
      q'.prompt = q.prompt ∧ q'.optionsJson = q.optionsJson ∧
        q'.correctOptionId = q.correctOptionId ∧ q'.points = q.points
  /-- A retired row is never published again. -/
  retired : ∀ before after, cs = before ++ after →
    ∀ q ∈ (runCalls examStep s before).questions.rows, q.status = .retired →
    ∀ q' ∈ (runCalls examStep s cs).questions.rows, q'.pk = q.pk → q'.status = .retired
  policy : ∀ before after, cs = before ++ after →
    ∀ p ∈ (runCalls examStep s before).policies.rows,
    ∀ p' ∈ (runCalls examStep s before).policies.rows,
      p.status = .active → p'.status = .active → p = p'

/-- **The question bank over histories.** -/
theorem examRun_bankHistory (s : ExamState rt) (hsound : SoundBank s.questions)
    (cs : List (ExamEnv × ExamCall)) (hcs : EachCall examStep ExamCallClear s cs) :
    BankHistory s cs := by
  have hinv : ∀ (s : ExamState rt) c s', SoundBank s.questions → ExamCallClear s c →
      examStep s c = .ok s' → SoundBank s'.questions := fun _ _ _ => examStep_soundBank
  have hkept : ∀ before after, cs = before ++ after →
      ∀ q ∈ (runCalls examStep s before).questions.rows,
      ∀ q' ∈ (runCalls examStep s cs).questions.rows, q'.pk = q.pk → QuestionKeeps q q' := by
    rintro before after rfl q hq q' hq' hpk
    rw [runCalls_append] at hq'
    obtain ⟨r, hr, hkeeps⟩ := questionsKept_run _ after q hq
    rwa [Table.eq_of_pk _ hq' hr (hpk.trans hkeeps.pk.symm)]
  refine ⟨?_, ?_, ?_, ?_, ?_⟩
  · rintro before after rfl
    have hbefore : SoundBank (runCalls examStep s before).questions :=
      EachCall.invariant hinv hsound hcs.of_append.1
    exact hbefore.one
  · intro before after _ q hq r hr hid hversion
    exact Table.eq_of_alt _ hq hr (a := (r.questionId, r.version)) (by rw [hid, hversion]) rfl
  · intro before after happend q hq _ q' hq' hpk
    have hkeeps := hkept before after happend q hq q' hq' hpk
    exact ⟨hkeeps.prompt, hkeeps.optionsJson, hkeeps.correctOptionId, hkeeps.points⟩
  · intro before after happend q hq hretired q' hq' hpk
    exact (hkept before after happend q hq q' hq' hpk).retired hretired
  · intro before after _ p hp p' hp' hactive hactive'
    exact Table.eq_of_alt _ hp hp' (a := 1) (if_pos hactive) (if_pos hactive')

/-! ## A replaced draft -/

/-- A covenanter who keeps the question bank. -/
def examiner : Member := ⟨91, "m-91", none, "", .active, []⟩

def examinerDirectory : Directory where
  members := ⟨[examiner], List.nodup_singleton _, List.nodup_singleton _⟩
  organizations := ⟨[⟨92, roleCatalogOrganizationName, some roleCatalogOrganizationKey, .active⟩],
    List.nodup_singleton _, List.nodup_singleton _⟩
  roles := ⟨[⟨93, 92, roleCovenanter, "", .active⟩, ⟨94, 95, "题库维护", "", .active⟩], by decide,
    by decide⟩
  assignments := ⟨[⟨96, 91, 93, .active, 0, 1000, none, none, .direct⟩,
    ⟨97, 91, 94, .active, 0, 1000, none, none, .direct⟩], by decide, List.nodup_nil⟩
  rolePermissions := [⟨94, deliberatorExamManagePermission⟩]
  domains := Table.empty
  qualifications := Table.empty

def emptyBank : ExamState textRuntime where
  roles := ⟨examinerDirectory, Table.empty, Table.empty, Journal.empty⟩
  policies := Table.empty
  questions := Table.empty
  attempts := Table.empty

theorem emptyBank_sound : SoundBank emptyBank.questions := by
  constructor
  · intro q hq
    cases hq
  · intro q hq
    cases hq

def termQuestion : QuestionContent where
  prompt := "任期多久？"
  options := .arr [.obj [("id", .str "a"), ("text", .str "一年")],
    .obj [("id", .str "b"), ("text", .str "两年")]]
  correctOptionId := "a"
  points := 1
  explanation := ""

def bankEnv (now : Nat) : ExamEnv := ⟨now, toString now, toString now, fun questions _ => questions⟩

/-- A question is published, copied to a draft, and the draft is replaced. -/
def draftReplacement : List (ExamEnv × ExamCall) := [
  (bankEnv 1, .bank 91 (.create termQuestion true)),
  (bankEnv 2, .bank 91 (.copy 1)),
  (bankEnv 3, .bank 91 (.replace 2 termQuestion))]

/-- Versions 1 and 3 are both published. -/
theorem draftReplacement_twoPublished : ¬ ∀ s : ExamState textRuntime, s.questions.rows = [] →
    s.policies.rows = [] → ∀ cs : List (ExamEnv × ExamCall),
    (∀ c ∈ cs, ∃ actor call, c.2 = .bank actor call) → BankHistory s cs := by
  intro hclaim
  have hhistory := hclaim emptyBank rfl rfl draftReplacement
    (by simp [draftReplacement])
  have hone := hhistory.published draftReplacement [] rfl
  have hpublished : ((runCalls examStep emptyBank draftReplacement).questions.rows.filter
      fun q => q.status = .published).map (fun q => (q.questionId, q.version)) =
      [("delib-question-1", 1), ("delib-question-1", 3)] := by
    decide +kernel
  have hmem : ∀ v : String × Nat, v ∈ [("delib-question-1", 1), ("delib-question-1", 3)] →
      ∃ q ∈ (runCalls examStep emptyBank draftReplacement).questions.rows,
        q.status = .published ∧ (q.questionId, q.version) = v := by
    intro v hv
    rw [← hpublished] at hv
    obtain ⟨q, hq, rfl⟩ := List.mem_map.1 hv
    obtain ⟨hq, hstatus⟩ := List.mem_filter.1 hq
    exact ⟨q, hq, of_decide_eq_true hstatus, rfl⟩
  obtain ⟨q, hq, hqpublished, hqv⟩ := hmem ("delib-question-1", 1) List.mem_cons_self
  obtain ⟨r, hr, hrpublished, hrv⟩ := hmem ("delib-question-1", 3)
    (List.mem_cons_of_mem _ List.mem_cons_self)
  obtain ⟨hqid, hqversion⟩ := Prod.mk.inj hqv
  obtain ⟨hrid, hrversion⟩ := Prod.mk.inj hrv
  rw [hone q hq r hr (hqid.trans hrid.symm) hqpublished hrpublished, hrversion] at hqversion
  cases hqversion

/-- The published version is replaced. -/
theorem publishedReplacement_history : BankHistory emptyBank
    [(bankEnv 1, .bank 91 (.create termQuestion true)),
      (bankEnv 2, .bank 91 (.replace 1 termQuestion))] := by
  refine examRun_bankHistory emptyBank emptyBank_sound _ ⟨trivial, ?_, trivial⟩
  intro question hquestion hpk r hr
  have hpks : ∀ r ∈ (afterCall examStep emptyBank
      (bankEnv 1, .bank 91 (.create termQuestion true))).questions.rows, r.pk = 1 := by
    decide +kernel
  simp [isPublishedSibling, hpks r hr, hpk]

end LiveOs.Exams
