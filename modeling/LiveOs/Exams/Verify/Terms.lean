import LiveOs.Exams.Verify.QuestionBank
import LiveOs.Roles.Verify.Grants

/-!
# Terms granted by the exam

An attempt is closed once and keeps what it was graded by. The term of a passed attempt is new
unless the member already has an active one that ends later, which the grant then reuses although
it does not start with the submission.
-/

namespace LiveOs.Exams

open Lib EventLedger Roles

variable {rt : Runtime} {env : ExamEnv} {s s' : ExamState rt} {checkedAt : Nat}
  {answers : List (String × String)} {a outcome : DeliberatorExamAttempt}

/-! ## Rows that stay -/

/-- Assignments are still there for their member and role, from their start on. -/
def AssignmentsKept (db db' : Directory) : Prop :=
  ∀ t ∈ db.assignments.rows, ∃ t' ∈ db'.assignments.rows, t'.pk = t.pk ∧ t'.member = t.member ∧
    t'.role = t.role ∧ t'.startAt = t.startAt

theorem AssignmentsKept.of_same {db db' : Directory} (h : db'.assignments = db.assignments) :
    AssignmentsKept db db' := fun t ht => ⟨t, h ▸ ht, rfl, rfl, rfl, rfl⟩

theorem AssignmentsKept.trans {db₁ db₂ db₃ : Directory} (h : AssignmentsKept db₁ db₂)
    (h' : AssignmentsKept db₂ db₃) : AssignmentsKept db₁ db₃ := by
  intro t ht
  obtain ⟨t₂, ht₂, hpk, hmember, hrole, hstart⟩ := h t ht
  obtain ⟨t₃, ht₃, hpk', hmember', hrole', hstart'⟩ := h' t₂ ht₂
  exact ⟨t₃, ht₃, hpk'.trans hpk, hmember'.trans hmember, hrole'.trans hrole,
    hstart'.trans hstart⟩

theorem expireAssignments_kept {db : Directory} {memberPk rolePk startsAt : Nat} :
    AssignmentsKept db (expireAssignments db memberPk rolePk startsAt) := by
  intro t ht
  refine ⟨_, List.mem_map_of_mem ht, ?_⟩
  split <;> exact ⟨rfl, rfl, rfl, rfl⟩

theorem createRoleAssignment_kept {renv : RoleEnv} {roles roles' : RoleState rt} {member : Nat}
    {role : Role} {grantedBy startAt endAt : Option Nat} {sourceType : SourceType}
    {skipValidation : Bool} {t : RoleAssignment}
    (h : createRoleAssignment renv roles member role grantedBy startAt endAt sourceType
      skipValidation = .ok (roles', t)) :
    AssignmentsKept roles.db roles'.db ∧ RolesKept roles.db roles'.db := by
  have hexpire : AssignmentsKept roles.db (expireAssignments roles.db member role.pk
      (startAt.getD renv.now)) := expireAssignments_kept
  cases createRoleAssignment_ok h with
  | reused mem current same =>
    rw [same]
    exact ⟨hexpire, .of_same rfl rfl⟩
  | created rows fresh free row window same =>
    refine ⟨hexpire.trans fun u hu => ?_, .of_same same.roles same.organizations⟩
    exact ⟨u, rows ▸ List.mem_append_left _ hu, rfl, rfl, rfl, rfl⟩

theorem revokeRoleAssignment_kept {renv : RoleEnv} {roles roles' : RoleState rt} {pk : Nat}
    {revokedBy endAt : Option Nat} {t : RoleAssignment}
    (h : revokeRoleAssignment renv roles pk revokedBy endAt = .ok (roles', t)) :
    AssignmentsKept roles.db roles'.db ∧ RolesKept roles.db roles'.db := by
  obtain ⟨hsame, -, hrows⟩ := revokeRoleAssignment_ok h
  refine ⟨fun u hu => ?_, .of_same hsame.roles hsame.organizations⟩
  refine ⟨_, hrows ▸ List.mem_map_of_mem hu, ?_⟩
  split <;> exact ⟨rfl, rfl, rfl, rfl⟩

/-- Policies are still there with their threshold. -/
def PoliciesKept (s s' : ExamState rt) : Prop :=
  ∀ p ∈ s.policies.rows, ∃ p' ∈ s'.policies.rows, p'.version = p.version ∧
    p'.passingPercent = p.passingPercent

theorem PoliciesKept.of_same (h : s'.policies = s.policies) : PoliciesKept s s' :=
  fun p hp => ⟨p, h ▸ hp, rfl, rfl⟩

theorem PoliciesKept.trans {s₁ s₂ s₃ : ExamState rt} (h : PoliciesKept s₁ s₂)
    (h' : PoliciesKept s₂ s₃) : PoliciesKept s₁ s₃ := by
  intro p hp
  obtain ⟨p₂, hp₂, hversion, hpercent⟩ := h p hp
  obtain ⟨p₃, hp₃, hversion', hpercent'⟩ := h' p₂ hp₂
  exact ⟨p₃, hp₃, hversion'.trans hversion, hpercent'.trans hpercent⟩

theorem retired_passingPercent (p : DeliberatorExamPolicy) :
    p.retired.passingPercent = p.passingPercent := by
  unfold DeliberatorExamPolicy.retired
  split <;> rfl

theorem examStep_policiesKept {c : ExamEnv × ExamCall} (h : examStep s c = .ok s') :
    PoliciesKept s s' := by
  rcases examStep_bank h with ⟨actor, call, -, hstep⟩ | ⟨-, hpolicies⟩
  · rcases (bankStep_ok hstep).2.2 with hpolicies | ⟨p, hrows⟩
    · exact .of_same hpolicies
    · intro q hq
      refine ⟨q.retired, ?_, q.retired_version, retired_passingPercent q⟩
      rw [hrows]
      exact List.mem_append_left _ (List.mem_map_of_mem hq)
  · exact .of_same hpolicies

/-! ## The invariant -/

/-- The attempt is linked to a deliberator term of its member that starts with its submission. -/
structure Linked (s : ExamState rt) (a : DeliberatorExamAttempt) (t : RoleAssignment) : Prop where
  mem : t ∈ s.roles.db.assignments.rows
  link : a.roleAssignment = some t.pk
  member : t.member = a.member
  start : a.submittedAt = some t.startAt
  role : CatalogRole s.roles.db roleDeliberator t.role

/-- The attempt keeps the threshold of its policy for its questions. -/
def Threshold (s : ExamState rt) (a : DeliberatorExamAttempt) : Prop :=
  a.totalPoints = totalPointsOf a.questionSnapshotJson ∧ ∃ p ∈ s.policies.rows,
    a.policy = p.version ∧ a.passingScore = passingScoreOf a.totalPoints p.passingPercent

structure SoundTerms (s : ExamState rt) : Prop where
  links : ∀ a ∈ s.attempts.rows, a.roleAssignment ≠ none → a.status = .passed
  passed : ∀ a ∈ s.attempts.rows, a.status = .passed → ∃ t, Linked s a t
  unique : ∀ a ∈ s.attempts.rows, ∀ b ∈ s.attempts.rows, ∀ k, a.roleAssignment = some k →
    b.roleAssignment = some k → a = b
  graded : ∀ a ∈ s.attempts.rows, a.status = .passed → Graded rt a.answersJson a
  threshold : ∀ a ∈ s.attempts.rows, Threshold s a
  oneActive : OneActive s.roles.db

theorem Linked.kept {t : RoleAssignment} (h : Linked s a t)
    (hassignments : AssignmentsKept s.roles.db s'.roles.db)
    (hroles : RolesKept s.roles.db s'.roles.db) : ∃ t', Linked s' a t' := by
  obtain ⟨t', ht', hpk, hmember, hrole, hstart⟩ := hassignments t h.mem
  exact ⟨t', ht', by rw [h.link, hpk], hmember.trans h.member, by rw [h.start, hstart],
    hrole ▸ h.role.kept hroles⟩

theorem Threshold.kept (h : Threshold s a) (hpolicies : PoliciesKept s s') : Threshold s' a := by
  obtain ⟨htotal, p, hp, hversion, hscore⟩ := h
  obtain ⟨p', hp', hversion', hpercent⟩ := hpolicies p hp
  exact ⟨htotal, p', hp', hversion.trans hversion'.symm, by rw [hscore, hpercent]⟩

/-- Changes besides the attempts keep the invariant. -/
theorem SoundTerms.kept (h : SoundTerms s) (hattempts : s'.attempts = s.attempts)
    (hassignments : AssignmentsKept s.roles.db s'.roles.db)
    (hroles : RolesKept s.roles.db s'.roles.db) (hpolicies : PoliciesKept s s')
    (hone : OneActive s'.roles.db) : SoundTerms s' := by
  refine ⟨?_, ?_, ?_, ?_, ?_, hone⟩
  · rw [hattempts]
    exact h.links
  · rw [hattempts]
    intro a ha hpassed
    obtain ⟨t, hlinked⟩ := h.passed a ha hpassed
    exact hlinked.kept hassignments hroles
  · rw [hattempts]
    exact h.unique
  · rw [hattempts]
    exact h.graded
  · rw [hattempts]
    exact fun a ha => (h.threshold a ha).kept hpolicies

/-- A started attempt keeps the invariant. -/
theorem SoundTerms.start {member : Nat} (h : SoundTerms s) (hstarted : Started s s' member a) :
    SoundTerms s' := by
  have hroles : s'.roles = s.roles := by rw [hstarted.same]
  have hpolicies : s'.policies = s.policies := by rw [hstarted.same]
  have hmem : ∀ b ∈ s'.attempts.rows, b ∈ s.attempts.rows ∨ b = a := by
    intro b hb
    rw [hstarted.rows, List.mem_append, List.mem_singleton] at hb
    exact hb
  have hopen : a.status ≠ .passed := by
    rw [hstarted.status]
    decide
  refine ⟨?_, ?_, ?_, ?_, ?_, hroles ▸ h.oneActive⟩
  · intro b hb hlink
    rcases hmem b hb with hb | rfl
    · exact h.links b hb hlink
    · exact absurd hstarted.link hlink
  · intro b hb hpassed
    rcases hmem b hb with hb | rfl
    · obtain ⟨t, hlinked⟩ := h.passed b hb hpassed
      exact hlinked.kept (.of_same (by rw [hroles])) (.of_same (by rw [hroles]) (by rw [hroles]))
    · exact absurd hpassed hopen
  · intro b hb c hc k hlink hlink'
    rcases hmem b hb with hb | rfl
    · rcases hmem c hc with hc | rfl
      · exact h.unique b hb c hc k hlink hlink'
      · rw [hstarted.link] at hlink'
        cases hlink'
    · rw [hstarted.link] at hlink
      cases hlink
  · intro b hb hpassed
    rcases hmem b hb with hb | rfl
    · exact h.graded b hb hpassed
    · exact absurd hpassed hopen
  · intro b hb
    rcases hmem b hb with hb | rfl
    · exact (h.threshold b hb).kept (.of_same hpolicies)
    · obtain ⟨p, hp, hversion, hscore⟩ := hstarted.policy
      exact ⟨hstarted.total, p, hpolicies ▸ hp, hversion, hscore⟩

/-- A closed attempt keeps the invariant, if a passed one has a term of its own. -/
theorem SoundTerms.close {locked : DeliberatorExamAttempt} (h : SoundTerms s)
    (hmem : locked ∈ s.attempts.rows) (hsame : SameAttempt locked outcome)
    (hroles : s'.roles = s.roles) (hpolicies : s'.policies = s.policies)
    (hrows : s'.attempts.rows = s.attempts.rows.map fun a => if a.pk = locked.pk then outcome else a)
    (hlinks : outcome.roleAssignment ≠ none → outcome.status = .passed)
    (hpassed : outcome.status = .passed → ∃ t, Linked s outcome t)
    (hgraded : outcome.status = .passed → Graded rt outcome.answersJson outcome)
    (hfree : ∀ k, outcome.roleAssignment = some k → ∀ b ∈ s.attempts.rows, b.pk ≠ locked.pk →
      b.roleAssignment ≠ some k) : SoundTerms s' := by
  have hcases : ∀ b ∈ s'.attempts.rows, (b ∈ s.attempts.rows ∧ b.pk ≠ locked.pk) ∨ b = outcome := by
    intro b hb
    rw [hrows, List.mem_map] at hb
    obtain ⟨c, hc, rfl⟩ := hb
    by_cases hpk : c.pk = locked.pk
    · exact .inr (if_pos hpk)
    · rw [if_neg hpk]
      exact .inl ⟨hc, hpk⟩
  have hlinked : ∀ {b t}, Linked s b t → ∃ t', Linked s' b t' := fun hlinked =>
    hlinked.kept (.of_same (by rw [hroles])) (.of_same (by rw [hroles]) (by rw [hroles]))
  refine ⟨?_, ?_, ?_, ?_, ?_, hroles ▸ h.oneActive⟩
  · intro b hb hlink
    rcases hcases b hb with ⟨hb, -⟩ | rfl
    · exact h.links b hb hlink
    · exact hlinks hlink
  · intro b hb hstatus
    rcases hcases b hb with ⟨hb, -⟩ | rfl
    · obtain ⟨t, ht⟩ := h.passed b hb hstatus
      exact hlinked ht
    · obtain ⟨t, ht⟩ := hpassed hstatus
      exact hlinked ht
  · intro b hb c hc k hlink hlink'
    rcases hcases b hb with ⟨hb, hbpk⟩ | rfl
    · rcases hcases c hc with ⟨hc, -⟩ | rfl
      · exact h.unique b hb c hc k hlink hlink'
      · exact absurd hlink (hfree k hlink' b hb hbpk)
    · rcases hcases c hc with ⟨hc, hcpk⟩ | rfl
      · exact absurd hlink' (hfree k hlink c hc hcpk)
      · rfl
  · intro b hb hstatus
    rcases hcases b hb with ⟨hb, -⟩ | rfl
    · exact h.graded b hb hstatus
    · exact hgraded hstatus
  · intro b hb
    rcases hcases b hb with ⟨hb, -⟩ | rfl
    · exact (h.threshold b hb).kept (.of_same hpolicies)
    · obtain ⟨htotal, p, hp, hversion, hscore⟩ := h.threshold locked hmem
      refine ⟨?_, p, hpolicies ▸ hp, hsame.policy.trans hversion, ?_⟩
      · rw [hsame.totalPoints, hsame.snapshot, htotal]
      · rw [hsame.passingScore, hsame.totalPoints, hscore]

/-! ## Granting the term -/

/-- The term of a passed attempt is an active one that ends later, or a new one. -/
inductive Granted (s s₁ : ExamState rt) (member checkedAt : Nat) (t : RoleAssignment) : Prop
  | reused (db : Directory) (role : Role)
      (ensured : ensureCatalogRole s.roles.db roleDeliberator = .ok (db, role))
      (mem : t ∈ s.roles.db.assignments.rows) (active : t.ActiveFor member role.pk)
      (later : checkedAt < t.endAt)
      (same : ∀ u ∈ s₁.roles.db.assignments.rows, ∃ v ∈ s.roles.db.assignments.rows, v.pk = u.pk)
  | created (mem : t ∈ s₁.roles.db.assignments.rows)
      (fresh : ∀ u ∈ s.roles.db.assignments.rows, u.pk ≠ t.pk)
      (member : t.member = member) (start : t.startAt = checkedAt)
      (role : CatalogRole s₁.roles.db roleDeliberator t.role)
      (only : ∀ u ∈ s₁.roles.db.assignments.rows, u = t ∨
        ∃ v ∈ s.roles.db.assignments.rows, v.pk = u.pk)

theorem grantTerm_granted {s₁ : ExamState rt} {member : Nat} {t : RoleAssignment}
    (h : grantTerm env s member checkedAt = .ok (s₁, t)) :
    AssignmentsKept s.roles.db s₁.roles.db ∧ RolesKept s.roles.db s₁.roles.db ∧
      (OneActive s.roles.db → OneActive s₁.roles.db) ∧ Granted s s₁ member checkedAt t := by
  obtain ⟨-, db, role, hrole, hcreate⟩ := grantTerm_ok h
  obtain ⟨hkept, hsame, hcatalog⟩ := ensureCatalogRole_deliberator hrole
  obtain ⟨hassignments, hroles⟩ := createRoleAssignment_kept hcreate
  have hrows : db.assignments = s.roles.db.assignments := hsame.assignments
  have hexpired : ∀ u ∈ (expireAssignments db member role.pk checkedAt).assignments.rows,
      ∃ v ∈ s.roles.db.assignments.rows, v.pk = u.pk := by
    intro u hu
    rw [expireAssignments_rows, List.mem_map, hrows] at hu
    obtain ⟨v, hv, rfl⟩ := hu
    refine ⟨v, hv, ?_⟩
    split <;> rfl
  refine ⟨(AssignmentsKept.of_same hrows).trans hassignments, hkept.trans hroles, fun hone => ?_, ?_⟩
  · refine createRoleAssignment_oneActive ?_ hcreate
    intro x hx y hy
    rw [hrows] at hx hy
    exact hone x hx y hy
  · cases createRoleAssignment_ok hcreate with
    | reused mem current same =>
      obtain ⟨hmember, hrolePk, hactive, hlater⟩ := current
      obtain ⟨hmem, -⟩ := (mem_expireAssignments hactive).1 mem
      refine .reused db role hrole (hrows ▸ hmem) ⟨hmember, hrolePk, hactive⟩ hlater ?_
      rw [same]
      exact hexpired
    | created rows fresh free row window same =>
      obtain ⟨hmember, hrolePk, -, hstart, -⟩ := row
      refine .created ?_ ?_ hmember hstart ?_ ?_
      · rw [rows]
        exact List.mem_append_right _ (List.mem_singleton_self t)
      · intro u hu hpk
        refine fresh _ (List.mem_map_of_mem (hrows ▸ hu)) (Eq.trans ?_ hpk)
        split <;> rfl
      · rw [hrolePk]
        exact hcatalog.kept hroles
      · intro u hu
        rw [rows, List.mem_append, List.mem_singleton] at hu
        rcases hu with hu | rfl
        · exact .inr (hexpired u hu)
        · exact .inl rfl

/-- If the member may still take the exam, no active deliberator assignment ends later. -/
def NoLaterTerm (env : ExamEnv) (s : ExamState rt) (member checkedAt : Nat) : Prop :=
  Candidate env s.roles.db member checkedAt → ∀ db role,
    ensureCatalogRole s.roles.db roleDeliberator = .ok (db, role) →
    ∀ t ∈ s.roles.db.assignments.rows, t.ActiveFor member role.pk → t.endAt ≤ checkedAt

variable {member attemptPk : Nat} {locked : DeliberatorExamAttempt}

/-- No attempt is linked to a term that is new. -/
theorem SoundTerms.not_linked (h : SoundTerms s) {k : Nat}
    (hfresh : ∀ u ∈ s.roles.db.assignments.rows, u.pk ≠ k) :
    ∀ b ∈ s.attempts.rows, b.roleAssignment ≠ some k := by
  intro b hb hlink
  obtain ⟨t, hlinked⟩ := h.passed b hb (h.links b hb (by rw [hlink]; exact Option.some_ne_none k))
  exact hfresh t hlinked.mem (Option.some.inj (hlinked.link.symm.trans hlink))

theorem SoundTerms.submit (h : SoundTerms s)
    (hsub : Submitted env s s' member attemptPk answers checkedAt locked outcome)
    (hclear : NoLaterTerm env s member checkedAt) : SoundTerms s' := by
  obtain ⟨hmem, rfl, rfl, hopen, hsame, -, hsubmitted, hrows, ⟨-, hpolicies⟩, heffect⟩ := hsub
  have hnone : locked.roleAssignment = none := by
    by_contra hlink
    rw [h.links locked hmem hlink] at hopen
    cases hopen
  cases heffect with
  | noTerm roles status link =>
    refine h.close hmem hsame roles hpolicies hrows (fun hlink => ?_)
      (fun hpassed => absurd hpassed status) (fun hpassed => absurd hpassed status) fun k hk => ?_
    · exact absurd (link.trans hnone) hlink
    · rw [link, hnone] at hk
      cases hk
  | taken candidate s₁ t grant roles status link other =>
    obtain ⟨hassignments, hroles, hone, hgranted⟩ := grantTerm_granted grant
    have h₁ : SoundTerms { s with roles := s'.roles } := by
      refine h.kept rfl ?_ ?_ (.of_same rfl) ?_
      · exact roles ▸ hassignments
      · exact roles ▸ hroles
      · exact roles ▸ hone h.oneActive
    refine h₁.close hmem hsame rfl hpolicies hrows (fun hlink => absurd link hlink)
      (fun hpassed => absurd hpassed status) (fun hpassed => absurd hpassed status) fun k hk => ?_
    rw [link] at hk
    cases hk
  | passed candidate s₁ t grant roles status link free graded =>
    obtain ⟨hassignments, hroles, hone, hgranted⟩ := grantTerm_granted grant
    have h₁ : SoundTerms { s with roles := s'.roles } := by
      refine h.kept rfl ?_ ?_ (.of_same rfl) ?_
      · exact roles ▸ hassignments
      · exact roles ▸ hroles
      · exact roles ▸ hone h.oneActive
    refine h₁.close hmem hsame rfl hpolicies hrows (fun _ => status) (fun _ => ⟨t, ?_⟩)
      (fun _ => graded.answersJson ▸ graded) fun k hk b hb hpk hlink => ?_
    · cases hgranted with
      | reused db role ensured mem active later same =>
        exact absurd later (not_lt.2 (hclear candidate db role ensured t mem active))
      | created mem fresh member start role only =>
        refine ⟨?_, link, member.trans hsame.member.symm, by rw [hsubmitted, start], ?_⟩
        · exact roles ▸ mem
        · exact roles ▸ role
    · exact free b hb hpk (by rw [hlink, ← hk, link])

/-- A call meets the condition of terms. -/
def TermCallClear (s : ExamState rt) (c : ExamEnv × ExamCall) : Prop :=
  match c.2 with
  | .submit member _ _ atTime => NoLaterTerm c.1 s member (atTime.getD c.1.now)
  | _ => True

theorem examStep_soundTerms {c : ExamEnv × ExamCall} (h : SoundTerms s)
    (hclear : TermCallClear s c) (hstep : examStep s c = .ok s') : SoundTerms s' := by
  have hpolicies := examStep_policiesKept hstep
  obtain ⟨env, c⟩ := c
  cases c with
  | bank actor call =>
    obtain ⟨⟨hattempts, hdb⟩, -⟩ := bankStep_ok hstep
    refine h.kept hattempts (.of_same (by rw [hdb])) (.of_same (by rw [hdb]) (by rw [hdb])) hpolicies ?_
    rw [hdb]
    exact h.oneActive
  | start member =>
    obtain ⟨⟨s₁, a⟩, hcall, hrest⟩ := bind_eq_ok.1 hstep
    obtain rfl := pure_eq_ok.1 hrest
    exact h.start (startDeliberatorExam_ok hcall)
  | submit member attempt answers atTime =>
    obtain ⟨⟨s₁, a⟩, hcall, hrest⟩ := bind_eq_ok.1 hstep
    obtain rfl := pure_eq_ok.1 hrest
    obtain ⟨locked, hsub⟩ := submitDeliberatorExam_ok hcall
    exact h.submit hsub hclear
  | grant member role grantedBy startAt endAt sourceType skipValidation =>
    obtain ⟨⟨roles, t⟩, hcall, hrest⟩ := bind_eq_ok.1 hstep
    obtain rfl := pure_eq_ok.1 hrest
    obtain ⟨hassignments, hroles⟩ := createRoleAssignment_kept hcall
    exact h.kept rfl hassignments hroles hpolicies (createRoleAssignment_oneActive h.oneActive hcall)
  | revoke assignment revokedBy endAt =>
    obtain ⟨⟨roles, t⟩, hcall, hrest⟩ := bind_eq_ok.1 hstep
    obtain rfl := pure_eq_ok.1 hrest
    obtain ⟨hassignments, hroles⟩ := revokeRoleAssignment_kept hcall
    exact h.kept rfl hassignments hroles hpolicies (revokeRoleAssignment_oneActive h.oneActive hcall)
  | members members rolePermissions =>
    obtain rfl := Except.ok.inj hstep
    exact h.kept rfl (.of_same rfl) (.of_same rfl rfl) hpolicies h.oneActive

/-! ## Attempts that stay -/

theorem SameAttempt.refl (a : DeliberatorExamAttempt) : SameAttempt a a :=
  ⟨rfl, rfl, rfl, rfl, rfl, rfl, rfl⟩

theorem SameAttempt.trans {a b c : DeliberatorExamAttempt} (h : SameAttempt a b)
    (h' : SameAttempt b c) : SameAttempt a c :=
  ⟨h'.pk.trans h.pk, h'.attemptId.trans h.attemptId, h'.member.trans h.member,
    h'.policy.trans h.policy, h'.snapshot.trans h.snapshot, h'.totalPoints.trans h.totalPoints,
    h'.passingScore.trans h.passingScore⟩

/-- Attempts are still there with their questions, and closed ones as they were. -/
def AttemptsKept (s s' : ExamState rt) : Prop :=
  ∀ a ∈ s.attempts.rows, ∃ a' ∈ s'.attempts.rows, SameAttempt a a' ∧
    (a.status ≠ .inProgress → a' = a)

theorem AttemptsKept.of_same (h : s'.attempts = s.attempts) : AttemptsKept s s' :=
  fun a ha => ⟨a, h ▸ ha, .refl a, fun _ => rfl⟩

theorem AttemptsKept.trans {s₁ s₂ s₃ : ExamState rt} (h : AttemptsKept s₁ s₂)
    (h' : AttemptsKept s₂ s₃) : AttemptsKept s₁ s₃ := by
  intro a ha
  obtain ⟨a₂, ha₂, hsame, hclosed⟩ := h a ha
  obtain ⟨a₃, ha₃, hsame', hclosed'⟩ := h' a₂ ha₂
  refine ⟨a₃, ha₃, hsame.trans hsame', fun hne => ?_⟩
  have heq := hclosed hne
  exact (hclosed' (heq ▸ hne)).trans heq

theorem Submitted.attemptsKept
    (h : Submitted env s s' member attemptPk answers checkedAt locked outcome) :
    AttemptsKept s s' := by
  intro a ha
  by_cases hpk : a.pk = attemptPk
  · obtain rfl := s.attempts.eq_of_pk ha h.mem (hpk.trans h.pk.symm)
    refine ⟨outcome, ?_, h.same, fun hclosed => absurd h.inProgress hclosed⟩
    rw [h.rows]
    exact List.mem_map.2 ⟨a, ha, if_pos hpk⟩
  · refine ⟨a, ?_, .refl a, fun _ => rfl⟩
    rw [h.rows]
    exact List.mem_map.2 ⟨a, ha, if_neg hpk⟩

theorem examStep_attemptsKept {c : ExamEnv × ExamCall} (hstep : examStep s c = .ok s') :
    AttemptsKept s s' := by
  obtain ⟨env, c⟩ := c
  cases c with
  | bank actor call => exact .of_same (bankStep_ok hstep).1.attempts
  | start member =>
    obtain ⟨⟨s₁, a⟩, hcall, hrest⟩ := bind_eq_ok.1 hstep
    obtain rfl := pure_eq_ok.1 hrest
    have hrows := (startDeliberatorExam_ok hcall).rows
    exact fun b hb => ⟨b, hrows ▸ List.mem_append_left _ hb, .refl b, fun _ => rfl⟩
  | submit member attempt answers atTime =>
    obtain ⟨⟨s₁, a⟩, hcall, hrest⟩ := bind_eq_ok.1 hstep
    obtain rfl := pure_eq_ok.1 hrest
    obtain ⟨locked, hsub⟩ := submitDeliberatorExam_ok hcall
    exact hsub.attemptsKept
  | grant member role grantedBy startAt endAt sourceType skipValidation =>
    obtain ⟨⟨roles, t⟩, -, hrest⟩ := bind_eq_ok.1 hstep
    obtain rfl := pure_eq_ok.1 hrest
    exact .of_same rfl
  | revoke assignment revokedBy endAt =>
    obtain ⟨⟨roles, t⟩, -, hrest⟩ := bind_eq_ok.1 hstep
    obtain rfl := pure_eq_ok.1 hrest
    exact .of_same rfl
  | members members rolePermissions =>
    obtain rfl := Except.ok.inj hstep
    exact .of_same rfl

/-- What every run keeps: attempts and policies. -/
def RecordsKept (s s' : ExamState rt) : Prop := AttemptsKept s s' ∧ PoliciesKept s s'

theorem recordsKept_run (s : ExamState rt) (cs : List (ExamEnv × ExamCall)) :
    RecordsKept s (runCalls examStep s cs) := by
  have hrefl : ∀ s : ExamState rt, RecordsKept s s := fun s => ⟨.of_same rfl, .of_same rfl⟩
  have htrans : ∀ a b c : ExamState rt, RecordsKept a b → RecordsKept b c → RecordsKept a c :=
    fun _ _ _ h h' => ⟨h.1.trans h'.1, h.2.trans h'.2⟩
  have hstep : ∀ (s : ExamState rt) c s', True → True → examStep s c = .ok s' → RecordsKept s s' :=
    fun _ _ _ _ _ h => ⟨examStep_attemptsKept h, examStep_policiesKept h⟩
  have hcs : EachCall examStep (fun _ _ => True) s cs := EachCall.of_forall _ fun _ _ _ => trivial
  exact EachCall.rel (R := RecordsKept) hrefl htrans (fun _ _ _ _ _ _ => trivial) hstep trivial hcs

/-! ## Passing -/

theorem passingScoreOf_le_iff {total percent score : Int} :
    passingScoreOf total percent ≤ score ↔ total * percent ≤ 100 * score := by
  unfold passingScoreOf
  generalize total * percent = n
  omega

/-- The answers are to exactly the questions of the snapshot. -/
def CoversExactly (answers : List (String × String)) (snapshot : List SnapshotItem) : Prop :=
  ∀ k, k ∈ answers.map Prod.fst ↔ k ∈ snapshot.map SnapshotItem.snapshotId

theorem coversExactly_of_answersCover {snapshot : List SnapshotItem}
    (h : answersCover answers snapshot = true) : CoversExactly answers snapshot := by
  unfold answersCover at h
  simp only [Bool.and_eq_true, List.all_eq_true, List.any_eq_true, decide_eq_true_eq] at h
  obtain ⟨hanswers, hsnapshot⟩ := h
  intro k
  rw [List.mem_map, List.mem_map]
  constructor
  · rintro ⟨answer, hanswer, rfl⟩
    exact hanswers answer hanswer
  · rintro ⟨item, hitem, rfl⟩
    exact hsnapshot item hitem

/-- A passed attempt answers its questions and reaches the percentage of its policy. -/
structure PassedFairly (s : ExamState rt) (a : DeliberatorExamAttempt) : Prop where
  cover : CoversExactly a.answersJson a.questionSnapshotJson
  total : a.totalPoints = totalPointsOf a.questionSnapshotJson
  score : ∃ score, a.questionSnapshotJson.foldlM (gradeItem rt a.answersJson) 0 = .ok score ∧
    a.score = some score ∧ ∃ p ∈ s.policies.rows, a.policy = p.version ∧
      a.totalPoints * p.passingPercent ≤ 100 * score

theorem SoundTerms.passedFairly (h : SoundTerms s) (ha : a ∈ s.attempts.rows)
    (hpassed : a.status = .passed) : PassedFairly s a := by
  obtain ⟨-, hcover, score, hgrade, hscore, hle⟩ := h.graded a ha hpassed
  obtain ⟨htotal, p, hp, hversion, hthreshold⟩ := h.threshold a ha
  refine ⟨coversExactly_of_answersCover hcover, htotal, score, hgrade, hscore, p, hp, hversion, ?_⟩
  rw [hthreshold] at hle
  exact passingScoreOf_le_iff.1 hle

/-! ## Histories -/

/-- The term belongs to one passed attempt. -/
def OwnedByOne (s : ExamState rt) (t : RoleAssignment) : Prop :=
  ∃ a ∈ s.attempts.rows, a.status = .passed ∧ a.roleAssignment = some t.pk ∧
    ∀ b ∈ s.attempts.rows, b.roleAssignment = some t.pk → b = a

/-- No member has two deliberator assignments in force at one instant. -/
def OneTerm (s : ExamState rt) : Prop :=
  ∀ t ∈ s.roles.db.assignments.rows, ∀ u ∈ s.roles.db.assignments.rows,
    CatalogRole s.roles.db roleDeliberator t.role → CatalogRole s.roles.db roleDeliberator u.role →
    t.member = u.member → t.status = .active → u.status = .active →
    ∀ moment, t.covers moment = true → u.covers moment = true → t = u

/-- What holds over a history of exams. -/
structure ExamHistory (s : ExamState rt) (cs : List (ExamEnv × ExamCall)) : Prop where
  /-- A closed attempt is never modified. -/
  closed : ∀ before after, cs = before ++ after →
    ∀ a ∈ (runCalls examStep s before).attempts.rows, a.status ≠ .inProgress →
      a ∈ (runCalls examStep s cs).attempts.rows
  /-- Questions and threshold of an attempt are frozen. -/
  frozen : ∀ before after, cs = before ++ after →
    (∀ a ∈ (runCalls examStep s before).attempts.rows,
      ∀ a' ∈ (runCalls examStep s cs).attempts.rows, a'.pk = a.pk → SameAttempt a a') ∧
    ∀ p ∈ (runCalls examStep s before).policies.rows,
      ∀ p' ∈ (runCalls examStep s cs).policies.rows, p'.version = p.version →
        p'.passingPercent = p.passingPercent
  passed : ∀ before after, cs = before ++ after →
    ∀ a ∈ (runCalls examStep s before).attempts.rows, a.status = .passed →
      PassedFairly (runCalls examStep s before) a
  /-- A passed attempt has a term of its own that starts with its submission. -/
  linked : ∀ before after, cs = before ++ after →
    ∀ a ∈ (runCalls examStep s before).attempts.rows, a.status = .passed →
      ∃ t, Linked (runCalls examStep s before) a t ∧
        ∀ b ∈ (runCalls examStep s before).attempts.rows, b.roleAssignment = some t.pk → b = a
  /-- An assignment that a submission adds belongs to one passed attempt. -/
  created : ∀ before env member attempt answers atTime after s' outcome,
    cs = before ++ (env, .submit member attempt answers atTime) :: after →
    submitDeliberatorExam env (runCalls examStep s before) member attempt answers atTime =
      .ok (s', outcome) →
    ∀ t ∈ s'.roles.db.assignments.rows,
      (∀ u ∈ (runCalls examStep s before).roles.db.assignments.rows, u.pk ≠ t.pk) →
      OwnedByOne (runCalls examStep s cs) t
  single : ∀ before after, cs = before ++ after → OneTerm (runCalls examStep s before)

theorem SoundTerms.oneTerm (h : SoundTerms s) : OneTerm s := by
  intro t ht u hu hrole hrole' hmember hactive hactive' _ _ _
  exact h.oneActive t ht u hu ⟨hmember, hrole.unique hrole', hactive⟩ hactive'

/-- The submission that adds an assignment closes a passed attempt that is linked to it. -/
theorem Submitted.created (h : SoundTerms s)
    (hsub : Submitted env s s' member attemptPk answers checkedAt locked outcome)
    {t : RoleAssignment} (ht : t ∈ s'.roles.db.assignments.rows)
    (hfresh : ∀ u ∈ s.roles.db.assignments.rows, u.pk ≠ t.pk) :
    outcome.status = .passed ∧ outcome.roleAssignment = some t.pk := by
  have hnot : ∀ u ∈ s'.roles.db.assignments.rows, u = t →
      ¬ ∃ v ∈ s.roles.db.assignments.rows, v.pk = u.pk := by
    rintro u - rfl ⟨v, hv, hpk⟩
    exact hfresh v hv hpk
  cases hsub.effect with
  | noTerm roles status link =>
    rw [roles] at ht
    exact absurd rfl (hfresh t ht)
  | taken candidate s₁ assignment grant roles status link other =>
    rw [roles] at ht hnot
    cases (grantTerm_granted grant).2.2.2 with
    | reused db role ensured mem active later same => exact absurd (same t ht) (hnot t ht rfl)
    | created mem fresh member start role only =>
      obtain ⟨b, hb, hlink⟩ := other
      exact absurd hlink (h.not_linked fresh b hb)
  | passed candidate s₁ assignment grant roles status link free graded =>
    rw [roles] at ht hnot
    cases (grantTerm_granted grant).2.2.2 with
    | reused db role ensured mem active later same => exact absurd (same t ht) (hnot t ht rfl)
    | created mem fresh member start role only =>
      rcases only t ht with rfl | hold
      · exact ⟨status, link⟩
      · exact absurd hold (hnot t ht rfl)

/-- **Exam grants over histories.** If no submission of a member who may still take the exam meets
an active deliberator assignment that ends later, attempts are closed once and graded as frozen,
and passed attempts and the terms of the exam belong to each other. -/
theorem examRun_history (s : ExamState rt) (hattempts : s.attempts.rows = [])
    (hone : OneActive s.roles.db) (cs : List (ExamEnv × ExamCall))
    (hcs : EachCall examStep TermCallClear s cs) : ExamHistory s cs := by
  have hs : SoundTerms s := by
    constructor
    case oneActive => exact hone
    all_goals
      rw [hattempts]
      intro a ha
      cases ha
  have hinv : ∀ (s : ExamState rt) c s', SoundTerms s → TermCallClear s c →
      examStep s c = .ok s' → SoundTerms s' := fun _ _ _ => examStep_soundTerms
  have hsound : ∀ before after, cs = before ++ after →
      SoundTerms (runCalls examStep s before) := by
    rintro before after rfl
    exact EachCall.invariant hinv hs hcs.of_append.1
  have hkept : ∀ before after, cs = before ++ after →
      RecordsKept (runCalls examStep s before) (runCalls examStep s cs) := by
    rintro before after rfl
    rw [runCalls_append]
    exact recordsKept_run _ after
  have hclosed : ∀ before after, cs = before ++ after →
      ∀ a ∈ (runCalls examStep s before).attempts.rows, a.status ≠ .inProgress →
        a ∈ (runCalls examStep s cs).attempts.rows := by
    intro before after happend a ha hstatus
    obtain ⟨a', ha', -, hsame⟩ := (hkept before after happend).1 a ha
    exact hsame hstatus ▸ ha'
  refine ⟨hclosed, ?_, ?_, ?_, ?_, ?_⟩
  · intro before after happend
    obtain ⟨hattempts, hpolicies⟩ := hkept before after happend
    constructor
    · intro a ha a' ha' hpk
      obtain ⟨b, hb, hsame, -⟩ := hattempts a ha
      rwa [Table.eq_of_pk _ ha' hb (hpk.trans hsame.pk.symm)]
    · intro p hp p' hp' hversion
      obtain ⟨q, hq, hqversion, hpercent⟩ := hpolicies p hp
      rwa [Table.eq_of_pk _ hp' hq (hversion.trans hqversion.symm)]
  · intro before after happend a ha hpassed
    exact (hsound before after happend).passedFairly ha hpassed
  · intro before after happend a ha hpassed
    have hbefore := hsound before after happend
    obtain ⟨t, hlinked⟩ := hbefore.passed a ha hpassed
    exact ⟨t, hlinked, fun b hb hlink => hbefore.unique b hb a ha _ hlink hlinked.link⟩
  · intro before env member attempt answers atTime after s' outcome happend hsubmit t ht hfresh
    obtain ⟨locked, hsub⟩ := submitDeliberatorExam_ok hsubmit
    obtain ⟨hpassed, hlink⟩ := hsub.created (hsound before _ happend) ht hfresh
    -- the outcome is a row of the state after the call, and closed
    have hstep : examStep (runCalls examStep s before) (env, .submit member attempt answers atTime) =
        .ok s' := bind_eq_ok.2 ⟨_, hsubmit, rfl⟩
    have hafter : runCalls examStep s (before ++ [(env, .submit member attempt answers atTime)]) =
        s' := by
      rw [runCalls_append, runCalls_cons, runCalls_nil, afterCall_ok hstep]
    have hmem : outcome ∈ s'.attempts.rows := by
      rw [hsub.rows]
      exact List.mem_map.2 ⟨locked, hsub.mem, if_pos hsub.pk⟩
    have hfinal : outcome ∈ (runCalls examStep s cs).attempts.rows := by
      refine hclosed _ after ?_ outcome (hafter ▸ hmem) hsub.closed
      rw [happend, List.append_assoc, List.singleton_append]
    have hend := hsound cs [] (List.append_nil cs).symm
    exact ⟨outcome, hfinal, hpassed, hlink, fun b hb hlink' =>
      hend.unique b hb outcome hfinal _ hlink' hlink⟩
  · exact fun before after happend => (hsound before after happend).oneTerm

/-! ## A term granted ahead of the exam -/

def deliberatorRow : Role := ⟨98, 92, roleDeliberator, "", .active⟩

def candidateRoles : List Role := [⟨93, 92, roleCovenanter, "", .active⟩, deliberatorRow]

theorem candidateRoles_keys : (candidateRoles.map Role.pk).Nodup := by
  decide

theorem candidateRoles_names :
    (candidateRoles.filterMap fun r => some (r.organization, r.name)).Nodup := by
  decide

def candidateDirectory : Directory where
  members := examinerDirectory.members
  organizations := examinerDirectory.organizations
  roles := ⟨candidateRoles, candidateRoles_keys, candidateRoles_names⟩
  assignments := ⟨[⟨99, 91, 93, .active, 0, 1000, none, none, .direct⟩], List.nodup_singleton _,
    List.nodup_nil⟩
  rolePermissions := []
  domains := Table.empty
  qualifications := Table.empty

/-- One published question and a policy that asks it. -/
def openExam : ExamState textRuntime where
  roles := ⟨candidateDirectory, Table.empty, Table.empty, Journal.empty⟩
  policies := ⟨[⟨"p", 1, 1, 100, .active, none, none⟩], List.nodup_singleton _,
    List.nodup_singleton _⟩
  questions := ⟨[{
    pk := 1, questionId := "q", version := 1, prompt := termQuestion.prompt
    optionsJson := termQuestion.options, correctOptionId := "a", explanation := "", points := 1
    status := .published, createdBy := none, publishedBy := none, publishedAt := none }],
    List.nodup_singleton _, List.nodup_singleton _⟩
  attempts := Table.empty

theorem openExam_oneActive : OneActive openExam.roles.db := by
  intro x hx y hy _ _
  rw [List.mem_singleton.1 hx, List.mem_singleton.1 hy]

def rightAnswer : List (String × String) := [("q1", "a")]

/-- The exam is started at 2 and passed at 3. -/
def passedExam : List (ExamEnv × ExamCall) := [
  (bankEnv 2, .start 91),
  (bankEnv 3, .submit 91 1 rightAnswer none)]

/-- A term from 50 to 60 was granted before the exam. -/
def examAfterGrant : List (ExamEnv × ExamCall) :=
  (bankEnv 1, .grant 91 deliberatorRow none (some 50) (some 60) .direct false) :: passedExam

/-- The attempt is passed at 3, and linked to a term that starts at 50. -/
theorem examAfterGrant_laterTerm : ¬ ∀ s : ExamState textRuntime, s.attempts.rows = [] →
    OneActive s.roles.db → ∀ cs : List (ExamEnv × ExamCall),
    (cs.map fun c => c.1.now).Pairwise (· ≤ ·) → ExamHistory s cs := by
  intro hclaim
  have hhistory := hclaim openExam rfl openExam_oneActive examAfterGrant (by decide)
  have hattempts : (runCalls examStep openExam examAfterGrant).attempts.rows.map
      (fun a => (a.status, a.submittedAt)) = [(.passed, some 3)] := by
    decide +kernel
  have hstarts : ∀ t ∈ (runCalls examStep openExam examAfterGrant).roles.db.assignments.rows,
      t.startAt ≠ 3 := by
    decide +kernel
  obtain ⟨a, ha, hrow⟩ := List.mem_map.1 (hattempts ▸ List.mem_singleton_self _)
  obtain ⟨hstatus, hsubmitted⟩ := Prod.mk.inj hrow
  obtain ⟨t, hlinked, -⟩ := hhistory.linked examAfterGrant [] rfl a ha hstatus
  exact hstarts t hlinked.mem (Option.some.inj (hlinked.start.symm.trans hsubmitted))

/-- Without the term granted ahead the attempt gets its own. -/
theorem passedExam_history : ExamHistory openExam passedExam := by
  refine examRun_history openExam rfl openExam_oneActive passedExam ⟨trivial, ?_, trivial⟩
  intro _ db role hrole t ht hactive
  have hassignments : ∀ t ∈ (afterCall examStep openExam
      (bankEnv 2, .start 91)).roles.db.assignments.rows, t.role = 93 := by
    decide +kernel
  have hpk : ((ensureCatalogRole (afterCall examStep openExam
      (bankEnv 2, .start 91)).roles.db roleDeliberator).toOption.map fun r => r.2.pk) = some 98 := by
    decide +kernel
  rw [hrole] at hpk
  have hsame : role.pk = 93 := hactive.role.symm.trans (hassignments t ht)
  rw [Except.toOption, Option.map_some, hsame] at hpk
  cases hpk

end LiveOs.Exams
