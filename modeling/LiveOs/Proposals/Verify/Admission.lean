import LiveOs.Proposals.Verify.Lifecycle
import LiveOs.Roles.Verify.Catalog

/-!
# Admissions are executed once

A proposal is executed exactly when its record says so, failed attempts undo what the executor did,
and the one attempt that succeeds creates one assignment. The last part needs that the applicant
has no active term that begins after the year that is granted: the check for conflicts passes over
such a term, and `create_role_assignment` then hands it out instead of creating one.
-/

namespace LiveOs.Proposals

open Lib EventLedger Roles

variable {rt : Runtime} {env : ProposalEnv} {s s' : ProposalState rt}

/-! ## Records -/

/-- The execution of the proposal has succeeded. -/
def Succeeded (s : ProposalState rt) (proposalId : String) : Prop :=
  ∃ e ∈ s.executions.rows, e.proposal = proposalId ∧ e.status = .succeeded

/-- Electorate proposals are executed exactly when their record says so. -/
structure Recorded (s : ProposalState rt) : Prop where
  executed : ∀ p ∈ s.proposals.rows, p.strategyType = .electorate →
    (p.status = .executed ↔ Succeeded s p.proposalId)
  recordOf : ∀ e ∈ s.executions.rows, ∃ p ∈ s.proposals.rows, p.proposalId = e.proposal

theorem Succeeded.congr {proposalId : String} (h : s'.executions = s.executions) :
    Succeeded s' proposalId ↔ Succeeded s proposalId := by
  rw [Succeeded, h, Succeeded]

/-- A replaced row that was not executed and is not executed keeps the records right. -/
theorem Recorded.replace {p q : ApprovalProposal} (h : Recorded s) (hmem : p ∈ s.proposals.rows)
    (hreplaces : Replaces s s' q) (hid : q.proposalId = p.proposalId)
    (hstrategy : q.strategyType = p.strategyType) (hp : p.status ≠ .executed)
    (hq : q.status ≠ .executed) (hexecutions : s'.executions = s.executions) : Recorded s' := by
  refine ⟨fun t ht helectorate => ?_, fun e he => ?_⟩
  · rw [Succeeded.congr hexecutions]
    rcases (hreplaces t).1 ht with rfl | ⟨ht, -⟩
    · rw [hid, ← h.executed p hmem (hstrategy ▸ helectorate)]
      exact ⟨fun hst => absurd hst hq, fun hst => absurd hst hp⟩
    · exact h.executed t ht helectorate
  · rw [hexecutions] at he
    obtain ⟨t, ht, htid⟩ := h.recordOf e he
    by_cases hsame : t.proposalId = q.proposalId
    · exact ⟨q, (hreplaces q).2 (.inl rfl), hsame.symm.trans htid⟩
    · exact ⟨t, (hreplaces t).2 (.inr ⟨ht, hsame⟩), htid⟩

theorem ProposalStatus.Waiting.not_executed {st : ProposalStatus} (h : st.Waiting) :
    st ≠ .executed := by
  rcases h with rfl | rfl <;> simp

theorem Move.recorded {may : String → Prop} (h : Recorded s) (hmove : Move may s s') :
    Recorded s' := by
  cases hmove with
  | idle hproposals hsnapshots hballots hresolutions hexecutions =>
    refine ⟨?_, ?_⟩
    · rw [hproposals]
      intro p hp hstrategy
      rw [Succeeded.congr hexecutions]
      exact h.executed p hp hstrategy
    · rw [hproposals, hexecutions]
      exact h.recordOf
  | created p hfresh hproposals hstrategy hwaiting hsnapshots hballots hresolutions hexecutions =>
    refine ⟨fun q hq helectorate => ?_, fun e he => ?_⟩
    · rw [hproposals] at hq
      rw [Succeeded.congr hexecutions]
      rcases List.mem_append.1 hq with hq | hq
      · exact h.executed q hq helectorate
      · obtain rfl := List.mem_singleton.1 hq
        refine ⟨fun hst => absurd hst hwaiting.not_executed, ?_⟩
        rintro ⟨e, he, hproposal, -⟩
        obtain ⟨t, ht, htid⟩ := h.recordOf e he
        exact absurd (htid.trans hproposal) (hfresh t ht)
    · rw [hexecutions] at he
      obtain ⟨t, ht, htid⟩ := h.recordOf e he
      exact ⟨t, hproposals ▸ List.mem_append_left _ ht, htid⟩
  | attached p ruleId hmem hwaiting hproposals hsnapshots hballots hresolutions hexecutions =>
    exact h.replace hmem hproposals rfl rfl hwaiting.not_executed (by simp) hexecutions
  | started p rule now hmem hstrategy hdraft hopening hproposals hsnapshots hballots hresolutions
      hexecutions =>
    exact h.replace hmem hproposals rfl rfl (by rw [hdraft]; simp) (by simp [openVoting])
      hexecutions
  | balloted p b hmem hvoting hproposal hrevision hballots hvoter hproposals hsnapshots
      hresolutions hexecutions =>
    refine ⟨?_, ?_⟩
    · rw [hproposals]
      intro p hp hstrategy
      rw [Succeeded.congr hexecutions]
      exact h.executed p hp hstrategy
    · rw [hproposals, hexecutions]
      exact h.recordOf
  | resolved p tally outcome reasonCode atTime actor hmem hvoting houtcome hproposals hresolutions
      hsnapshots hballots hexecutions =>
    refine h.replace hmem hproposals rfl rfl (by rw [hvoting]; simp) ?_ hexecutions
    cases outcome <;> simp [Outcome.status]
  | attempted p p' e hmem hstrategy hallowed hexecutable hended hsame hproposals hsnapshots hballots
      hresolutions hproposal hsucceeded hexecutions =>
    have hid : p'.proposalId = p.proposalId := by rw [hsame]
    have hmem' : p' ∈ s'.proposals.rows := (hproposals p').2 (.inl rfl)
    refine ⟨fun t ht helectorate => ?_, fun r hr => ?_⟩
    · rcases (hproposals t).1 ht with rfl | ⟨ht, htid⟩
      · rw [← hsucceeded]
        constructor
        · intro hst
          exact ⟨e, (hexecutions e).2 (.inl rfl), hproposal.trans hid.symm, hst⟩
        · rintro ⟨r, hr, hrproposal, hst⟩
          rcases (hexecutions r).1 hr with rfl | ⟨-, hne⟩
          · exact hst
          · exact absurd (hrproposal.trans (hid.trans hproposal.symm)) hne
      · rw [h.executed t ht helectorate]
        have hne : ∀ r : ProposalExecutionRecord, r.proposal = t.proposalId →
            r.proposal ≠ e.proposal := by
          intro r hr heq
          exact htid (hr.symm.trans (heq.trans (hproposal.trans hid.symm)))
        constructor
        · rintro ⟨r, hr, hrproposal, hst⟩
          exact ⟨r, (hexecutions r).2 (.inr ⟨hr, hne r hrproposal⟩), hrproposal, hst⟩
        · rintro ⟨r, hr, hrproposal, hst⟩
          rcases (hexecutions r).1 hr with rfl | ⟨hr, -⟩
          · exact absurd rfl (hne r hrproposal)
          · exact ⟨r, hr, hrproposal, hst⟩
    · rcases (hexecutions r).1 hr with rfl | ⟨hr, hne⟩
      · exact ⟨p', hmem', hid.trans hproposal.symm⟩
      · obtain ⟨t, ht, htid⟩ := h.recordOf r hr
        refine ⟨t, (hproposals t).2 (.inr ⟨ht, fun heq => hne ?_⟩), htid⟩
        rw [← htid, heq, hid, hproposal]

/-- A success stays, and only an allowed attempt can bring one about. -/
def SuccessKept (may : String → Prop) (s s' : ProposalState rt) : Prop := ∀ proposalId,
  (Succeeded s proposalId → Succeeded s' proposalId) ∧
    (¬ may proposalId → Succeeded s' proposalId → Succeeded s proposalId)

theorem SuccessKept.refl {may : String → Prop} (s : ProposalState rt) : SuccessKept may s s :=
  fun _ => ⟨id, fun _ => id⟩

theorem SuccessKept.trans {may : String → Prop} (s₁ s₂ s₃ : ProposalState rt)
    (h : SuccessKept may s₁ s₂) (h' : SuccessKept may s₂ s₃) : SuccessKept may s₁ s₃ := by
  intro proposalId
  obtain ⟨hstays, honly⟩ := h proposalId
  obtain ⟨hstays', honly'⟩ := h' proposalId
  exact ⟨fun hs => hstays' (hstays hs), fun hnot hs => honly hnot (honly' hnot hs)⟩

theorem Move.successKept {may : String → Prop} (h : Recorded s) (hmove : Move may s s') :
    SuccessKept may s s' := by
  intro proposalId
  have hkeep : s'.executions = s.executions →
      (Succeeded s proposalId → Succeeded s' proposalId) ∧
        (¬ may proposalId → Succeeded s' proposalId → Succeeded s proposalId) := by
    intro hexecutions
    rw [Succeeded.congr hexecutions]
    exact ⟨id, fun _ => id⟩
  cases hmove with
  | idle _ _ _ _ hexecutions => exact hkeep hexecutions
  | created _ _ _ _ _ _ _ _ hexecutions => exact hkeep hexecutions
  | attached _ _ _ _ _ _ _ _ hexecutions => exact hkeep hexecutions
  | started _ _ _ _ _ _ _ _ _ _ _ hexecutions => exact hkeep hexecutions
  | balloted _ _ _ _ _ _ _ _ _ _ _ hexecutions => exact hkeep hexecutions
  | resolved _ _ _ _ _ _ _ _ _ _ _ _ _ hexecutions => exact hkeep hexecutions
  | attempted p p' e hmem hstrategy hallowed hexecutable hended hsame hproposals hsnapshots hballots
      hresolutions hproposal hsucceeded hexecutions =>
    constructor
    · rintro ⟨r, hr, hrproposal, hst⟩
      refine ⟨r, (hexecutions r).2 (.inr ⟨hr, fun heq => ?_⟩), hrproposal, hst⟩
      -- an executed proposal is not attempted again
      have hexecuted : p.status = .executed :=
        (h.executed p hmem hstrategy).2 ⟨r, hr, heq.trans hproposal, hst⟩
      rw [hexecuted] at hexecutable
      simp at hexecutable
    · rintro hnot ⟨r, hr, hrproposal, hst⟩
      rcases (hexecutions r).1 hr with rfl | ⟨hr, -⟩
      · exact absurd (hrproposal.symm.trans hproposal ▸ hallowed) hnot
      · exact ⟨r, hr, hrproposal, hst⟩

theorem proposalStep_recorded {step : ProposalStep rt} (h : Recorded s)
    (hstep : proposalStep s step = .ok s') :
    Recorded s' ∧ SuccessKept (fun proposalId => executes proposalId step = true) s s' :=
  (proposalStep_moves hstep).induction SuccessKept.refl SuccessKept.trans
    (fun _ _ h hmove _ => ⟨hmove.recorded h, hmove.successKept h⟩) h

theorem NoElectorate.recorded (h : NoElectorate s) : Recorded s := by
  refine ⟨fun p hp hstrategy => ?_, ?_⟩
  · rw [(h.proposals p hp).1] at hstrategy
    cases hstrategy
  · rw [h.executions]
    exact fun e he => absurd he List.not_mem_nil

/-! ## Attempts -/

/-- The assignments that are new. -/
def newAssignments (s s' : ProposalState rt) : List RoleAssignment :=
  s'.roles.db.assignments.rows.filter fun a =>
    !(s.roles.db.assignments.rows.any fun b => b.pk = a.pk)

/-- The directory, the credentials and the applications are the same. -/
structure SameAdmissions (s s' : ProposalState rt) : Prop where
  db : s'.roles.db = s.roles.db
  templates : s'.roles.templates = s.roles.templates
  grants : s'.roles.grants = s.roles.grants
  applications : s'.applications = s.applications

theorem SameAdmissions.newAssignments (h : SameAdmissions s s') : newAssignments s s' = [] := by
  rw [Proposals.newAssignments, h.db, List.filter_eq_nil_iff]
  intro a ha
  simpa using ⟨a, ha, rfl⟩

/-- What a successful admission leaves: one new assignment for the year, and an applicant and an
application that are admitted. -/
structure Admitted (s s' : ProposalState rt) (p : ApprovalProposal) (now : Nat)
    (a : RoleAssignment) : Prop where
  created : newAssignments s s' = [a]
  term : a.startAt = now ∧ a.endAt = termEnd now ∧ a.status = .active
  role : ∃ role ∈ s'.roles.db.roles.rows, role.pk = a.role ∧ role.name = roleCovenanter
  applicant : ∃ m ∈ s'.roles.db.members.rows, m.pk = a.member ∧ m.status = .admitted
  application : ∃ x ∈ s'.applications.rows, x.applicationId = p.targetId ∧
    x.linkedMember = some a.member ∧ x.status = .admitted

/-- The applicant has no active covenanter term that starts a year from now or later. -/
def NoLaterTerm (s : ProposalState rt) (now : Nat) (p : ApprovalProposal) : Prop :=
  ∀ application applicant db role, applicationFor s p = .ok application →
    application.linkedMember = some applicant →
    ensureCatalogRole s.roles.db roleCovenanter = .ok (db, role) →
    ∀ a ∈ s.roles.db.assignments.rows, a.member = applicant → a.role = role.pk →
      a.status = .active → a.startAt < termEnd now

/-- The assignment that an executor returns is new if no later term stands in its place. -/
theorem createRoleAssignment_new {roles roles' : RoleState rt} {renv : RoleEnv} {member : Nat}
    {role : Role} {grantedBy : Option Nat} {startAt endAt : Nat} {sourceType : SourceType}
    {a : RoleAssignment} (h : createRoleAssignment renv roles member role grantedBy (some startAt)
      (some endAt) sourceType false = .ok (roles', a))
    (hfree : ∀ b ∈ roles.db.assignments.rows, b.member = member → b.role = role.pk →
      b.status = .active → b.endAt ≤ startAt) :
    (roles'.db.assignments.rows.filter fun x =>
        !(roles.db.assignments.rows.any fun b => b.pk = x.pk)) = [a] ∧
      a.member = member ∧ a.role = role.pk ∧ a.startAt = startAt ∧ a.endAt = endAt ∧
      a.status = .active := by
  have hold : ∀ b ∈ (expireAssignments roles.db member role.pk startAt).assignments.rows,
      ∃ c ∈ roles.db.assignments.rows, c.pk = b.pk ∧ (b.status = .active → b = c) := by
    intro b hb
    rw [expireAssignments_rows] at hb
    obtain ⟨c, hc, rfl⟩ := List.mem_map.1 hb
    refine ⟨c, hc, ?_, ?_⟩
    · split <;> rfl
    · split
      · intro hst
        cases hst
      · exact fun _ => rfl
  cases createRoleAssignment_ok h with
  | reused mem current same =>
    obtain ⟨hmember, hrole, hactive, hlt⟩ := current
    obtain ⟨c, hc, -, hsame⟩ := hold a mem
    have hle := hfree c hc (hsame hactive ▸ hmember) (hsame hactive ▸ hrole) (hsame hactive ▸ hactive)
    rw [← hsame hactive] at hle
    exact absurd hle (not_le.2 hlt)
  | created rows fresh free row window same =>
    obtain ⟨hmember, hrole, hactive, hstart, hend, -, -⟩ := row
    refine ⟨?_, hmember, hrole, hstart, hend, hactive⟩
    rw [rows, List.filter_append, List.filter_eq_nil_iff.2, List.nil_append, List.filter_eq_self]
    · intro b hb
      obtain rfl := List.mem_singleton.1 hb
      simp only [Bool.not_eq_true', List.any_eq_false, decide_eq_true_eq]
      intro c hc hpk
      have hmem : (if elapsed member role.pk startAt c then { c with status := .expired } else c) ∈
          (expireAssignments roles.db member role.pk startAt).assignments.rows := by
        rw [expireAssignments_rows]
        exact List.mem_map_of_mem hc
      refine fresh _ hmem (Eq.trans ?_ hpk)
      split <;> rfl
    · intro b hb
      obtain ⟨c, hc, hpk, -⟩ := hold b hb
      simpa using ⟨c, hc, hpk⟩

theorem executeMemberAdmission_admitted {p : ApprovalProposal} {actor : Nat}
    {result : List (String × Json)} (h : executeMemberAdmission env s p actor = .ok (s', result))
    (hterm : NoLaterTerm s env.now p) : ∃ a, Admitted s s' p env.now a := by
  obtain ⟨application, happlication, h⟩ := bind_eq_ok.1 h
  obtain ⟨applicant, happlicant, h⟩ := bind_eq_ok.1 h
  obtain ⟨⟨db, role⟩, hcatalog, h⟩ := bind_eq_ok.1 h
  obtain ⟨hconflict, h⟩ := rejectIf_bind_eq_ok.1 h
  obtain ⟨⟨roles, a⟩, hcreate, h⟩ := bind_eq_ok.1 h
  obtain ⟨rfl, -⟩ := Prod.mk.inj (pure_eq_ok.1 h)
  obtain ⟨happmem, happid⟩ := applicationFor_ok happlication
  obtain ⟨hmember, hlinked⟩ := admissionPreconditions_ok happlicant
  obtain ⟨hsame, hrolemem, hrolename⟩ := ensureCatalogRole_covenanter hcatalog
  have hfree : ∀ b ∈ db.assignments.rows, b.member = applicant.pk → b.role = role.pk →
      b.status = .active → b.endAt ≤ env.now := by
    intro b hb hbmember hbrole hbactive
    by_contra hlt
    refine hconflict (List.any_eq_true.2 ⟨b, hb, ?_⟩)
    have hstart := hterm application applicant.pk db role happlication hlinked hcatalog b
      (hsame.assignments ▸ hb) hbmember hbrole hbactive
    simp [hbmember, hbrole, hbactive, hstart, not_le.1 hlt]
  obtain ⟨hnew, hamember, harole, hastart, haend, hastatus⟩ :=
    createRoleAssignment_new hcreate hfree
  obtain ⟨hmembers, hroles⟩ := createRoleAssignment_members hcreate
  refine ⟨a, ?_, ⟨hastart, haend, hastatus⟩, ⟨role, ?_, harole.symm, hrolename⟩, ?_, ?_⟩
  · rw [newAssignments, ← hnew, hsame.assignments]
    rfl
  · exact hroles ▸ hrolemem
  · refine ⟨{ applicant with status := .admitted }, ?_, hamember.symm, rfl⟩
    refine List.mem_map.2 ⟨applicant, ?_, if_pos rfl⟩
    rw [hmembers, hsame.members]
    exact hmember
  · refine ⟨_, List.mem_map.2 ⟨application, happmem, if_pos rfl⟩, happid, ?_, rfl⟩
    rw [hamember]
    exact hlinked

/-- The record that a call returns is the one of its proposal. -/
theorem Executed.record {proposalId : String} {actor : Member} {e : ProposalExecutionRecord}
    (h : Executed env s s' proposalId actor e) :
    e ∈ s'.executions.rows ∧ e.proposal = proposalId := by
  cases h with
  | before same mem proposal succeeded =>
    subst same
    exact ⟨mem, proposal⟩
  | attempted p q e₀ s₁ s₂ eventType action hmem hpk hstrategy hexecutable hq he hstart htried
      hevent =>
    obtain ⟨-, hproposal, hrecord⟩ := startExecution_ok hstart
    have he₀ : e₀ ∈ s₂.executions.rows := by
      rcases htried with ⟨rfl, -⟩ | ⟨⟨result, hexecutor⟩, -⟩
      · exact (hrecord e₀).2 (.inl rfl)
      · rw [(executeMemberAdmission_ok hexecutor).1]
        exact (hrecord e₀).2 (.inl rfl)
    refine ⟨?_, ?_⟩
    · rw [(appendProposalEvent_sameVotes hevent).executions]
      exact (saveExecution_replaces he₀ (by rw [he]) e).2 (.inl rfl)
    · rw [he]
      exact hproposal.trans hpk

/-- An attempt that fails leaves members, assignments, credentials and applications as they were;
one that succeeds admits the applicant if no later term is in the way. -/
theorem Executed.effect {proposalId : String} {actor : Member} {e : ProposalExecutionRecord}
    (h : Executed env s s' proposalId actor e) :
    (s' = s ∧ Succeeded s proposalId) ∨ (SameAdmissions s s' ∧ e.status = .failed) ∨
      e.status = .succeeded ∧ ∃ p ∈ s.proposals.rows, p.proposalId = proposalId ∧
        p.strategyType = .electorate ∧ p.status ≠ .executed ∧
        (NoLaterTerm s env.now p → ∃ a, Admitted s s' p env.now a) := by
  cases h with
  | before same mem proposal succeeded => exact .inl ⟨same, e, mem, proposal, succeeded⟩
  | attempted p q e₀ s₁ s₂ eventType action hmem hpk hstrategy hexecutable hq he hstart htried
      hevent =>
    right
    obtain ⟨hs₁, -, -⟩ := startExecution_ok hstart
    obtain ⟨events, hs'⟩ := appendProposalEvent_ok hevent
    rcases htried with ⟨rfl, hfailed, -⟩ | ⟨⟨result, hexecutor⟩, hsucceeded, -⟩
    · left
      rw [hs₁] at hs'
      rw [hs']
      exact ⟨⟨rfl, rfl, rfl, rfl⟩, hfailed⟩
    · right
      refine ⟨hsucceeded, p, hmem, hpk, hstrategy, ?_, fun hterm => ?_⟩
      · rcases hexecutable with hst | hst <;> rw [hst] <;> simp
      · have hterm₁ : NoLaterTerm s₁ env.now p := by
          rw [hs₁]
          exact hterm
        obtain ⟨a, ha⟩ := executeMemberAdmission_admitted hexecutor hterm₁
        have hroles : s₁.roles = s.roles := by rw [hs₁]
        refine ⟨a, ?_⟩
        rw [hs']
        refine ⟨?_, ha.term, ha.role, ha.applicant, ha.application⟩
        rw [← ha.created, newAssignments, newAssignments, hroles]
        rfl

/-! ## Runs -/

/-- The assignments that the executions of the proposal create in a run. -/
def grantedAssignments (proposalId : String) : ProposalState rt → List (ProposalStep rt) →
    List RoleAssignment
  | _, [] => []
  | s, step :: steps =>
    (if executes proposalId step then newAssignments s (afterCall proposalStep s step) else []) ++
      grantedAssignments proposalId (afterCall proposalStep s step) steps

/-- A step that executes the proposal finds no later term. -/
def NoLaterTermAt (proposalId : String) (s : ProposalState rt) : ProposalStep rt → Prop
  | .call env (.execute id _) => id = proposalId →
    ∀ p ∈ s.proposals.rows, p.proposalId = proposalId → NoLaterTerm s env.now p
  | _ => True

/-- One execution of the run has succeeded and created the one assignment. -/
def GrantedBy (proposalId : String) (s : ProposalState rt) (steps : List (ProposalStep rt)) : Prop :=
  ∃ before env actor after s' p a,
    steps = before ++ .call env (.execute proposalId actor) :: after ∧
    proposalStep (runCalls proposalStep s before) (.call env (.execute proposalId actor)) = .ok s' ∧
    p ∈ (runCalls proposalStep s before).proposals.rows ∧ p.proposalId = proposalId ∧
    Admitted (runCalls proposalStep s before) s' p env.now a ∧
    grantedAssignments proposalId s steps = [a]

theorem executes_eq_true {proposalId : String} {step : ProposalStep rt}
    (h : executes proposalId step = true) :
    ∃ env actor, step = .call env (.execute proposalId actor) := by
  unfold executes at h
  split at h
  · rename_i env id actor
    obtain rfl := of_decide_eq_true h
    exact ⟨env, actor, rfl⟩
  · cases h

/-- Once a proposal is executed, calls create nothing. -/
theorem grantedAssignments_of_succeeded {proposalId : String} {steps : List (ProposalStep rt)}
    (h : Recorded s) (hs : Succeeded s proposalId) : grantedAssignments proposalId s steps = [] := by
  induction steps generalizing s with
  | nil => rfl
  | cons step steps ih =>
    rw [grantedAssignments, List.append_eq_nil_iff]
    cases hstep : proposalStep s step with
    | error err =>
      rw [afterCall_error hstep]
      refine ⟨?_, ih h hs⟩
      split
      · exact SameAdmissions.newAssignments ⟨rfl, rfl, rfl, rfl⟩
      · rfl
    | ok s₁ =>
      rw [afterCall_ok hstep]
      obtain ⟨hrecorded, hkept⟩ := proposalStep_recorded h hstep
      refine ⟨?_, ih hrecorded ((hkept proposalId).1 hs)⟩
      split
      · rename_i hexecutes
        obtain ⟨env, actor, rfl⟩ := executes_eq_true hexecutes
        obtain ⟨⟨s₂, e⟩, hcall, hstep⟩ := bind_eq_ok.1 hstep
        obtain rfl := pure_eq_ok.1 hstep
        rcases (executeElectorateProposal_ok hcall).effect with ⟨rfl, -⟩ | ⟨hsame, -⟩ | hsucceeded
        · exact SameAdmissions.newAssignments ⟨rfl, rfl, rfl, rfl⟩
        · exact hsame.newAssignments
        · obtain ⟨-, p, hp, hpid, hstrategy, hst, -⟩ := hsucceeded
          exact absurd ((h.executed p hp hstrategy).2 (hpid ▸ hs)) hst
      · rfl

theorem run_succeeded {proposalId : String} (steps : List (ProposalStep rt))
    (h : Recorded s ∧ Succeeded s proposalId) : Recorded (runCalls proposalStep s steps) ∧
      Succeeded (runCalls proposalStep s steps) proposalId := by
  let Inv (s : ProposalState rt) : Prop := Recorded s ∧ Succeeded s proposalId
  have hstep : ∀ s c s', Inv s → proposalStep s c = .ok s' → Inv s' := by
    intro s₁ step s₂ hinv hstep
    obtain ⟨hrecorded, hkept⟩ := proposalStep_recorded hinv.1 hstep
    exact ⟨hrecorded, (hkept proposalId).1 hinv.2⟩
  exact runCalls_invariant hstep h steps

/-- The executions of a proposal create nothing until one of them succeeds. -/
theorem run_granted {proposalId : String} {steps : List (ProposalStep rt)} (h : Recorded s)
    (hs : ¬ Succeeded s proposalId)
    (hsteps : EachCall proposalStep (NoLaterTermAt proposalId) s steps) :
    (¬ Succeeded (runCalls proposalStep s steps) proposalId ∧
      grantedAssignments proposalId s steps = []) ∨
      (Succeeded (runCalls proposalStep s steps) proposalId ∧ GrantedBy proposalId s steps) := by
  induction steps generalizing s with
  | nil => exact .inl ⟨hs, rfl⟩
  | cons step steps ih =>
    obtain ⟨hstepOk, hsteps⟩ := hsteps
    -- a step that creates nothing and does not succeed leaves the rest of the run to decide
    have hquiet : Recorded (afterCall proposalStep s step) →
        ¬ Succeeded (afterCall proposalStep s step) proposalId →
        (if executes proposalId step then newAssignments s (afterCall proposalStep s step)
          else []) = [] →
        (¬ Succeeded (runCalls proposalStep s (step :: steps)) proposalId ∧
          grantedAssignments proposalId s (step :: steps) = []) ∨
        (Succeeded (runCalls proposalStep s (step :: steps)) proposalId ∧
          GrantedBy proposalId s (step :: steps)) := by
      intro hrecorded hnot hnone
      rw [runCalls_cons]
      rcases ih hrecorded hnot hsteps with ⟨hend, hgranted⟩ | ⟨hend, hgranted⟩
      · left
        rw [grantedAssignments, hnone, hgranted]
        exact ⟨hend, rfl⟩
      · right
        obtain ⟨before, env, actor, after, s', p, a, rfl, hok, hp, hpid, hadmitted, hlist⟩ := hgranted
        refine ⟨hend, step :: before, env, actor, after, s', p, a, rfl, hok, hp, hpid, hadmitted, ?_⟩
        rw [grantedAssignments, hnone, hlist]
        rfl
    cases hstep : proposalStep s step with
    | error err =>
      refine hquiet ?_ ?_ ?_ <;> rw [afterCall_error hstep]
      · exact h
      · exact hs
      · split
        · exact SameAdmissions.newAssignments ⟨rfl, rfl, rfl, rfl⟩
        · rfl
    | ok s₁ =>
      obtain ⟨hrecorded, hkept⟩ := proposalStep_recorded h hstep
      rw [afterCall_ok hstep] at hquiet
      by_cases hexecutes : executes proposalId step = true
      · obtain ⟨env, actor, rfl⟩ := executes_eq_true hexecutes
        have hcalled := hstep
        obtain ⟨⟨s₂, e⟩, hcall, hstep⟩ := bind_eq_ok.1 hstep
        obtain rfl := pure_eq_ok.1 hstep
        have hexecuted := executeElectorateProposal_ok hcall
        obtain ⟨he, heid⟩ := hexecuted.record
        rcases hexecuted.effect with ⟨-, hbefore⟩ | ⟨hsame, hfailed⟩ | hsucceeded
        · exact absurd hbefore hs
        · refine hquiet hrecorded ?_ ?_
          · rintro ⟨r, hr, hrid, hst⟩
            obtain rfl := s₂.executions.eq_of_alt hr he (congrArg some (hrid.trans heid.symm)) rfl
            rw [hfailed] at hst
            cases hst
          · rw [if_pos hexecutes]
            exact hsame.newAssignments
        · obtain ⟨hst, p, hp, hpid, -, -, hadmits⟩ := hsucceeded
          obtain ⟨a, ha⟩ := hadmits (hstepOk rfl p hp hpid)
          have hdone : Succeeded s₂ proposalId := ⟨e, he, heid, hst⟩
          right
          rw [runCalls_cons, afterCall_ok hcalled]
          refine ⟨(run_succeeded steps ⟨hrecorded, hdone⟩).2, [], env, actor, steps, s₂, p, a, rfl,
            hcalled, hp, hpid, ha, ?_⟩
          rw [grantedAssignments, afterCall_ok hcalled, if_pos hexecutes, ha.created,
            grantedAssignments_of_succeeded hrecorded hdone, List.append_nil]
      · have hfalse : executes proposalId step = false := by simpa using hexecutes
        refine hquiet hrecorded (fun hdone => hs ((hkept proposalId).2 hexecutes hdone)) ?_
        rw [hfalse]
        rfl

/-- What the executions of a proposal leave after a run. -/
structure AdmittedOnce (s₀ : ProposalState rt) (steps : List (ProposalStep rt))
    (proposalId : String) : Prop where
  /-- The proposal is executed exactly when its record says so, and it has one record. -/
  recorded : ∀ p ∈ (runCalls proposalStep s₀ steps).proposals.rows, p.proposalId = proposalId →
    p.strategyType = .electorate →
    (p.status = .executed ↔ Succeeded (runCalls proposalStep s₀ steps) proposalId)
  single : ∀ e ∈ (runCalls proposalStep s₀ steps).executions.rows,
    ∀ e' ∈ (runCalls proposalStep s₀ steps).executions.rows,
      e.proposal = proposalId → e'.proposal = proposalId → e = e'
  /-- One call created one assignment and admitted the applicant. -/
  executed : Succeeded (runCalls proposalStep s₀ steps) proposalId → GrantedBy proposalId s₀ steps
  unexecuted : ¬ Succeeded (runCalls proposalStep s₀ steps) proposalId →
    grantedAssignments proposalId s₀ steps = []
  /-- A call that ends with a failed attempt undoes what the executor did. -/
  failed : ∀ before env actor after s' e,
    steps = before ++ .call env (.execute proposalId actor) :: after →
    executeElectorateProposal env (runCalls proposalStep s₀ before) proposalId actor =
      .ok (s', e) → e.status = .failed →
    SameAdmissions (runCalls proposalStep s₀ before) s'

/-- **Admissions.** In every run whose executions find no later term in their way, an admission is
executed once and leaves one assignment for the year of the call. -/
theorem memberAdmission_once {s₀ : ProposalState rt} (h₀ : NoElectorate s₀)
    {steps : List (ProposalStep rt)} {proposalId : String}
    (hsteps : EachCall proposalStep (NoLaterTermAt proposalId) s₀ steps) :
    AdmittedOnce s₀ steps proposalId := by
  have hrecorded : Recorded (runCalls proposalStep s₀ steps) :=
    runCalls_invariant (fun _ _ _ h hstep => (proposalStep_recorded h hstep).1) h₀.recorded steps
  have hnot : ¬ Succeeded s₀ proposalId := by
    rintro ⟨e, he, -⟩
    rw [h₀.executions] at he
    cases he
  have hrun := run_granted h₀.recorded hnot hsteps
  refine ⟨fun p hp hpid hstrategy => ?_, fun e he e' he' hid hid' => ?_, fun hs => ?_,
    fun hs => ?_, ?_⟩
  · rw [hrecorded.executed p hp hstrategy, hpid]
  · exact Table.eq_of_alt _ he he' (congrArg some (hid.trans hid'.symm)) rfl
  · rcases hrun with ⟨hend, -⟩ | ⟨-, hgranted⟩
    · exact absurd hs hend
    · exact hgranted
  · rcases hrun with ⟨-, hnone⟩ | ⟨hend, -⟩
    · exact hnone
    · exact absurd hend hs
  · intro before env actor after s' e _ hcall hfailed
    rcases (executeElectorateProposal_ok hcall).effect with ⟨rfl, -⟩ | ⟨hsame, -⟩ | ⟨hst, -⟩
    · exact ⟨rfl, rfl, rfl, rfl⟩
    · exact hsame
    · rw [hfailed] at hst
      cases hst

/-! ## A later term -/

def steward : Member := ⟨33, "m-33", none, "", .active, []⟩

def catalogOrganization : Organization :=
  ⟨51, roleCatalogOrganizationName, some roleCatalogOrganizationKey, .active⟩

def covenanterRow : Role := ⟨52, 51, roleCovenanter, "", .active⟩

/-- The role that may execute admissions. -/
def peopleRole : Role := ⟨53, 54, "人事", "", .active⟩

def activeTerm (pk member role startAt : Nat) : RoleAssignment :=
  ⟨pk, member, role, .active, startAt, startAt + days 365, none, none, .direct⟩

/-- The steward is a covenanter who may manage people. -/
def stewardTerms : List RoleAssignment := [activeTerm 55 33 52 0, activeTerm 56 33 53 0]

/-- The applicant was given a term that begins a year and a day after the admission. -/
def laterTerm : RoleAssignment := activeTerm 57 31 52 (10 + days 366)

def governedRoles (assignments : AssignmentTable) : RoleState textRuntime where
  db := {
    members := ⟨[newcomer, neighbour, steward], by decide, by decide⟩
    organizations := ⟨[catalogOrganization], List.nodup_singleton _, List.nodup_singleton _⟩
    roles := ⟨[covenanterRow, peopleRole], by decide, by decide⟩
    assignments := assignments
    rolePermissions := [⟨53, "governance.manage_people"⟩]
    domains := Table.empty
    qualifications := Table.empty }
  templates := Table.empty
  grants := Table.empty
  events := Journal.empty

/-- The vote and the appointment of the steward. -/
def appointmentSteps (assignments : AssignmentTable) : List (ProposalStep textRuntime) :=
  admissionVote ++ [.change (governedRoles assignments)]

/-- The vote, the appointment and the execution. -/
def executionSteps (assignments : AssignmentTable) : List (ProposalStep textRuntime) :=
  appointmentSteps assignments ++ [.call (envAt 10 "e") (.execute "proposal-a" steward)]

def laterTermSteps : List (ProposalStep textRuntime) :=
  executionSteps ⟨stewardTerms ++ [laterTerm], by decide, List.nodup_nil⟩

/-- The proposal is executed, but the applicant gets no term for the year. -/
theorem laterTerm_notAdmittedOnce : NoElectorate villageState ∧
    ¬ AdmittedOnce villageState laterTermSteps "proposal-a" := by
  refine ⟨villageState_noElectorate, fun h => ?_⟩
  obtain ⟨hsucceeded, hnone⟩ :
      Succeeded (runCalls proposalStep villageState laterTermSteps) "proposal-a" ∧
        (grantedAssignments "proposal-a" villageState laterTermSteps).length = 0 := by
    unfold Succeeded
    decide +kernel
  obtain ⟨before, env, actor, after, s', p, a, -, -, -, -, -, hone⟩ := h.executed hsucceeded
  rw [hone] at hnone
  cases hnone

def plainTerms : AssignmentTable := ⟨stewardTerms, by decide, List.nodup_nil⟩

/-- Without the later term the execution gives the year. -/
theorem plainExecution_admittedOnce :
    AdmittedOnce villageState (executionSteps plainTerms) "proposal-a" ∧
      Succeeded (runCalls proposalStep villageState (executionSteps plainTerms)) "proposal-a" := by
  constructor
  · obtain ⟨hlinks, hterms⟩ :
        (∀ x ∈ (runCalls proposalStep villageState
          (appointmentSteps plainTerms)).applications.rows, x.linkedMember = some 31) ∧
        ∀ x ∈ (runCalls proposalStep villageState
          (appointmentSteps plainTerms)).roles.db.assignments.rows, x.member ≠ 31 := by
      decide +kernel
    refine memberAdmission_once villageState_noElectorate
      (EachCall.append ⟨trivial, trivial, trivial, trivial, trivial⟩ ⟨fun _ p _ _ => ?_, trivial⟩)
    intro application applicant db role happlication hlinked _ a ha hmember
    have hthe := hlinks application (applicationFor_ok happlication).1
    rw [hlinked] at hthe
    exact absurd (hmember.trans (Option.some.inj hthe)) (hterms a ha)
  · unfold Succeeded
    decide +kernel

end LiveOs.Proposals
