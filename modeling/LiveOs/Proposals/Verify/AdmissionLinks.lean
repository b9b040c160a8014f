import LiveOs.Proposals.Verify.Submissions

/-!
# The proposal an application names

`admission_proposal` of an application is its one admission proposal. The services keep the id, the
type and the target of a proposal, and set the field of one application only.
-/

namespace LiveOs.Proposals

open Lib EventLedger Roles
open Planning (Python)

variable {rt : Runtime} {py : Python} {env : ApplicationEnv} {s s' s₁ : ApplicationState rt}
  {t t' t₁ : ProposalState rt} {p q : ApprovalProposal} {a : MemberApplication}

/-! ## Targets -/

/-- Proposals keep their type and their target. -/
def TargetsKept (t t' : ProposalState rt) : Prop := ∀ p ∈ t.proposals.rows,
  ∃ p' ∈ t'.proposals.rows, p'.proposalId = p.proposalId ∧ p'.proposalType = p.proposalType ∧
    p'.targetId = p.targetId

theorem TargetsKept.refl (t : ProposalState rt) : TargetsKept t t :=
  fun p hp => ⟨p, hp, rfl, rfl, rfl⟩

theorem TargetsKept.trans (h : TargetsKept t t₁) (h' : TargetsKept t₁ t') : TargetsKept t t' := by
  intro p hp
  obtain ⟨p₁, hp₁, hid₁, htype₁, htarget₁⟩ := h p hp
  obtain ⟨p₂, hp₂, hid₂, htype₂, htarget₂⟩ := h' p₁ hp₁
  exact ⟨p₂, hp₂, hid₂.trans hid₁, htype₂.trans htype₁, htarget₂.trans htarget₁⟩

theorem TargetsKept.of_replaces (hmem : p ∈ t.proposals.rows) (hreplaces : Replaces t t' q)
    (hid : q.proposalId = p.proposalId) (htype : q.proposalType = p.proposalType)
    (htarget : q.targetId = p.targetId) : TargetsKept t t' := by
  intro x hx
  by_cases hsame : x.proposalId = p.proposalId
  · obtain rfl := t.proposals.eq_of_pk hx hmem hsame
    exact ⟨q, (hreplaces q).2 (.inl rfl), hid, htype, htarget⟩
  · exact ⟨x, (hreplaces x).2 (.inr ⟨hx, hid.symm ▸ hsame⟩), rfl, rfl, rfl⟩

theorem Move.targetsKept {may : String → Prop} (h : Move may t t') : TargetsKept t t' := by
  have hsame : t'.proposals = t.proposals → TargetsKept t t' :=
    fun heq p hp => ⟨p, heq ▸ hp, rfl, rfl, rfl⟩
  cases h with
  | idle hproposals => exact hsame hproposals
  | created p _ hproposals =>
    exact fun q hq => ⟨q, hproposals ▸ List.mem_append_left _ hq, rfl, rfl, rfl⟩
  | attached p _ hmem _ hproposals => exact .of_replaces hmem hproposals rfl rfl rfl
  | started p rule now hmem _ _ _ hproposals => exact .of_replaces hmem hproposals rfl rfl rfl
  | balloted _ _ _ _ _ _ _ _ hproposals => exact hsame hproposals
  | resolved p _ _ _ _ _ hmem _ _ hproposals => exact .of_replaces hmem hproposals rfl rfl rfl
  | attempted p p' _ hmem _ _ _ _ hsame' hproposals =>
    refine .of_replaces hmem hproposals ?_ ?_ ?_ <;> rw [hsame']

theorem Moves.targetsKept {may : String → Prop} (h : Moves may t t') : TargetsKept t t' := by
  have hmove : ∀ t t' : ProposalState rt, True → Move may t t' → Kept t t' →
      True ∧ TargetsKept t t' := fun _ _ _ hmove _ => ⟨trivial, hmove.targetsKept⟩
  exact (h.induction TargetsKept.refl (fun _ _ _ => TargetsKept.trans) hmove trivial).2

/-! ## The field -/

/-- The application names its admission proposal and no other. -/
def Names (s : ApplicationState rt) (applicationId : String) : Prop :=
  ∃ p ∈ s.proposals.proposals.rows, p.proposalType = .memberApplication ∧
    p.targetId = applicationId ∧
    ∀ id, (applicationId, id) ∈ s.admissionProposals ↔ id = p.proposalId

/-- Every application does. -/
def AllNamed (s : ApplicationState rt) : Prop :=
  ∀ a ∈ s.proposals.applications.rows, Names s a.applicationId

theorem Names.of_targetsKept {applicationId : String} (h : Names s applicationId)
    (htargets : TargetsKept s.proposals s'.proposals)
    (hlinks : ∀ id, (applicationId, id) ∈ s'.admissionProposals ↔
      (applicationId, id) ∈ s.admissionProposals) : Names s' applicationId := by
  obtain ⟨p, hp, htype, htarget, hlink⟩ := h
  obtain ⟨p', hp', hid, htype', htarget'⟩ := htargets p hp
  exact ⟨p', hp', htype'.trans htype, htarget'.trans htarget, fun id => by
    rw [hlinks, hlink, hid]⟩

theorem mem_setAdmissionProposal {links : List (String × String)}
    {applicationId proposalId other id : String} :
    (other, id) ∈ setAdmissionProposal links applicationId proposalId ↔
      (other ≠ applicationId ∧ (other, id) ∈ links) ∨
        (other = applicationId ∧ id = proposalId) := by
  simp [setAdmissionProposal, and_comm]

/-- The target of an admission proposal is known by its key. -/
theorem Filed.targetId (h : Filed t) {applicationId : String} (hp : p ∈ t.proposals.rows)
    (htype : p.proposalType = .memberApplication)
    (hkey : p.dedupeKey = "member-application:" ++ applicationId) : p.targetId = applicationId := by
  obtain ⟨b, -, hadmission⟩ := h.applicationOf p hp htype
  rw [hadmission.targetId]
  exact (String.append_right_inj _).1 (hadmission.dedupeKey.symm.trans hkey)

/-- A request for the proposal sets the field of its application. -/
theorem createApprovalProposalForApplication_names {penv : ProposalEnv} {m : Member}
    (htarget : ∀ p ∈ s.proposals.proposals.rows, p.proposalType = .memberApplication →
      p.dedupeKey = "member-application:" ++ a.applicationId → p.targetId = a.applicationId)
    (hothers : ∀ b ∈ s.proposals.applications.rows, b.applicationId ≠ a.applicationId →
      Names s b.applicationId)
    (h : createApprovalProposalForApplication penv s a m = .ok (s', p)) : AllNamed s' := by
  obtain ⟨-, h⟩ := rejectIf_bind_eq_ok.1 h
  obtain ⟨⟨t, q⟩, hcreate, h⟩ := bind_eq_ok.1 h
  have hmoves : Moves (fun _ => True) s.proposals t := createElectorateProposal_moves hcreate
  have hnew : q ∈ t.proposals.rows ∧ q.proposalType = .memberApplication ∧
      q.targetId = a.applicationId ∧ t.applications = s.proposals.applications := by
    rcases createElectorateProposal_admission hcreate with
      ⟨rfl, hq, htype, hkey⟩ | ⟨hq, hrows, happlications, -⟩
    · exact ⟨hq, htype, htarget q hq htype hkey, rfl⟩
    · refine ⟨hrows ▸ List.mem_append_right _ (List.mem_singleton_self q), ?_, ?_, happlications⟩
      · rw [hq]
        rfl
      · rw [hq]
        rfl
  obtain ⟨hq, htype, hqtarget, happlications⟩ := hnew
  have hstored : ∃ t', s' = { s with
      proposals := t'
      admissionProposals := setAdmissionProposal s.admissionProposals a.applicationId
        q.proposalId } ∧ TargetsKept t t' ∧ t'.applications = t.applications := by
    dsimp only at h
    split at h
    · obtain ⟨⟨t', q'⟩, hstart, h⟩ := bind_eq_ok.1 h
      obtain ⟨rfl, -⟩ := Prod.mk.inj (pure_eq_ok.1 h)
      have hmoves' : Moves (fun _ => True) t t' := startElectorateVoting_moves hstart
      exact ⟨t', rfl, hmoves'.targetsKept, (startElectorateVoting_steady hstart).applications⟩
    · obtain ⟨rfl, -⟩ := Prod.mk.inj (pure_eq_ok.1 h)
      exact ⟨t, rfl, .refl t, rfl⟩
  obtain ⟨t', rfl, hlater, happlications'⟩ := hstored
  intro b hb
  by_cases hid : b.applicationId = a.applicationId
  · obtain ⟨q', hq', hqid, hqtype, hqtarget'⟩ := hlater q hq
    refine ⟨q', hq', hqtype.trans htype, ?_, fun id => ?_⟩
    · rw [hqtarget', hqtarget, hid]
    · rw [mem_setAdmissionProposal, hqid]
      simp [hid]
  · rw [happlications', happlications] at hb
    refine (hothers b hb hid).of_targetsKept (hmoves.targetsKept.trans hlater) fun id => ?_
    rw [mem_setAdmissionProposal]
    simp [hid]

/-! ## Steps and runs -/

theorem AllNamed.of_same (h : AllNamed s) (happlications : s'.proposals.applications.rows =
      s.proposals.applications.rows) (hproposals : s'.proposals.proposals = s.proposals.proposals)
    (hlinks : s'.admissionProposals = s.admissionProposals) : AllNamed s' := by
  intro a ha
  refine (h a (happlications ▸ ha)).of_targetsKept ?_ fun id => by rw [hlinks]
  exact fun p hp => ⟨p, hproposals ▸ hp, rfl, rfl, rfl⟩

/-- A call on proposals adds no application. -/
theorem FileEffect.applicationOf (h : FileEffect t t') (ha : a ∈ t'.applications.rows) :
    ∃ b ∈ t.applications.rows, a.applicationId = b.applicationId := by
  cases h with
  | steady h => exact ⟨a, h.applications ▸ ha, rfl⟩
  | closed p p' st h =>
    obtain ⟨b, hb, hid, -⟩ := h.application ha
    exact ⟨b, hb, hid⟩

theorem submitMemberApplication_named {args : ApplicationArgs} (hfiled : Filed s.proposals)
    (hnamed : AllNamed s) (h : submitMemberApplication py env s args = .ok (s', a)) :
    AllNamed s' := by
  obtain ⟨memberNo, s₁, account, s₂, option, -, haccount, -, -, htemplates, -, hstore⟩ :=
    submitMemberApplication_ok h
  obtain ⟨accounts, rfl⟩ := applicationAccount_accounts haccount
  obtain ⟨happlications, hproposals, hdb⟩ := ensureTemplates_ok htemplates
  have hsame := ensureTemplates_sameBallots htemplates
  have hfiled₂ : Filed s₂.proposals :=
    Steady.filed hfiled (.of_same happlications (by rw [hdb]) hproposals)
  have hnamed₂ : AllNamed s₂ :=
    hnamed.of_same (by rw [happlications]) hproposals hsame.admissionProposals
  obtain ⟨new, s₃, member, s₄, s₅, p, -, hbind, -, -, hrows, -, hkept, hcreate, rfl⟩ :=
    storeApplication_proposes hstore
  have hbound := bindMember_bound (fun m hm => ?_) hbind
  · refine createApprovalProposalForApplication_names (fun q hq htype hkey => ?_)
      (fun b hb hne => ?_) hcreate
    · rw [hkept.proposals] at hq
      exact hfiled₂.targetId hq htype hkey
    · rw [hrows, hbound.applications] at hb
      rcases List.mem_append.1 hb with hold | hnew
      · refine (hnamed₂ b hold).of_targetsKept (fun q hq => ?_) fun id => by
          rw [hkept.admissionProposals]
        exact ⟨q, hkept.proposals ▸ hq, rfl, rfl, rfl⟩
      · exact absurd (congrArg MemberApplication.applicationId (List.mem_singleton.1 hnew)) hne
  · rw [hdb]
    exact accountMember_mem hm

/-- **One step.** -/
theorem applicationStep_named {step : ApplicationStep rt} (hfiled : Filed s.proposals)
    (hnamed : AllNamed s) (h : applicationStep py s step = .ok s') : AllNamed s' := by
  cases step with
  | submit env args =>
    obtain ⟨⟨s₁, x⟩, hsubmit, h⟩ := bind_eq_ok.1 h
    obtain rfl := pure_eq_ok.1 h
    exact submitMemberApplication_named hfiled hnamed hsubmit
  | propose env applicationId member =>
    simp only [applicationStep] at h
    split at h
    · cases h
    · obtain ⟨⟨s₁, p⟩, hcreate, h⟩ := bind_eq_ok.1 h
      obtain rfl := pure_eq_ok.1 h
      exact createApprovalProposalForApplication_names
        (fun q hq htype hkey => hfiled.targetId hq htype hkey) (fun b hb _ => hnamed b hb) hcreate
  | electorate env c =>
    obtain ⟨proposals, hcall, h⟩ := bind_eq_ok.1 h
    obtain rfl := pure_eq_ok.1 h
    intro b hb
    obtain ⟨a, ha, hid⟩ := (electorateCall_effect hcall).applicationOf hb
    have hmoves := @proposalStep_moves _ _ _ (.call env c.toCall) hcall
    rw [hid]
    exact (hnamed a ha).of_targetsKept hmoves.targetsKept fun _ => Iff.rfl
  | publish env rule =>
    obtain ⟨proposals, hcall, h⟩ := bind_eq_ok.1 h
    obtain rfl := pure_eq_ok.1 h
    obtain ⟨rules, -, hcall⟩ := bind_eq_ok.1 hcall
    obtain rfl := pure_eq_ok.1 hcall
    exact hnamed.of_same rfl rfl rfl
  | retire ruleCodes =>
    obtain rfl := Except.ok.inj h
    exact hnamed.of_same rfl rfl rfl
  | recruit details =>
    obtain rfl := Except.ok.inj h
    exact hnamed.of_same rfl rfl rfl
  | roles roles =>
    obtain rfl := Except.ok.inj h
    exact hnamed.of_same rfl rfl rfl

/-- **Every run.** -/
theorem runApplications_named (hfiled : Filed s.proposals) (hnamed : AllNamed s)
    (steps : List (ApplicationStep rt)) : AllNamed (runCalls (applicationStep py) s steps) :=
  (@runCalls_invariant _ _ _ _ (fun s => Filed s.proposals ∧ AllNamed s)
    (fun _ _ _ h hstep => ⟨(applicationStep_filed h.1 hstep).1,
      applicationStep_named h.1 h.2 hstep⟩) _ ⟨hfiled, hnamed⟩ steps).2

end LiveOs.Proposals
