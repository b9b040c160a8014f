import LiveOs.Proposals.Applications
import LiveOs.Proposals.Verify.Services

/-!
# Applications and their proposals

Every application has one admission proposal, and the status of either says what the other is. A
call on proposals moves live ones on, or closes one of them together with its application; both
keep the files in order.
-/

namespace LiveOs.Proposals

open Lib EventLedger Roles

variable {rt : Runtime} {env : ProposalEnv} {s s' s₁ : ProposalState rt}
  {p p' q : ApprovalProposal} {a b : MemberApplication} {st : ApplicationStatus}

/-! ## Files -/

/-- Not decided on, or approved and not executed. -/
def ProposalStatus.Live (status : ProposalStatus) : Prop :=
  status = .draft ∨ status = .awaitingPolicy ∨ status = .voting ∨ status = .approved ∨
    status = .executionFailed

/-- What the status of a proposal says about its application. -/
def ProposalStatus.Means : ProposalStatus → ApplicationStatus → Prop
  | .draft, st | .awaitingPolicy, st | .voting, st | .approved, st | .executionFailed, st =>
    st = .submitted
  | .rejected, st | .expired, st => st = .rejected
  | .executed, st => st = .admitted
  | .submitted, _ | .cancelled, _ => False

theorem ProposalStatus.Live.means {status : ProposalStatus} (h : status.Live) :
    status.Means st ↔ st = .submitted := by
  rcases h with rfl | rfl | rfl | rfl | rfl <;> exact Iff.rfl

/-- The proposal decides on the application. -/
structure AdmissionOf (p : ApprovalProposal) (a : MemberApplication) : Prop where
  proposalType : p.proposalType = .memberApplication
  strategy : p.strategyType = .electorate
  targetType : p.targetType = "member_application"
  targetId : p.targetId = a.applicationId
  dedupeKey : p.dedupeKey = "member-application:" ++ a.applicationId
  means : p.status.Means a.status

/-- Applications and admission proposals belong together, applicants wait while their application
is submitted, and nobody has two of these. -/
structure Filed (s : ProposalState rt) : Prop where
  proposalOf : ∀ a ∈ s.applications.rows, ∃ p ∈ s.proposals.rows, AdmissionOf p a
  applicationOf : ∀ p ∈ s.proposals.rows, p.proposalType = .memberApplication →
    ∃ a ∈ s.applications.rows, AdmissionOf p a
  linked : ∀ a ∈ s.applications.rows, ∃ m ∈ s.roles.db.members.rows,
    a.linkedMember = some m.pk ∧ (a.status = .submitted → m.status = .pendingReview)
  one : ∀ a ∈ s.applications.rows, ∀ b ∈ s.applications.rows, a.status = .submitted →
    b.status = .submitted → a.linkedMember = b.linkedMember → a = b

theorem Filed.admissionOf (h : Filed s) (hp : p ∈ s.proposals.rows)
    (htype : p.proposalType = .memberApplication) (ha : a ∈ s.applications.rows)
    (htarget : p.targetId = a.applicationId) : AdmissionOf p a := by
  obtain ⟨b, hb, hpb⟩ := h.applicationOf p hp htype
  obtain rfl := s.applications.eq_of_pk hb ha (hpb.targetId.symm.trans htarget)
  exact hpb

/-- An application has one admission proposal. -/
theorem Filed.unique (h : Filed s) (hp : p ∈ s.proposals.rows) (hq : q ∈ s.proposals.rows)
    (hptype : p.proposalType = .memberApplication) (hqtype : q.proposalType = .memberApplication)
    (htarget : p.targetId = q.targetId) : p = q := by
  obtain ⟨a, ha, hpa⟩ := h.applicationOf p hp hptype
  have hqa := h.admissionOf hq hqtype ha (htarget.symm.trans hpa.targetId)
  have hpkey : some (p.proposalType, p.dedupeKey) =
      some (.memberApplication, "member-application:" ++ a.applicationId) := by
    rw [hptype, hpa.dedupeKey]
  have hqkey : some (q.proposalType, q.dedupeKey) =
      some (.memberApplication, "member-application:" ++ a.applicationId) := by
    rw [hqtype, hqa.dedupeKey]
  exact s.proposals.eq_of_alt hp hq hpkey hqkey

/-! ## Calls that close nothing -/

/-- What the services never change of a proposal. -/
structure SameData (p p' : ApprovalProposal) : Prop where
  proposalType : p'.proposalType = p.proposalType
  strategy : p'.strategyType = p.strategyType
  targetType : p'.targetType = p.targetType
  targetId : p'.targetId = p.targetId
  dedupeKey : p'.dedupeKey = p.dedupeKey

theorem SameData.refl (p : ApprovalProposal) : SameData p p := ⟨rfl, rfl, rfl, rfl, rfl⟩

/-- The proposal has moved on, and lives if it has. -/
def MovedOn (p p' : ApprovalProposal) : Prop :=
  SameData p p' ∧ (p'.status = p.status ∨ p.status.Live ∧ p'.status.Live)

theorem MovedOn.refl (p : ApprovalProposal) : MovedOn p p := ⟨.refl p, .inl rfl⟩

theorem MovedOn.trans {p₁ p₂ p₃ : ApprovalProposal} (h : MovedOn p₁ p₂) (h' : MovedOn p₂ p₃) :
    MovedOn p₁ p₃ := by
  obtain ⟨hdata, hstatus⟩ := h
  obtain ⟨hdata', hstatus'⟩ := h'
  refine ⟨⟨hdata'.proposalType.trans hdata.proposalType, hdata'.strategy.trans hdata.strategy,
    hdata'.targetType.trans hdata.targetType, hdata'.targetId.trans hdata.targetId,
    hdata'.dedupeKey.trans hdata.dedupeKey⟩, ?_⟩
  rcases hstatus with heq | ⟨hlive, hlive₂⟩
  · rw [← heq]
    exact hstatus'
  · rcases hstatus' with heq | ⟨-, hlive'⟩
    · exact .inr ⟨hlive, heq ▸ hlive₂⟩
    · exact .inr ⟨hlive, hlive'⟩

theorem AdmissionOf.movedOn (h : AdmissionOf p a) (hmoved : MovedOn p p') : AdmissionOf p' a := by
  obtain ⟨hdata, hstatus⟩ := hmoved
  refine ⟨hdata.proposalType.trans h.proposalType, hdata.strategy.trans h.strategy,
    hdata.targetType.trans h.targetType, hdata.targetId.trans h.targetId,
    hdata.dedupeKey.trans h.dedupeKey, ?_⟩
  rcases hstatus with heq | ⟨hlive, hlive'⟩
  · rw [heq]
    exact h.means
  · exact hlive'.means.2 (hlive.means.1 h.means)

/-- Proposals move on; applications and members stay. -/
structure Steady (s s' : ProposalState rt) : Prop where
  applications : s'.applications = s.applications
  members : s'.roles.db.members = s.roles.db.members
  forward : ∀ p ∈ s.proposals.rows, ∃ p' ∈ s'.proposals.rows, MovedOn p p'
  backward : ∀ p' ∈ s'.proposals.rows, ∃ p ∈ s.proposals.rows, MovedOn p p'

theorem Steady.of_same (happlications : s'.applications = s.applications)
    (hmembers : s'.roles.db.members = s.roles.db.members)
    (hproposals : s'.proposals = s.proposals) : Steady s s' :=
  ⟨happlications, hmembers, fun p hp => ⟨p, hproposals ▸ hp, .refl p⟩,
    fun p hp => ⟨p, hproposals ▸ hp, .refl p⟩⟩

theorem Steady.trans (h : Steady s s₁) (h' : Steady s₁ s') : Steady s s' := by
  refine ⟨h'.applications.trans h.applications, h'.members.trans h.members, fun p hp => ?_,
    fun p' hp' => ?_⟩
  · obtain ⟨p₁, hp₁, hmoved⟩ := h.forward p hp
    obtain ⟨p', hp', hmoved'⟩ := h'.forward p₁ hp₁
    exact ⟨p', hp', hmoved.trans hmoved'⟩
  · obtain ⟨p₁, hp₁, hmoved'⟩ := h'.backward p' hp'
    obtain ⟨p, hp, hmoved⟩ := h.backward p₁ hp₁
    exact ⟨p, hp, hmoved.trans hmoved'⟩

theorem Steady.of_replaces (hmem : p ∈ s.proposals.rows) (hreplaces : Replaces s s' p')
    (hid : p'.proposalId = p.proposalId) (hmoved : MovedOn p p')
    (happlications : s'.applications = s.applications)
    (hmembers : s'.roles.db.members = s.roles.db.members) : Steady s s' := by
  refine ⟨happlications, hmembers, fun q hq => ?_, fun q' hq' => ?_⟩
  · by_cases hsame : q.proposalId = p.proposalId
    · obtain rfl := s.proposals.eq_of_pk hq hmem hsame
      exact ⟨p', (hreplaces p').2 (.inl rfl), hmoved⟩
    · exact ⟨q, (hreplaces q).2 (.inr ⟨hq, hid.symm ▸ hsame⟩), .refl q⟩
  · rcases (hreplaces q').1 hq' with rfl | ⟨hq, -⟩
    · exact ⟨p, hmem, hmoved⟩
    · exact ⟨q', hq, .refl q'⟩

theorem Steady.filed (h : Filed s) (hsteady : Steady s s') : Filed s' := by
  obtain ⟨happlications, hmembers, hforward, hbackward⟩ := hsteady
  refine ⟨fun a ha => ?_, fun p' hp' htype => ?_, ?_, ?_⟩
  · rw [happlications] at ha
    obtain ⟨p, hp, hpa⟩ := h.proposalOf a ha
    obtain ⟨p', hp', hmoved⟩ := hforward p hp
    exact ⟨p', hp', hpa.movedOn hmoved⟩
  · obtain ⟨p, hp, hmoved⟩ := hbackward p' hp'
    obtain ⟨a, ha, hpa⟩ := h.applicationOf p hp (hmoved.1.proposalType.symm.trans htype)
    exact ⟨a, happlications ▸ ha, hpa.movedOn hmoved⟩
  · rw [happlications, hmembers]
    exact h.linked
  · rw [happlications]
    exact h.one

/-! ## Calls that close a file -/

/-- The proposal and its application are closed; an admission admits the applicant. -/
structure Closed (s s' : ProposalState rt) (p p' : ApprovalProposal) (st : ApplicationStatus) :
    Prop where
  mem : p ∈ s.proposals.rows
  live : p.status.Live
  proposalType : p.proposalType = .memberApplication
  id : p'.proposalId = p.proposalId
  same : SameData p p'
  means : p'.status.Means st
  decided : st ≠ .submitted
  replaces : Replaces s s' p'
  applications : ∃ f : MemberApplication → MemberApplication,
    (∀ a, (f a).applicationId = a.applicationId ∧ (f a).linkedMember = a.linkedMember ∧
      (f a).status = st) ∧
    s'.applications.rows = s.applications.rows.map fun a =>
      if a.applicationId = p.targetId then f a else a
  members : st = .rejected ∧ s'.roles.db.members = s.roles.db.members ∨ st = .admitted ∧
    ∃ k, (∀ a ∈ s.applications.rows, a.applicationId = p.targetId → a.linkedMember = some k) ∧
      s'.roles.db.members.rows = s.roles.db.members.rows.map fun m =>
        if m.pk = k then { m with status := .admitted } else m

/-- The other proposals stay. -/
theorem Closed.others (h : Closed s s' p p' st) (hq : q ∈ s.proposals.rows) (hne : q ≠ p) :
    q ∈ s'.proposals.rows :=
  (h.replaces q).2 (.inr ⟨hq, fun hid => hne (s.proposals.eq_of_pk hq h.mem (hid.trans h.id))⟩)

/-- The rows of the applications afterwards. -/
theorem Closed.application (h : Closed s s' p p' st) (ha : a ∈ s'.applications.rows) :
    ∃ b ∈ s.applications.rows, a.applicationId = b.applicationId ∧
      a.linkedMember = b.linkedMember ∧
      (b.applicationId = p.targetId ∧ a.status = st ∨ b.applicationId ≠ p.targetId ∧ a = b) := by
  obtain ⟨f, hf, hrows⟩ := h.applications
  rw [hrows] at ha
  obtain ⟨b, hb, rfl⟩ := List.mem_map.1 ha
  refine ⟨b, hb, ?_⟩
  by_cases htarget : b.applicationId = p.targetId
  · rw [if_pos htarget]
    exact ⟨(hf b).1, (hf b).2.1, .inl ⟨htarget, (hf b).2.2⟩⟩
  · rw [if_neg htarget]
    exact ⟨rfl, rfl, .inr ⟨htarget, rfl⟩⟩

theorem Closed.proposalOf (hfiled : Filed s) (h : Closed s s' p p' st)
    (ha : a ∈ s'.applications.rows) : ∃ q ∈ s'.proposals.rows, AdmissionOf q a := by
  obtain ⟨b, hb, hid, -, hcase⟩ := h.application ha
  rcases hcase with ⟨htarget, hstatus⟩ | ⟨htarget, rfl⟩
  · have hpb := hfiled.admissionOf h.mem h.proposalType hb htarget.symm
    refine ⟨p', (h.replaces p').2 (.inl rfl), h.same.proposalType.trans hpb.proposalType,
      h.same.strategy.trans hpb.strategy, h.same.targetType.trans hpb.targetType, ?_, ?_, ?_⟩
    · rw [h.same.targetId, hpb.targetId, hid]
    · rw [h.same.dedupeKey, hpb.dedupeKey, hid]
    · rw [hstatus]
      exact h.means
  · obtain ⟨q, hq, hqa⟩ := hfiled.proposalOf a hb
    refine ⟨q, h.others hq ?_, hqa⟩
    rintro rfl
    exact htarget hqa.targetId.symm

theorem Closed.applicationOf (hfiled : Filed s) (h : Closed s s' p p' st)
    (hq : q ∈ s'.proposals.rows) (htype : q.proposalType = .memberApplication) :
    ∃ a ∈ s'.applications.rows, AdmissionOf q a := by
  have hexists : ∃ a ∈ s'.applications.rows, a.applicationId = q.targetId := by
    obtain ⟨f, hf, hrows⟩ := h.applications
    have hold : ∃ b ∈ s.applications.rows, b.applicationId = q.targetId := by
      rcases (h.replaces q).1 hq with rfl | ⟨hq, -⟩
      · obtain ⟨b, hb, hpb⟩ := hfiled.applicationOf p h.mem h.proposalType
        exact ⟨b, hb, hpb.targetId.symm.trans h.same.targetId.symm⟩
      · obtain ⟨b, hb, hqb⟩ := hfiled.applicationOf q hq htype
        exact ⟨b, hb, hqb.targetId.symm⟩
    obtain ⟨b, hb, hid⟩ := hold
    refine ⟨_, hrows ▸ List.mem_map_of_mem hb, ?_⟩
    split
    · exact (hf b).1.trans hid
    · exact hid
  obtain ⟨a, ha, hid⟩ := hexists
  refine ⟨a, ha, ?_⟩
  obtain ⟨q', hq', hadmission⟩ := h.proposalOf hfiled ha
  -- both are the proposal of the application
  have hdedupe : q.dedupeKey = q'.dedupeKey := by
    rw [hadmission.dedupeKey, hid]
    rcases (h.replaces q).1 hq with rfl | ⟨hq, -⟩
    · obtain ⟨b, hb, hpb⟩ := hfiled.applicationOf p h.mem h.proposalType
      rw [h.same.dedupeKey, h.same.targetId, hpb.dedupeKey, hpb.targetId]
    · obtain ⟨b, hb, hqb⟩ := hfiled.applicationOf q hq htype
      rw [hqb.dedupeKey, hqb.targetId]
  obtain rfl : q = q' := s'.proposals.eq_of_alt hq hq' rfl
    (congrArg some (Prod.ext (hadmission.proposalType.trans htype.symm) hdedupe.symm))
  exact hadmission

theorem Closed.linked (hfiled : Filed s) (h : Closed s s' p p' st)
    (ha : a ∈ s'.applications.rows) : ∃ m ∈ s'.roles.db.members.rows,
      a.linkedMember = some m.pk ∧ (a.status = .submitted → m.status = .pendingReview) := by
  obtain ⟨b, hb, -, hlink, hcase⟩ := h.application ha
  obtain ⟨m, hm, hmember, hpending⟩ := hfiled.linked b hb
  have hsubmitted : a.status = .submitted →
      b.applicationId ≠ p.targetId ∧ b.status = .submitted := by
    intro hst
    rcases hcase with ⟨-, hstatus⟩ | ⟨htarget, rfl⟩
    · exact absurd (hstatus.symm.trans hst) h.decided
    · exact ⟨htarget, hst⟩
  rcases h.members with ⟨-, hsame⟩ | ⟨-, k, hk, hrows⟩
  · exact ⟨m, hsame ▸ hm, hlink.trans hmember, fun hst => hpending (hsubmitted hst).2⟩
  · refine ⟨_, hrows ▸ List.mem_map_of_mem hm, ?_, fun hst => ?_⟩
    · rw [hlink, hmember]
      split <;> rfl
    · obtain ⟨htarget, hbst⟩ := hsubmitted hst
      rw [if_neg]
      · exact hpending hbst
      -- the applicant of a closed file has no other submitted application
      · rintro rfl
        obtain ⟨c, hc, hpc⟩ := hfiled.applicationOf p h.mem h.proposalType
        have hcst := h.live.means.1 hpc.means
        have hclink := hk c hc hpc.targetId.symm
        obtain rfl := hfiled.one b hb c hc hbst hcst (hmember.trans hclink.symm)
        exact htarget hpc.targetId.symm

theorem Closed.filed (hfiled : Filed s) (h : Closed s s' p p' st) : Filed s' := by
  refine ⟨fun a ha => h.proposalOf hfiled ha, fun q hq htype => h.applicationOf hfiled hq htype,
    fun a ha => h.linked hfiled ha, fun a ha b hb hast hbst hlink => ?_⟩
  obtain ⟨a₀, ha₀, -, halink, hacase⟩ := h.application ha
  obtain ⟨b₀, hb₀, -, hblink, hbcase⟩ := h.application hb
  rcases hacase with ⟨-, hstatus⟩ | ⟨-, rfl⟩
  · exact absurd (hstatus.symm.trans hast) h.decided
  · rcases hbcase with ⟨-, hstatus⟩ | ⟨-, rfl⟩
    · exact absurd (hstatus.symm.trans hbst) h.decided
    · exact hfiled.one a ha₀ b hb₀ hast hbst hlink

/-! ## What a call does -/

/-- A call moves proposals on or closes a file. -/
inductive FileEffect (s s' : ProposalState rt) : Prop
  | steady (h : Steady s s')
  | closed (p p' : ApprovalProposal) (st : ApplicationStatus) (h : Closed s s' p p' st)

theorem FileEffect.filed (hfiled : Filed s) (h : FileEffect s s') : Filed s' := by
  cases h with
  | steady h => exact h.filed hfiled
  | closed p p' st h => exact h.filed hfiled

/-- An application is rejected without a change of the members. -/
theorem FileEffect.rejected (h : FileEffect s s') (ha : a ∈ s.applications.rows)
    (hb : b ∈ s'.applications.rows) (hid : b.applicationId = a.applicationId)
    (hast : a.status = .submitted) (hbst : b.status = .rejected) :
    s'.roles.db.members = s.roles.db.members := by
  cases h with
  | steady h => exact h.members
  | closed p p' st h =>
    obtain ⟨c, hc, hcid, -, hcase⟩ := h.application hb
    obtain rfl := s.applications.eq_of_pk hc ha (hcid.symm.trans hid)
    rcases hcase with ⟨-, hstatus⟩ | ⟨-, rfl⟩
    · rcases h.members with ⟨-, hsame⟩ | ⟨hadmitted, -⟩
      · exact hsame
      · rw [hbst, hadmitted] at hstatus
        cases hstatus
    · rw [hast] at hbst
      cases hbst

/-- An event changes nothing of the files. -/
theorem FileEffect.event {now : Nat} {eventType action : String} {actor : Member}
    (h : FileEffect s s₁) (hevent : appendProposalEvent s₁ now p eventType action actor = .ok s') :
    FileEffect s s' := by
  obtain ⟨events, rfl⟩ := appendProposalEvent_ok hevent
  cases h with
  | steady h => exact .steady (h.trans (.of_same rfl rfl rfl))
  | closed q q' st h =>
    exact .closed q q' st ⟨h.mem, h.live, h.proposalType, h.id, h.same, h.means, h.decided,
      h.replaces, h.applications, h.members⟩

/-- Nothing of the files has changed before the call. -/
theorem FileEffect.of_same (happlications : s₁.applications = s.applications)
    (hmembers : s₁.roles.db.members = s.roles.db.members)
    (hproposals : s₁.proposals = s.proposals) (h : FileEffect s₁ s') : FileEffect s s' := by
  cases h with
  | steady h => exact .steady (Steady.trans (.of_same happlications hmembers hproposals) h)
  | closed q q' st h =>
    obtain ⟨hmem, hlive, htype, hid, hsame, hmeans, hdecided, hreplaces, hrows, hafter⟩ := h
    simp only [Replaces, happlications, hmembers, hproposals] at hmem hreplaces hrows hafter
    exact .closed q q' st ⟨hmem, hlive, htype, hid, hsame, hmeans, hdecided, hreplaces, hrows,
      hafter⟩

theorem attachRuleVersion_steady {proposalId : String} {rule : ElectorateRuleVersion}
    (h : attachRuleVersion s proposalId rule = .ok (s', p)) : Steady s s' := by
  obtain ⟨locked, hlock, h⟩ := bind_eq_ok.1 h
  obtain ⟨hmem, -⟩ := lockProposal_ok hlock
  obtain ⟨hstatus, h⟩ := rejectIf_bind_eq_ok.1 h
  obtain ⟨-, h⟩ := rejectIf_bind_eq_ok.1 h
  obtain ⟨_, -, h⟩ := bind_eq_ok.1 h
  obtain ⟨rfl, rfl⟩ := Prod.mk.inj (pure_eq_ok.1 h)
  have hlive : locked.status.Live := by
    by_contra hnot
    exact hstatus ⟨fun heq => hnot (.inr (.inl heq)), fun heq => hnot (.inl heq)⟩
  exact .of_replaces hmem (saveProposal_replaces hmem rfl) rfl
    ⟨⟨rfl, rfl, rfl, rfl, rfl⟩, .inr ⟨hlive, .inl rfl⟩⟩ rfl rfl

theorem startElectorateVoting_steady {proposalId : String}
    (h : startElectorateVoting env s proposalId = .ok (s', p)) : Steady s s' := by
  obtain ⟨locked, hlock, h⟩ := bind_eq_ok.1 h
  obtain ⟨hmem, -⟩ := lockProposal_ok hlock
  obtain ⟨-, h⟩ := rejectIf_bind_eq_ok.1 h
  split at h
  · obtain ⟨rfl, -⟩ := Prod.mk.inj (pure_eq_ok.1 h)
    exact .of_same rfl rfl rfl
  · obtain ⟨hdraft, h⟩ := rejectIf_bind_eq_ok.1 h
    obtain ⟨rule, -, h⟩ := bind_eq_ok.1 h
    obtain ⟨-, h⟩ := rejectIf_bind_eq_ok.1 h
    obtain ⟨adapter, -, h⟩ := bind_eq_ok.1 h
    obtain ⟨excluded, -, h⟩ := bind_eq_ok.1 h
    obtain ⟨s₁, hgenerate, h⟩ := bind_eq_ok.1 h
    obtain ⟨submittedBy, -, h⟩ := bind_eq_ok.1 h
    obtain ⟨s₂, happend, h⟩ := bind_eq_ok.1 h
    obtain ⟨rfl, -⟩ := Prod.mk.inj (pure_eq_ok.1 h)
    obtain ⟨hs₁, -⟩ := generateElectorSnapshot_ok hgenerate
    obtain ⟨events, rfl⟩ := appendProposalEvent_ok happend
    have hopened : Steady s (saveProposal s (openVoting locked rule env.now)) :=
      .of_replaces hmem (saveProposal_replaces hmem rfl) rfl
        ⟨⟨rfl, rfl, rfl, rfl, rfl⟩, .inr ⟨.inl (not_not.1 hdraft), .inr (.inr (.inl rfl))⟩⟩ rfl rfl
    refine hopened.trans (.of_same ?_ ?_ ?_)
    all_goals
      rw [hs₁]

theorem activateWaitingProposalsForRule_steady {rule : ElectorateRuleVersion}
    (h : activateWaitingProposalsForRule env s rule = .ok s') : Steady s s' := by
  unfold activateWaitingProposalsForRule at h
  dsimp only at h
  generalize List.map ApprovalProposal.proposalId _ = proposalIds at h
  induction proposalIds generalizing s with
  | nil =>
    obtain rfl := pure_eq_ok.1 h
    exact .of_same rfl rfl rfl
  | cons proposalId proposalIds ih =>
    rw [List.foldlM_cons] at h
    obtain ⟨s₂, hstep, h⟩ := bind_eq_ok.1 h
    obtain ⟨⟨s₁, p⟩, hattach, hstep⟩ := bind_eq_ok.1 hstep
    obtain ⟨⟨s₂', q⟩, hstart, hstep⟩ := bind_eq_ok.1 hstep
    obtain rfl := pure_eq_ok.1 hstep
    exact ((attachRuleVersion_steady hattach).trans (startElectorateVoting_steady hstart)).trans
      (ih h)

/-! ## Resolutions -/

theorem recordResolution_effect {tally : ProposalTally} {outcome : Outcome} {reasonCode : String}
    {atTime : Nat} {actor : Member} (hmem : p ∈ s.proposals.rows) (hvoting : p.status = .voting)
    (h : recordResolution s p tally outcome reasonCode atTime actor = .ok (s', q)) :
    FileEffect s s' := by
  obtain ⟨resolutions, hinsert, h⟩ := bind_eq_ok.1 h
  obtain ⟨adapter, hadapter, h⟩ := bind_eq_ok.1 h
  obtain ⟨s₁, hcallback, h⟩ := bind_eq_ok.1 h
  obtain ⟨s₂, happend, h⟩ := bind_eq_ok.1 h
  obtain ⟨rfl, -⟩ := Prod.mk.inj (pure_eq_ok.1 h)
  obtain ⟨htype, rfl⟩ := proposalAdapterFor_ok hadapter
  refine FileEffect.event ?_ happend
  have hlive : p.status.Live := .inr (.inr (.inl hvoting))
  have hreplaces : Replaces { s with resolutions := resolutions }
      (saveProposal { s with resolutions := resolutions }
        { p with status := outcome.status, resolvedAt := some atTime })
      { p with status := outcome.status, resolvedAt := some atTime } :=
    saveProposal_replaces hmem rfl
  -- the callback reads the resolution that was just inserted
  have hresolution : resolutions.get? p.proposalId = some {
      proposal := p.proposalId
      outcome := outcome
      reasonCode := reasonCode
      evidence := resolutionEvidence p tally
      decidedBy := some actor.pk
      decidedAt := atTime } := by
    refine Table.get?_eq_some.2 ⟨?_, rfl⟩
    rw [(Table.insert_ok hinsert).1]
    exact List.mem_append_right _ (List.mem_singleton_self _)
  have hcallback' : syncMemberApplicationResolution
      (saveProposal { s with resolutions := resolutions }
        { p with status := outcome.status, resolvedAt := some atTime })
      { p with status := outcome.status, resolvedAt := some atTime } actor.pk = .ok s₁ := hcallback
  unfold syncMemberApplicationResolution at hcallback'
  have hget : (saveProposal { s with resolutions := resolutions }
      { p with status := outcome.status, resolvedAt := some atTime }).resolutions.get?
        p.proposalId = _ := hresolution
  simp only [hget] at hcallback'
  split at hcallback'
  · rename_i happroved
    obtain rfl := Except.ok.inj hcallback'
    refine .steady (.of_replaces hmem hreplaces rfl ⟨⟨rfl, rfl, rfl, rfl, rfl⟩, .inr ⟨hlive, ?_⟩⟩
      rfl rfl)
    refine .inr (.inr (.inr (.inl ?_)))
    show outcome.status = .approved
    rw [happroved]
    rfl
  · rename_i hnot
    obtain ⟨application, happlication, hcallback'⟩ := bind_eq_ok.1 hcallback'
    obtain rfl := pure_eq_ok.1 hcallback'
    obtain ⟨-, hid⟩ := applicationFor_ok happlication
    refine .closed p { p with status := outcome.status, resolvedAt := some atTime } .rejected
      ⟨hmem, hlive, htype, rfl, ⟨rfl, rfl, rfl, rfl, rfl⟩, ?_, by simp, hreplaces, ?_,
        .inl ⟨rfl, rfl⟩⟩
    · cases outcome with
      | approved => exact absurd rfl hnot
      | rejected => rfl
      | expired => rfl
    · have htarget : application.applicationId = p.targetId := hid
      rw [← htarget]
      refine ⟨_, ?_, rfl⟩
      exact fun a => ⟨rfl, rfl, rfl⟩

theorem resolveLockedProposal_effect {atTime : Nat} {actor : Member}
    (hmem : p ∈ s.proposals.rows) (hvoting : p.status = .voting)
    (h : resolveLockedProposal s p atTime actor = .ok (s', q)) : FileEffect s s' := by
  obtain ⟨tally, -, h⟩ := bind_eq_ok.1 h
  split at h
  · obtain ⟨rfl, -⟩ := Prod.mk.inj (pure_eq_ok.1 h)
    exact .steady (.of_same rfl rfl rfl)
  · exact recordResolution_effect hmem hvoting h

theorem castElectorateBallot_effect {proposalId : String} {voter : Member} {choice reason : String}
    (h : castElectorateBallot env s proposalId voter choice reason = .ok (s', p)) :
    FileEffect s s' := by
  obtain ⟨locked, hlock, h⟩ := bind_eq_ok.1 h
  obtain ⟨c, hchecks, h⟩ := bind_eq_ok.1 h
  obtain ⟨ballots, -, h⟩ := bind_eq_ok.1 h
  obtain ⟨s₁, happend, h⟩ := bind_eq_ok.1 h
  obtain ⟨hmem, -⟩ := lockProposal_ok hlock
  obtain ⟨events, hs₁⟩ := appendProposalEvent_ok happend
  have hsame : s₁.proposals = s.proposals := by rw [hs₁]
  refine FileEffect.of_same ?_ ?_ hsame
    (resolveLockedProposal_effect (hsame ▸ hmem) (ballotChecks_ok hchecks).1 h)
  all_goals
    rw [hs₁]

theorem finalizeElectorateProposal_effect {proposalId : String} {actor : Member}
    (h : finalizeElectorateProposal env s proposalId actor = .ok (s', p)) : FileEffect s s' := by
  obtain ⟨locked, hlock, h⟩ := bind_eq_ok.1 h
  obtain ⟨adapter, -, h⟩ := bind_eq_ok.1 h
  obtain ⟨_, -, h⟩ := bind_eq_ok.1 h
  split at h
  · obtain ⟨rfl, -⟩ := Prod.mk.inj (pure_eq_ok.1 h)
    exact .steady (.of_same rfl rfl rfl)
  · rename_i hvoting
    obtain ⟨-, h⟩ := rejectIf_bind_eq_ok.1 h
    exact resolveLockedProposal_effect (lockProposal_ok hlock).1 (not_not.1 hvoting) h

/-! ## Executions -/

/-- What an admission writes into the applications and the members. -/
theorem executeMemberAdmission_files {actor : Nat} {result : List (String × Json)}
    (h : executeMemberAdmission env s p actor = .ok (s', result)) :
    s'.proposals = s.proposals ∧ ∃ k, (∀ a ∈ s.applications.rows, a.applicationId = p.targetId →
      a.linkedMember = some k) ∧
      (s'.roles.db.members.rows = s.roles.db.members.rows.map fun m =>
        if m.pk = k then { m with status := .admitted } else m) ∧
      ∃ f : MemberApplication → MemberApplication,
        (∀ a, (f a).applicationId = a.applicationId ∧ (f a).linkedMember = a.linkedMember ∧
          (f a).status = .admitted) ∧
        s'.applications.rows = s.applications.rows.map fun a =>
          if a.applicationId = p.targetId then f a else a := by
  obtain ⟨application, happlication, h⟩ := bind_eq_ok.1 h
  obtain ⟨applicant, happlicant, h⟩ := bind_eq_ok.1 h
  obtain ⟨⟨db, role⟩, hcatalog, h⟩ := bind_eq_ok.1 h
  obtain ⟨-, h⟩ := rejectIf_bind_eq_ok.1 h
  obtain ⟨⟨roles, assignment⟩, hcreate, h⟩ := bind_eq_ok.1 h
  obtain ⟨rfl, -⟩ := Prod.mk.inj (pure_eq_ok.1 h)
  obtain ⟨happmem, hid⟩ := applicationFor_ok happlication
  have hmembers : roles.db.members = s.roles.db.members :=
    (createRoleAssignment_members hcreate).1.trans (ensureCatalogRole_covenanter hcatalog).1.members
  obtain ⟨-, hlinked⟩ := admissionPreconditions_ok happlicant
  refine ⟨rfl, applicant.pk, fun a ha htarget => ?_, ?_, ?_⟩
  · rw [s.applications.eq_of_pk ha happmem (htarget.trans hid.symm), hlinked]
  · show List.map _ roles.db.members.rows = _
    rw [hmembers]
  · rw [← hid]
    refine ⟨_, ?_, rfl⟩
    exact fun a => ⟨rfl, rfl, rfl⟩

/-- Only admission proposals are executed. -/
theorem executeElectorateProposal_type {proposalId : String} {actor : Member}
    {e : ProposalExecutionRecord}
    (h : executeElectorateProposal env s proposalId actor = .ok (s', e))
    (hp : p ∈ s.proposals.rows) (hid : p.proposalId = proposalId) :
    p.proposalType = .memberApplication := by
  obtain ⟨locked, hlock, h⟩ := bind_eq_ok.1 h
  obtain ⟨-, h⟩ := rejectIf_bind_eq_ok.1 h
  obtain ⟨adapter, hadapter, -⟩ := bind_eq_ok.1 h
  obtain ⟨hmem, hlocked⟩ := lockProposal_ok hlock
  obtain rfl := s.proposals.eq_of_pk hp hmem (hid.trans hlocked.symm)
  exact (proposalAdapterFor_ok hadapter).1

theorem executeElectorateProposal_effect {proposalId : String} {actor : Member}
    {e : ProposalExecutionRecord}
    (h : executeElectorateProposal env s proposalId actor = .ok (s', e)) : FileEffect s s' := by
  have hdone := executeElectorateProposal_ok h
  cases hdone with
  | before same =>
    subst same
    exact .steady (.of_same rfl rfl rfl)
  | attempted p q e₀ s₁ s₂ eventType action hmem hpk hstrategy hexecutable hq he hstart htried
      hevent =>
    obtain ⟨hs₁, -, -⟩ := startExecution_ok hstart
    have hlive : p.status.Live := by
      rcases hexecutable with hst | hst
      · exact .inr (.inr (.inr (.inl hst)))
      · exact .inr (.inr (.inr (.inr hst)))
    have hsame : SameData p q := by
      rw [hq]
      exact ⟨rfl, rfl, rfl, rfl, rfl⟩
    have hid : q.proposalId = p.proposalId := by rw [hq]
    have hproposals : s₂.proposals = s.proposals → Replaces s
        (saveProposal (saveExecution s₂ e) q) q := by
      intro hsame₂
      have hmem₂ : p ∈ (saveExecution s₂ e).proposals.rows := by
        show p ∈ s₂.proposals.rows
        rw [hsame₂]
        exact hmem
      have hreplaces := saveProposal_replaces hmem₂ (p := q) (by rw [hq])
      intro r
      rw [hreplaces r, ← hsame₂]
      rfl
    refine FileEffect.event ?_ hevent
    rcases htried with ⟨rfl, -, hst⟩ | ⟨⟨result, hexecutor⟩, -, hst⟩
    · have hsame₂ : s₂.proposals = s.proposals := by rw [hs₁]
      refine .steady (.of_replaces hmem (hproposals hsame₂) hid ⟨hsame, .inr ⟨hlive, ?_⟩⟩ ?_ ?_)
      · exact .inr (.inr (.inr (.inr hst)))
      · show s₂.applications = _
        rw [hs₁]
      · show s₂.roles.db.members = _
        rw [hs₁]
    · obtain ⟨hp₂, k, hk, hmembers, happlications⟩ := executeMemberAdmission_files hexecutor
      have htype := executeElectorateProposal_type h hmem hpk
      rw [hs₁] at hp₂ hk hmembers happlications
      exact .closed p q .admitted ⟨hmem, hlive, htype, hid, hsame, by rw [hst]; rfl,
        by simp, hproposals hp₂, happlications, .inr ⟨rfl, k, hk, hmembers⟩⟩

/-- **Every operation on the proposals** moves them on or closes one file. -/
theorem electorateCall_effect {c : ElectorateCall} (h : proposalCall env s c.toCall = .ok s') :
    FileEffect s s' := by
  cases c with
  | attach proposalId rule =>
    obtain ⟨⟨s₁, p⟩, hattach, h⟩ := bind_eq_ok.1 h
    obtain rfl := pure_eq_ok.1 h
    exact .steady (attachRuleVersion_steady hattach)
  | activate rule => exact .steady (activateWaitingProposalsForRule_steady h)
  | start proposalId =>
    obtain ⟨⟨s₁, p⟩, hstart, h⟩ := bind_eq_ok.1 h
    obtain rfl := pure_eq_ok.1 h
    exact .steady (startElectorateVoting_steady hstart)
  | cast proposalId voter choice reason =>
    obtain ⟨⟨s₁, p⟩, hcast, h⟩ := bind_eq_ok.1 h
    obtain rfl := pure_eq_ok.1 h
    exact castElectorateBallot_effect hcast
  | finalize proposalId actor =>
    obtain ⟨⟨s₁, p⟩, hfinalize, h⟩ := bind_eq_ok.1 h
    obtain rfl := pure_eq_ok.1 h
    exact finalizeElectorateProposal_effect hfinalize
  | execute proposalId actor =>
    obtain ⟨⟨s₁, e⟩, hexecute, h⟩ := bind_eq_ok.1 h
    obtain rfl := pure_eq_ok.1 h
    exact executeElectorateProposal_effect hexecute

end LiveOs.Proposals
