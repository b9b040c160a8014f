import LiveOs.Proposals.Verify.CaseFiles
import LiveOs.Proposals.Verify.Lifecycle

/-!
# Submitted applications

A successful submission adds one application and its proposal and leaves the applicant waiting; the
other members, applications and proposals stay. With the operations on proposals this keeps the
files in order over every run.
-/

namespace LiveOs.Proposals

open Lib EventLedger Roles
open Planning (Python getKey truthy strOr merged)

variable {rt : Runtime} {py : Python} {env : ApplicationEnv} {s s' s₁ : ApplicationState rt}

/-! ## A new file -/

/-- A new application with its proposal, whose applicant has no other one submitted. -/
theorem Filed.add {t t' : ProposalState rt} {p : ApprovalProposal} {a : MemberApplication}
    (h : Filed t) (hproposals : t'.proposals.rows = t.proposals.rows ++ [p])
    (happlications : t'.applications.rows = t.applications.rows ++ [a]) (hpa : AdmissionOf p a)
    (hsubmitted : a.status = .submitted)
    (hfree : ∀ b ∈ t.applications.rows, b.linkedMember = a.linkedMember → b.status ≠ .submitted)
    (happlicant : ∃ m ∈ t'.roles.db.members.rows, a.linkedMember = some m.pk ∧
      m.status = .pendingReview)
    (hmembers : ∀ m ∈ t.roles.db.members.rows, ∃ m' ∈ t'.roles.db.members.rows, m'.pk = m.pk ∧
      (m'.status = m.status ∨ a.linkedMember = some m.pk)) : Filed t' := by
  refine ⟨fun b hb => ?_, fun q hq htype => ?_, fun b hb => ?_, fun b hb c hc hbst hcst hlink => ?_⟩
  · rw [happlications] at hb
    rcases List.mem_append.1 hb with hb | hb
    · obtain ⟨q, hq, hqb⟩ := h.proposalOf b hb
      exact ⟨q, hproposals ▸ List.mem_append_left _ hq, hqb⟩
    · obtain rfl := List.mem_singleton.1 hb
      exact ⟨p, hproposals ▸ List.mem_append_right _ (List.mem_singleton_self p), hpa⟩
  · rw [hproposals] at hq
    rcases List.mem_append.1 hq with hq | hq
    · obtain ⟨b, hb, hqb⟩ := h.applicationOf q hq htype
      exact ⟨b, happlications ▸ List.mem_append_left _ hb, hqb⟩
    · obtain rfl := List.mem_singleton.1 hq
      exact ⟨a, happlications ▸ List.mem_append_right _ (List.mem_singleton_self a), hpa⟩
  · rw [happlications] at hb
    rcases List.mem_append.1 hb with hb | hb
    · obtain ⟨m, hm, hlink, hpending⟩ := h.linked b hb
      obtain ⟨m', hm', hpk, hstatus⟩ := hmembers m hm
      refine ⟨m', hm', by rw [hlink, hpk], fun hst => ?_⟩
      rcases hstatus with hstatus | hsame
      · rw [hstatus]
        exact hpending hst
      · exact absurd hst (hfree b hb (hlink.trans hsame.symm))
    · obtain rfl := List.mem_singleton.1 hb
      obtain ⟨m, hm, hlink, hpending⟩ := happlicant
      exact ⟨m, hm, hlink, fun _ => hpending⟩
  · rw [happlications] at hb hc
    rcases List.mem_append.1 hb with hbold | hbnew
    · rcases List.mem_append.1 hc with hcold | hcnew
      · exact h.one b hbold c hcold hbst hcst hlink
      · obtain rfl := List.mem_singleton.1 hcnew
        exact absurd hbst (hfree b hbold hlink)
    · obtain rfl := List.mem_singleton.1 hbnew
      rcases List.mem_append.1 hc with hcold | hcnew
      · exact absurd hcst (hfree c hcold hlink.symm)
      · exact (List.mem_singleton.1 hcnew).symm

/-! ## The proposal of an application -/

/-- The proposal that is created for an application. -/
theorem newElectorateProposal_admission {penv : ProposalEnv} {a : MemberApplication} {m : Member}
    {rule : Option ElectorateRuleVersion} (hsubmitted : a.status = .submitted) :
    AdmissionOf (newElectorateProposal penv (admissionProposalArgs a m rule)) a := by
  refine ⟨rfl, rfl, rfl, rfl, rfl, ?_⟩
  have hlive : (newElectorateProposal penv (admissionProposalArgs a m rule)).status.Live := by
    cases rule with
    | none => exact .inr (.inl rfl)
    | some r => exact .inl rfl
  exact hlive.means.2 hsubmitted

/-- What `create_electorate_proposal` does for an application: it finds a proposal with the key, or
adds a new one. -/
theorem createElectorateProposal_admission {penv : ProposalEnv} {t t' : ProposalState rt}
    {a : MemberApplication} {m : Member} {rule : Option ElectorateRuleVersion}
    {p : ApprovalProposal}
    (h : createElectorateProposal penv t (admissionProposalArgs a m rule) = .ok (t', p)) :
    (t' = t ∧ p ∈ t.proposals.rows ∧ p.proposalType = .memberApplication ∧
      p.dedupeKey = "member-application:" ++ a.applicationId) ∨
    p = newElectorateProposal penv (admissionProposalArgs a m rule) ∧
      t'.proposals.rows = t.proposals.rows ++ [p] ∧ t'.applications = t.applications ∧
      t'.roles.db = t.roles.db ∧ t'.rules = t.rules ∧ t'.snapshots = t.snapshots ∧
      (∀ q ∈ t.proposals.rows, q.proposalId ≠ p.proposalId) ∧
      existingProposal t .memberApplication ("member-application:" ++ a.applicationId) = none := by
  obtain ⟨adapter, -, h⟩ := bind_eq_ok.1 h
  obtain ⟨-, h⟩ := rejectIf_bind_eq_ok.1 h
  obtain ⟨_, -, h⟩ := bind_eq_ok.1 h
  obtain ⟨-, h⟩ := rejectIf_bind_eq_ok.1 h
  split at h
  · rename_i existing hexisting
    obtain ⟨rfl, rfl⟩ := Prod.mk.inj (pure_eq_ok.1 h)
    have htest := List.find?_some hexisting
    simp only [Bool.and_eq_true, decide_eq_true_eq] at htest
    exact .inl ⟨rfl, List.mem_of_find?_eq_some hexisting, htest.1, htest.2⟩
  · rename_i hnone
    obtain ⟨-, h⟩ := rejectIf_bind_eq_ok.1 h
    obtain ⟨_, -, h⟩ := bind_eq_ok.1 h
    obtain ⟨proposals, hinsert, h⟩ := bind_eq_ok.1 h
    obtain ⟨t₁, happend, h⟩ := bind_eq_ok.1 h
    obtain ⟨rfl, rfl⟩ := Prod.mk.inj (pure_eq_ok.1 h)
    obtain ⟨events, rfl⟩ := appendProposalEvent_ok happend
    obtain ⟨hrows, hfresh, -⟩ := Table.insert_ok hinsert
    exact .inr ⟨rfl, hrows, rfl, rfl, rfl, rfl, hfresh, hnone⟩

/-- The parts of `create_approval_proposal_for_application`. -/
theorem createApprovalProposalForApplication_ok {penv : ProposalEnv} {a : MemberApplication}
    {m : Member} {p : ApprovalProposal}
    (h : createApprovalProposalForApplication penv s a m = .ok (s', p)) :
    a.linkedMember = some m.pk ∧ ∃ t q,
      createElectorateProposal penv s.proposals
        (admissionProposalArgs a m (latestPublishedRule s .memberApplication)) = .ok (t, q) ∧
      Steady t s'.proposals := by
  obtain ⟨hlinked, h⟩ := rejectIf_bind_eq_ok.1 h
  obtain ⟨⟨t, q⟩, hcreate, h⟩ := bind_eq_ok.1 h
  refine ⟨not_not.1 hlinked, t, q, hcreate, ?_⟩
  dsimp only at h
  split at h
  · obtain ⟨⟨t', q'⟩, hstart, h⟩ := bind_eq_ok.1 h
    obtain ⟨rfl, -⟩ := Prod.mk.inj (pure_eq_ok.1 h)
    exact startElectorateVoting_steady hstart
  · obtain ⟨rfl, -⟩ := Prod.mk.inj (pure_eq_ok.1 h)
    exact .of_same rfl rfl rfl

/-- **A repeated request** finds the proposal there is. -/
theorem createApprovalProposalForApplication_steady {penv : ProposalEnv} {a : MemberApplication}
    {m : Member} {p : ApprovalProposal} (hfiled : Filed s.proposals)
    (ha : a ∈ s.proposals.applications.rows)
    (h : createApprovalProposalForApplication penv s a m = .ok (s', p)) :
    Steady s.proposals s'.proposals := by
  obtain ⟨-, t, q, hcreate, hsteady⟩ := createApprovalProposalForApplication_ok h
  rcases createElectorateProposal_admission hcreate with ⟨rfl, -⟩ | ⟨-, -, -, -, -, -, -, hnone⟩
  · exact hsteady
  · obtain ⟨p₀, hp₀, hadmission⟩ := hfiled.proposalOf a ha
    have hfound := List.find?_eq_none.1 hnone p₀ hp₀
    simp [hadmission.proposalType, hadmission.dedupeKey] at hfound

/-! ## The applicant -/

/-- What binding a member leaves: an applicant who waits, the other members, and the proposals. -/
structure Bound (s s₁ : ApplicationState rt) (existing : Option Member) (member : Member) :
    Prop where
  applications : s₁.proposals.applications = s.proposals.applications
  proposals : s₁.proposals.proposals = s.proposals.proposals
  waits : ∃ m ∈ s₁.proposals.roles.db.members.rows, m.pk = member.pk ∧ m.status = .pendingReview
  kept : ∀ m ∈ s.proposals.roles.db.members.rows, ∃ m' ∈ s₁.proposals.roles.db.members.rows,
    m'.pk = m.pk ∧ (m'.status = m.status ∨ m.pk = member.pk)
  found : ∀ m, existing = some m → member.pk = m.pk
  fresh : existing = none → ∀ m ∈ s.proposals.roles.db.members.rows, m.pk ≠ member.pk

theorem appendEvent_ok {request : AppendRequest} (h : appendEvent s request = .ok s') :
    ∃ events, s' = { s with proposals := { s.proposals with
      roles := { s.proposals.roles with events := events } } } := by
  obtain ⟨events, -, h⟩ := bind_eq_ok.1 h
  exact ⟨events, (pure_eq_ok.1 h).symm⟩

/-- A registered member is the last row, and new. -/
theorem registerMember_ok {now : Nat} {memberNo displayName batchId : String}
    {profile : List (String × Json)} {member : Member}
    (h : registerMember s now memberNo displayName batchId profile = .ok (s', member)) :
    s'.proposals.roles.db.members.rows = s.proposals.roles.db.members.rows ++ [member] ∧
      member.status = .pendingReview ∧
      (∀ m ∈ s.proposals.roles.db.members.rows, m.pk ≠ member.pk) ∧
      s'.proposals.applications = s.proposals.applications ∧
      s'.proposals.proposals = s.proposals.proposals := by
  obtain ⟨-, h⟩ := rejectIf_bind_eq_ok.1 h
  obtain ⟨-, h⟩ := rejectIf_bind_eq_ok.1 h
  obtain ⟨members, hinsert, h⟩ := bind_eq_ok.1 h
  obtain ⟨s₁, happend, h⟩ := bind_eq_ok.1 h
  obtain ⟨rfl, rfl⟩ := Prod.mk.inj (pure_eq_ok.1 h)
  obtain ⟨events, rfl⟩ := appendEvent_ok happend
  obtain ⟨hrows, hfresh, -⟩ := Table.insert_ok hinsert
  exact ⟨hrows, rfl, hfresh, rfl, rfl⟩

theorem createApplicant_bound {now : Nat} {memberNo : String} {account : Option Account}
    {new : NewApplication} {member : Member}
    (h : createApplicant py s now memberNo account new = .ok (s', member)) :
    Bound s s' none member := by
  obtain ⟨⟨s₁, m⟩, hregister, h⟩ := bind_eq_ok.1 h
  obtain ⟨hrows, hstatus, hfresh, happlications, hproposals⟩ := registerMember_ok hregister
  have hmem : m ∈ s₁.proposals.roles.db.members.rows :=
    hrows ▸ List.mem_append_right _ (List.mem_singleton_self m)
  have hkept : ∀ x ∈ s.proposals.roles.db.members.rows, x ∈ s₁.proposals.roles.db.members.rows :=
    fun x hx => hrows ▸ List.mem_append_left _ hx
  cases account with
  | none =>
    obtain ⟨rfl, rfl⟩ := Prod.mk.inj (pure_eq_ok.1 h)
    exact ⟨happlications, hproposals, ⟨m, hmem, rfl, hstatus⟩,
      fun x hx => ⟨x, hkept x hx, rfl, .inl rfl⟩, fun x hx => (by cases hx), fun _ => hfresh⟩
  | some account =>
    obtain ⟨rfl, rfl⟩ := Prod.mk.inj (pure_eq_ok.1 h)
    refine ⟨happlications, hproposals, ⟨_, List.mem_map_of_mem hmem, ?_, ?_⟩, fun x hx => ?_,
      fun x hx => (by cases hx), fun _ => hfresh⟩
    · rw [if_pos rfl]
    · rw [if_pos rfl]
      exact hstatus
    · refine ⟨_, List.mem_map_of_mem (hkept x hx), ?_, .inl ?_⟩
      · split <;> rfl
      · split <;> rfl

theorem bindMember_bound {now : Nat} {memberNo : String} {account : Option Account}
    {existing : Option Member} {new : NewApplication} {member : Member}
    (hexisting : ∀ m, existing = some m → m ∈ s.proposals.roles.db.members.rows)
    (h : bindMember py s now memberNo account existing new = .ok (s', member)) :
    Bound s s' existing member := by
  cases existing with
  | none => exact createApplicant_bound h
  | some m =>
    obtain ⟨rfl, rfl⟩ := Prod.mk.inj (Except.ok.inj h)
    have hmem := hexisting m rfl
    refine ⟨rfl, rfl, ⟨_, List.mem_map_of_mem hmem, ?_, ?_⟩, fun x hx => ?_, ?_, fun h => ?_⟩
    · rw [if_pos rfl]
    · rw [if_pos rfl]
      rfl
    · refine ⟨_, List.mem_map_of_mem hx, ?_, ?_⟩
      · split <;> rfl
      · by_cases hpk : x.pk = m.pk
        · exact .inr hpk
        · rw [if_neg hpk]
          exact .inl rfl
    · rintro x hx
      obtain rfl := Option.some.inj hx
      rfl
    · cases h

/-! ## One submission -/

theorem appendPublicEventOnce_proposals (s : ApplicationState rt) (eventId : String) :
    (appendPublicEventOnce s eventId).proposals = s.proposals := by
  unfold appendPublicEventOnce
  split <;> rfl

/-- A new application is submitted and has an id of its own. -/
theorem newApplication_ok {args : ApplicationArgs} {option : RecruitmentOption}
    {new : NewApplication} (h : newApplication py env s args option = .ok new) :
    new.application.status = .submitted ∧
      s.proposals.applications.get? new.application.applicationId = none ∧
      ∃ draw, new.application.applicationId = "member-application-" ++ draw := by
  obtain ⟨applicationId, hid, h⟩ := bind_eq_ok.1 h
  obtain ⟨applicantName, -, h⟩ := bind_eq_ok.1 h
  obtain ⟨contact, -, h⟩ := bind_eq_ok.1 h
  obtain ⟨motivation, -, h⟩ := bind_eq_ok.1 h
  obtain ⟨answers, -, h⟩ := bind_eq_ok.1 h
  obtain rfl := pure_eq_ok.1 h
  unfold generateMemberApplicationId at hid
  split at hid
  · rename_i id hfind
    obtain rfl := Except.ok.inj hid
    obtain ⟨draw, -, rfl⟩ := List.mem_map.1 (List.mem_of_find?_eq_some hfind)
    exact ⟨rfl, by simpa using List.find?_some hfind, draw, rfl⟩
  · cases hid

/-- What lies between an application and its proposal changes no votes. -/
structure SameBallots (s s' : ApplicationState rt) : Prop where
  proposals : s'.proposals.proposals = s.proposals.proposals
  snapshots : s'.proposals.snapshots = s.proposals.snapshots
  resolutions : s'.proposals.resolutions = s.proposals.resolutions
  rules : s'.proposals.rules = s.proposals.rules
  publishedAt : s'.publishedAt = s.publishedAt
  retiredRules : s'.retiredRules = s.retiredRules
  domains : s'.proposals.roles.db.domains = s.proposals.roles.db.domains
  admissionProposals : s'.admissionProposals = s.admissionProposals

theorem SameBallots.refl (s : ApplicationState rt) : SameBallots s s :=
  ⟨rfl, rfl, rfl, rfl, rfl, rfl, rfl, rfl⟩

theorem SameBallots.trans (h : SameBallots s s₁) (h' : SameBallots s₁ s') : SameBallots s s' :=
  ⟨h'.proposals.trans h.proposals, h'.snapshots.trans h.snapshots,
    h'.resolutions.trans h.resolutions, h'.rules.trans h.rules,
    h'.publishedAt.trans h.publishedAt, h'.retiredRules.trans h.retiredRules,
    h'.domains.trans h.domains, h'.admissionProposals.trans h.admissionProposals⟩

theorem ensureTemplates_sameBallots (h : ensureTemplates s = .ok s') : SameBallots s s' := by
  obtain ⟨templates, -, h⟩ := bind_eq_ok.1 h
  obtain rfl := pure_eq_ok.1 h
  exact ⟨rfl, rfl, rfl, rfl, rfl, rfl, rfl, rfl⟩

theorem appendPublicEventOnce_sameBallots (s : ApplicationState rt) (eventId : String) :
    SameBallots s (appendPublicEventOnce s eventId) := by
  unfold appendPublicEventOnce
  split
  · exact .refl s
  · exact ⟨rfl, rfl, rfl, rfl, rfl, rfl, rfl, rfl⟩

theorem bindMember_sameBallots {now : Nat} {memberNo : String} {account : Option Account}
    {existing : Option Member} {new : NewApplication} {member : Member}
    (h : bindMember py s now memberNo account existing new = .ok (s', member)) :
    SameBallots s s' := by
  cases existing with
  | some m =>
    obtain ⟨rfl, -⟩ := Prod.mk.inj (Except.ok.inj h)
    exact ⟨rfl, rfl, rfl, rfl, rfl, rfl, rfl, rfl⟩
  | none =>
    obtain ⟨⟨s₁, m⟩, hregister, h⟩ := bind_eq_ok.1 h
    have hregistered : SameBallots s s₁ := by
      obtain ⟨-, hregister⟩ := rejectIf_bind_eq_ok.1 hregister
      obtain ⟨-, hregister⟩ := rejectIf_bind_eq_ok.1 hregister
      obtain ⟨members, -, hregister⟩ := bind_eq_ok.1 hregister
      obtain ⟨s₂, happend, hregister⟩ := bind_eq_ok.1 hregister
      obtain ⟨rfl, -⟩ := Prod.mk.inj (pure_eq_ok.1 hregister)
      obtain ⟨events, rfl⟩ := appendEvent_ok happend
      exact ⟨rfl, rfl, rfl, rfl, rfl, rfl, rfl, rfl⟩
    cases account with
    | none =>
      obtain ⟨rfl, -⟩ := Prod.mk.inj (pure_eq_ok.1 h)
      exact hregistered
    | some account =>
      obtain ⟨rfl, -⟩ := Prod.mk.inj (pure_eq_ok.1 h)
      exact hregistered.trans ⟨rfl, rfl, rfl, rfl, rfl, rfl, rfl, rfl⟩

/-- A successful submission ends with the request for the proposal, on the votes there were. -/
theorem storeApplication_proposes {args : ApplicationArgs} {memberNo : String}
    {account : Option Account} {existing : Option Member} {option : RecruitmentOption}
    {a : MemberApplication}
    (h : storeApplication py env s args memberNo account existing option = .ok (s', a)) :
    ∃ new s₁ member s₂ s₃ p, newApplication py env s args option = .ok new ∧
      bindMember py s env.proposal.now memberNo account existing new = .ok (s₁, member) ∧
      a = { new.application with linkedMember := some member.pk } ∧
      s.proposals.applications.get? a.applicationId = none ∧
      s₂.proposals.applications.rows = s₁.proposals.applications.rows ++ [a] ∧
      s₂.proposals.roles.db = s₁.proposals.roles.db ∧ SameBallots s s₂ ∧
      createApprovalProposalForApplication env.proposal s₂ a member = .ok (s₃, p) ∧ s' = s₃ := by
  obtain ⟨new, hnew, h⟩ := bind_eq_ok.1 h
  obtain ⟨⟨s₁, member⟩, hbind, h⟩ := bind_eq_ok.1 h
  obtain ⟨applications, hinsert, h⟩ := bind_eq_ok.1 h
  obtain ⟨s₂, happend, h⟩ := bind_eq_ok.1 h
  obtain ⟨⟨s₃, p⟩, hcreate, h⟩ := bind_eq_ok.1 h
  obtain ⟨rfl, rfl⟩ := Prod.mk.inj (pure_eq_ok.1 h)
  obtain ⟨events, hs₂⟩ := appendEvent_ok happend
  obtain ⟨hrows, -, -⟩ := Table.insert_ok hinsert
  obtain ⟨-, hfree, -⟩ := newApplication_ok hnew
  refine ⟨new, s₁, member, _, s₃, p, hnew, hbind, rfl, hfree, ?_, ?_, ?_, hcreate, rfl⟩
  · rw [appendPublicEventOnce_proposals, hs₂]
    exact hrows
  · rw [appendPublicEventOnce_proposals, hs₂]
  · refine (bindMember_sameBallots hbind).trans
      (SameBallots.trans ?_ (appendPublicEventOnce_sameBallots _ _))
    rw [hs₂]
    exact ⟨rfl, rfl, rfl, rfl, rfl, rfl, rfl, rfl⟩

/-- **What a submission stores**: one application of the member, submitted, with its proposal. -/
theorem storeApplication_filed {args : ApplicationArgs} {memberNo : String}
    {account : Option Account} {existing : Option Member} {option : RecruitmentOption}
    {a : MemberApplication} (hfiled : Filed s.proposals)
    (hexisting : ∀ m, existing = some m → m ∈ s.proposals.roles.db.members.rows)
    (hfree : ∀ m, existing = some m → ∀ b ∈ s.proposals.applications.rows,
      b.linkedMember = some m.pk → b.status ≠ .submitted)
    (h : storeApplication py env s args memberNo account existing option = .ok (s', a)) :
    Filed s'.proposals ∧ s'.proposals.applications.rows = s.proposals.applications.rows ++ [a] ∧
      a.status = .submitted := by
  obtain ⟨new, s₁, member, s₂, s₃, p, hnew, hbind, rfl, hnone, hrows, hmembers, hsame, hcreate,
    rfl⟩ := storeApplication_proposes h
  have hbound := bindMember_bound hexisting hbind
  obtain ⟨hstatus, -, -⟩ := newApplication_ok hnew
  obtain ⟨-, t, q, helectorate, hsteady⟩ := createApprovalProposalForApplication_ok hcreate
  rw [hbound.applications] at hrows
  rcases createElectorateProposal_admission helectorate with
    ⟨-, hq, htype, hdedupe⟩ | ⟨hq, hadded, happs, hdb, -⟩
  · rw [hsame.proposals] at hq
    obtain ⟨b, hb, hadmission⟩ := hfiled.applicationOf q hq htype
    have hkey := hadmission.dedupeKey.symm.trans hdedupe
    exact absurd ((String.append_right_inj _).1 hkey) (Table.get?_eq_none.1 hnone b hb)
  · have hfiled' : Filed t := by
      refine hfiled.add (p := q) (a := { new.application with linkedMember := some member.pk })
        ?_ ?_ ?_ hstatus ?_ ?_ ?_
      · rw [hadded, hsame.proposals]
      · rw [happs, hrows]
      · rw [hq]
        exact newElectorateProposal_admission hstatus
      · intro b hb hlink
        cases hcase : existing with
        | some m =>
          rw [show some member.pk = some m.pk from congrArg some (hbound.found m hcase)] at hlink
          exact hfree m hcase b hb hlink
        | none =>
          obtain ⟨m, hm, hmember, -⟩ := hfiled.linked b hb
          exact absurd (Option.some.inj (hmember.symm.trans hlink)) (hbound.fresh hcase m hm)
      · obtain ⟨m, hm, hpk, hpending⟩ := hbound.waits
        exact ⟨m, by rw [hdb, hmembers]; exact hm, congrArg some hpk.symm, hpending⟩
      · intro m hm
        obtain ⟨m', hm', hpk, hkept⟩ := hbound.kept m hm
        refine ⟨m', by rw [hdb, hmembers]; exact hm', hpk, ?_⟩
        rcases hkept with hkept | hkept
        · exact .inl hkept
        · exact .inr (congrArg some hkept.symm)
    refine ⟨hsteady.filed hfiled', ?_, hstatus⟩
    rw [hsteady.applications, happs, hrows]

/-- An account is all that is written. -/
theorem applicationAccount_accounts {args : ApplicationArgs} {account : Option Account}
    (h : applicationAccount env s args = .ok (s', account)) :
    ∃ accounts, s' = { s with accounts := accounts } := by
  unfold applicationAccount at h
  split at h
  · split at h
    · cases h
    · obtain ⟨rfl, -⟩ := Prod.mk.inj (Except.ok.inj h)
      exact ⟨_, rfl⟩
  · split at h
    · obtain ⟨⟨s₁, created⟩, hcreate, h⟩ := bind_eq_ok.1 h
      obtain ⟨rfl, -⟩ := Prod.mk.inj (pure_eq_ok.1 h)
      obtain ⟨username, -, hcreate⟩ := bind_eq_ok.1 hcreate
      obtain ⟨password, -, hcreate⟩ := bind_eq_ok.1 hcreate
      obtain ⟨-, hcreate⟩ := rejectIf_bind_eq_ok.1 hcreate
      split at hcreate
      · cases hcreate
      · obtain ⟨-, hcreate⟩ := rejectIf_bind_eq_ok.1 hcreate
        obtain ⟨rfl, -⟩ := Prod.mk.inj (pure_eq_ok.1 hcreate)
        exact ⟨_, rfl⟩
    · obtain ⟨rfl, -⟩ := Prod.mk.inj (Except.ok.inj h)
      exact ⟨_, rfl⟩

theorem applicationAccount_ok {args : ApplicationArgs} {account : Option Account}
    (h : applicationAccount env s args = .ok (s', account)) : s'.proposals = s.proposals := by
  obtain ⟨accounts, rfl⟩ := applicationAccount_accounts h
  rfl

/-- Templates and their details are all that is written. -/
theorem ensureTemplates_ok (h : ensureTemplates s = .ok s') :
    s'.proposals.applications = s.proposals.applications ∧
      s'.proposals.proposals = s.proposals.proposals ∧
      s'.proposals.roles.db = s.proposals.roles.db := by
  obtain ⟨templates, -, h⟩ := bind_eq_ok.1 h
  obtain rfl := pure_eq_ok.1 h
  exact ⟨rfl, rfl, rfl⟩

theorem accountMember_mem {account : Option Account} {m : Member}
    (h : accountMember s account = some m) : m ∈ s.proposals.roles.db.members.rows := by
  unfold accountMember at h
  obtain ⟨a, -, h⟩ := Option.bind_eq_some_iff.1 h
  obtain ⟨pk, -, h⟩ := Option.bind_eq_some_iff.1 h
  exact (Table.get?_eq_some.1 h).1

theorem activeApplicationExists_eq_false {m : Nat} : activeApplicationExists s m = false ↔
    ∀ a ∈ s.proposals.applications.rows, a.linkedMember = some m →
      a.status ≠ .submitted ∧ a.status ≠ .admitted := by
  simp [activeApplicationExists, List.any_eq_false]

/-- The parts of a successful submission. -/
theorem submitMemberApplication_ok {args : ApplicationArgs} {a : MemberApplication}
    (h : submitMemberApplication py env s args = .ok (s', a)) :
    ∃ memberNo s₁ account s₂ option, cleanedMemberNo args = .ok memberNo ∧
      applicationAccount env s args = .ok (s₁, account) ∧
      checkMemberNo s₁ memberNo (accountMember s₁ account) = .ok () ∧
      (∀ m, accountMember s₁ account = some m →
        checkExistingMember s₁ env.proposal.now m = .ok ()) ∧
      ensureTemplates s₁ = .ok s₂ ∧ openOption py s₂ (strip args.roleGap) = .ok option ∧
      storeApplication py env s₂ args memberNo account (accountMember s₁ account) option =
        .ok (s', a) := by
  obtain ⟨-, h⟩ := rejectIf_bind_eq_ok.1 h
  obtain ⟨memberNo, hnumber, h⟩ := bind_eq_ok.1 h
  obtain ⟨⟨s₁, account⟩, haccount, h⟩ := bind_eq_ok.1 h
  obtain ⟨_, hcheck, h⟩ := bind_eq_ok.1 h
  dsimp only at h
  split at h
  · rename_i hnone
    obtain ⟨s₂, htemplates, h⟩ := bind_eq_ok.1 h
    obtain ⟨option, hoption, h⟩ := bind_eq_ok.1 h
    refine ⟨memberNo, s₁, account, s₂, option, hnumber, haccount, hcheck, fun m hm => ?_,
      htemplates, hoption, h⟩
    rw [hnone] at hm
    cases hm
  · rename_i existing hexisting
    obtain ⟨_, hallowed, h⟩ := bind_eq_ok.1 h
    obtain ⟨s₂, htemplates, h⟩ := bind_eq_ok.1 h
    obtain ⟨option, hoption, h⟩ := bind_eq_ok.1 h
    refine ⟨memberNo, s₁, account, s₂, option, hnumber, haccount, hcheck, fun m hm => ?_,
      htemplates, hoption, h⟩
    obtain rfl := Option.some.inj (hexisting.symm.trans hm)
    exact hallowed

/-- **A submission keeps the files in order** and adds one application. -/
theorem submitMemberApplication_filed {args : ApplicationArgs} {a : MemberApplication}
    (hfiled : Filed s.proposals) (h : submitMemberApplication py env s args = .ok (s', a)) :
    Filed s'.proposals ∧ s'.proposals.applications.rows = s.proposals.applications.rows ++ [a] ∧
      a.status = .submitted := by
  obtain ⟨memberNo, s₁, account, s₂, option, -, haccount, -, hexisting, htemplates, -, hstore⟩ :=
    submitMemberApplication_ok h
  have hs₁ := applicationAccount_ok haccount
  obtain ⟨happlications, hproposals, hdb⟩ := ensureTemplates_ok htemplates
  rw [hs₁] at happlications hproposals hdb
  have hfiled₂ : Filed s₂.proposals :=
    Steady.filed hfiled (.of_same happlications (by rw [hdb]) hproposals)
  have hresult := storeApplication_filed hfiled₂ (fun m hm => ?_) (fun m hm b hb hlink => ?_) hstore
  · rw [happlications] at hresult
    exact hresult
  · rw [hdb, ← hs₁]
    exact accountMember_mem hm
  · obtain ⟨-, hcheck⟩ := rejectIf_bind_eq_ok.1 (hexisting m hm)
    obtain ⟨-, hcheck⟩ := rejectIf_bind_eq_ok.1 hcheck
    have hnone := rejectIf_eq_ok.1 hcheck
    rw [happlications] at hb
    rw [Bool.not_eq_true] at hnone
    exact (activeApplicationExists_eq_false.1 hnone b (hs₁ ▸ hb) hlink).1

/-! ## Steps and runs -/

/-- Applications keep their members. -/
def LinksKept (s s' : ApplicationState rt) : Prop := ∀ a ∈ s.proposals.applications.rows,
  ∃ a' ∈ s'.proposals.applications.rows, a'.applicationId = a.applicationId ∧
    a'.linkedMember = a.linkedMember

/-- An application that a step rejects leaves the members as they are. -/
def RejectsAlone (s s' : ApplicationState rt) : Prop :=
  ∀ a ∈ s.proposals.applications.rows, ∀ b ∈ s'.proposals.applications.rows,
    b.applicationId = a.applicationId → a.status = .submitted → b.status = .rejected →
      s'.proposals.roles.db.members = s.proposals.roles.db.members

theorem FileEffect.linksKept (h : FileEffect s.proposals s'.proposals) : LinksKept s s' := by
  intro a ha
  cases h with
  | steady h => exact ⟨a, h.applications ▸ ha, rfl, rfl⟩
  | closed p p' st h =>
    obtain ⟨f, hf, hrows⟩ := h.applications
    refine ⟨_, hrows ▸ List.mem_map_of_mem ha, ?_, ?_⟩
    · split
      · exact (hf a).1
      · rfl
    · split
      · exact (hf a).2.1
      · rfl

/-- **One step.** -/
theorem applicationStep_filed {step : ApplicationStep rt} (hfiled : Filed s.proposals)
    (h : applicationStep py s step = .ok s') :
    Filed s'.proposals ∧ LinksKept s s' ∧ RejectsAlone s s' := by
  have heffect : FileEffect s.proposals s'.proposals →
      Filed s'.proposals ∧ LinksKept s s' ∧ RejectsAlone s s' := fun heffect =>
    ⟨heffect.filed hfiled, heffect.linksKept, fun a ha b hb => heffect.rejected ha hb⟩
  cases step with
  | submit env args =>
    obtain ⟨⟨s₁, x⟩, hsubmit, h⟩ := bind_eq_ok.1 h
    obtain rfl := pure_eq_ok.1 h
    obtain ⟨hfiled', hrows, hstatus⟩ := submitMemberApplication_filed hfiled hsubmit
    refine ⟨hfiled', fun a ha => ⟨a, hrows ▸ List.mem_append_left _ ha, rfl, rfl⟩, ?_⟩
    intro a ha b hb hid hast hbst
    rw [hrows] at hb
    rcases List.mem_append.1 hb with hold | hnew
    · obtain rfl := s.proposals.applications.eq_of_pk hold ha hid
      rw [hast] at hbst
      cases hbst
    · obtain rfl := List.mem_singleton.1 hnew
      rw [hstatus] at hbst
      cases hbst
  | propose env applicationId member =>
    simp only [applicationStep] at h
    split at h
    · cases h
    · rename_i application hget
      obtain ⟨⟨s₁, p⟩, hcreate, h⟩ := bind_eq_ok.1 h
      obtain rfl := pure_eq_ok.1 h
      obtain ⟨hmem, -⟩ := Table.get?_eq_some.1 hget
      exact heffect (.steady (createApprovalProposalForApplication_steady hfiled hmem hcreate))
  | electorate env c =>
    obtain ⟨proposals, hcall, h⟩ := bind_eq_ok.1 h
    obtain rfl := pure_eq_ok.1 h
    exact heffect (electorateCall_effect hcall)
  | publish env rule =>
    obtain ⟨proposals, hcall, h⟩ := bind_eq_ok.1 h
    obtain rfl := pure_eq_ok.1 h
    obtain ⟨rules, -, hcall⟩ := bind_eq_ok.1 hcall
    obtain rfl := pure_eq_ok.1 hcall
    exact heffect (.steady (.of_same rfl rfl rfl))
  | retire ruleCodes =>
    obtain rfl := Except.ok.inj h
    exact heffect (.steady (.of_same rfl rfl rfl))
  | recruit details =>
    obtain rfl := Except.ok.inj h
    exact heffect (.steady (.of_same rfl rfl rfl))
  | roles roles =>
    obtain rfl := Except.ok.inj h
    exact heffect (.steady (.of_same rfl rfl rfl))

/-- **Every run** keeps the files in order. -/
theorem runApplications_filed (hfiled : Filed s.proposals) (steps : List (ApplicationStep rt)) :
    Filed (runCalls (applicationStep py) s steps).proposals :=
  @runCalls_invariant _ _ _ _ (fun s => Filed s.proposals)
    (fun _ _ _ hfiled hstep => (applicationStep_filed hfiled hstep).1) _ hfiled steps

/-- Applications keep their members over a run. -/
theorem runApplications_linksKept (hfiled : Filed s.proposals) (steps : List (ApplicationStep rt)) :
    LinksKept s (runCalls (applicationStep py) s steps) := by
  induction steps generalizing s with
  | nil => exact fun a ha => ⟨a, ha, rfl, rfl⟩
  | cons step steps ih =>
    rw [runCalls_cons]
    cases hstep : applicationStep py s step with
    | error e =>
      rw [afterCall_error hstep]
      exact ih hfiled
    | ok s₁ =>
      rw [afterCall_ok hstep]
      obtain ⟨hfiled₁, hlinks, -⟩ := applicationStep_filed hfiled hstep
      intro a ha
      obtain ⟨a₁, ha₁, hid₁, hlink₁⟩ := hlinks a ha
      obtain ⟨a₂, ha₂, hid₂, hlink₂⟩ := ih hfiled₁ a₁ ha₁
      exact ⟨a₂, ha₂, hid₂.trans hid₁, hlink₂.trans hlink₁⟩

/-! ## Snapshots -/

theorem Sound.of_same {t t' : ProposalState rt} (h : Sound t)
    (hproposals : t'.proposals = t.proposals)
    (hsnapshots : t'.snapshots = t.snapshots) (hresolutions : t'.resolutions = t.resolutions) :
    Sound t' := by
  obtain ⟨hrows, hresolution, hsnapshot⟩ := h
  refine ⟨?_, ?_, ?_⟩
  · rw [hproposals, hresolutions]
    exact hrows
  · rw [hproposals, hresolutions]
    exact hresolution
  · rw [hproposals, hsnapshots]
    exact hsnapshot

theorem createApprovalProposalForApplication_sound {penv : ProposalEnv} {a : MemberApplication}
    {m : Member} {p : ApprovalProposal} (hsound : Sound s.proposals)
    (h : createApprovalProposalForApplication penv s a m = .ok (s', p)) : Sound s'.proposals := by
  have hmoves : ∀ {t t' : ProposalState rt}, Moves (fun _ => True) t t' → Sound t → Sound t' :=
    fun hmoves ht => hmoves.invariant (fun _ _ h hmove _ => hmove.sound h) ht
  obtain ⟨-, h⟩ := rejectIf_bind_eq_ok.1 h
  obtain ⟨⟨t, q⟩, hcreate, h⟩ := bind_eq_ok.1 h
  have ht := hmoves (createElectorateProposal_moves hcreate) hsound
  dsimp only at h
  split at h
  · obtain ⟨⟨t', q'⟩, hstart, h⟩ := bind_eq_ok.1 h
    obtain ⟨rfl, -⟩ := Prod.mk.inj (pure_eq_ok.1 h)
    exact hmoves (startElectorateVoting_moves hstart) ht
  · obtain ⟨rfl, -⟩ := Prod.mk.inj (pure_eq_ok.1 h)
    exact ht

theorem applicationStep_sound {step : ApplicationStep rt} (hsound : Sound s.proposals)
    (h : applicationStep py s step = .ok s') : Sound s'.proposals := by
  cases step with
  | submit env args =>
    obtain ⟨⟨s₁, x⟩, hsubmit, h⟩ := bind_eq_ok.1 h
    obtain rfl := pure_eq_ok.1 h
    obtain ⟨memberNo, s₂, account, s₃, option, -, haccount, -, -, htemplates, -, hstore⟩ :=
      submitMemberApplication_ok hsubmit
    obtain ⟨templates, -, htemplates⟩ := bind_eq_ok.1 htemplates
    obtain rfl := pure_eq_ok.1 htemplates
    obtain ⟨new, s₄, member, s₅, s₆, p, -, -, -, -, -, -, hsame, hcreate, rfl⟩ :=
      storeApplication_proposes hstore
    refine createApprovalProposalForApplication_sound ?_ hcreate
    have hs₂ := applicationAccount_ok haccount
    refine (hsound.of_same ?_ ?_ ?_ : Sound s₂.proposals).of_same hsame.proposals hsame.snapshots
      hsame.resolutions
    all_goals rw [hs₂]
  | propose env applicationId member =>
    simp only [applicationStep] at h
    split at h
    · cases h
    · obtain ⟨⟨s₁, p⟩, hcreate, h⟩ := bind_eq_ok.1 h
      obtain rfl := pure_eq_ok.1 h
      exact createApprovalProposalForApplication_sound hsound hcreate
  | electorate env c =>
    obtain ⟨proposals, hcall, h⟩ := bind_eq_ok.1 h
    obtain rfl := pure_eq_ok.1 h
    exact (@proposalStep_sound _ _ _ (.call env c.toCall) hsound hcall).1
  | publish env rule =>
    obtain ⟨proposals, hcall, h⟩ := bind_eq_ok.1 h
    obtain rfl := pure_eq_ok.1 h
    exact (@proposalStep_sound _ _ _ (.call env (.publish rule)) hsound hcall).1
  | retire ruleCodes =>
    obtain rfl := Except.ok.inj h
    exact hsound
  | recruit details =>
    obtain rfl := Except.ok.inj h
    exact hsound
  | roles roles =>
    obtain rfl := Except.ok.inj h
    exact hsound.of_same rfl rfl rfl

theorem runApplications_sound (hsound : Sound s.proposals) (steps : List (ApplicationStep rt)) :
    Sound (runCalls (applicationStep py) s steps).proposals :=
  @runCalls_invariant _ _ _ _ (fun s => Sound s.proposals)
    (fun _ _ _ hsound hstep => applicationStep_sound hsound hstep) _ hsound steps

end LiveOs.Proposals
