import Mathlib.Data.Set.Finite.Basic
import LiveOs.Proposals.Verify.Admission
import LiveOs.Proposals.Verify.AdmissionLinks
import LiveOs.Proposals.Verify.Reapplying

/-!
# The life of an application

Over every run of applications, votes, executions and changes of roles the files stay in order. Who
may apply again, and what a rejection leaves, is stated for every state of such a run.
-/

namespace LiveOs.Proposals

open Lib EventLedger Roles Electorate
open Planning (Python getKey truthy strOr merged)

variable {rt : Runtime} {py : Python} {env : ApplicationEnv} {s s' s₁ : ApplicationState rt}
  {m : Member} {a : MemberApplication}

/-! ## A submission of a member that is there -/

/-- No proposal has the key of an application that is not there. -/
theorem existingProposal_eq_none {t : ProposalState rt} {applicationId : String} (hfiled : Filed t)
    (hfree : t.applications.get? applicationId = none) :
    existingProposal t .memberApplication ("member-application:" ++ applicationId) = none := by
  refine List.find?_eq_none.2 fun p hp htest => ?_
  simp only [Bool.and_eq_true, decide_eq_true_eq] at htest
  obtain ⟨b, hb, hadmission⟩ := hfiled.applicationOf p hp htest.1
  have hkey := hadmission.dedupeKey.symm.trans htest.2
  exact Table.get?_eq_none.1 hfree b hb ((String.append_right_inj _).1 hkey)

/-- The rule that applies is read from the rules. -/
theorem SameBallots.latestPublishedRule (h : SameBallots s s') (proposalType : ProposalType) :
    latestPublishedRule s' proposalType = Proposals.latestPublishedRule s proposalType := by
  unfold Proposals.latestPublishedRule publicationOf
  rw [h.rules, h.retiredRules, h.publishedAt]

/-- Saving the excluded member does not matter to the rule. -/
theorem ruleDecidable_of_pending {db db' : Directory} {rule : ElectorateRuleVersion}
    {new : NewApplication} (hdomains : db'.domains = db.domains)
    (hmembers : db'.members.rows = db.members.rows.map fun x =>
      if x.pk = m.pk then pendingMember x new else x) :
    RuleDecidable db' rule m.pk ↔ RuleDecidable db rule m.pk := by
  refine or_congr ⟨validateSelectorNode_of_domains hdomains.symm,
    validateSelectorNode_of_domains hdomains⟩ ⟨fun hall x hx hne => ?_, fun hall y hy hne => ?_⟩
  · refine hall x ?_ hne
    rw [hmembers]
    exact List.mem_map.2 ⟨x, hx, if_neg hne⟩
  · rw [hmembers] at hy
    obtain ⟨x, hx, rfl⟩ := List.mem_map.1 hy
    by_cases hpk : x.pk = m.pk
    · rw [if_pos hpk] at hne
      exact absurd hpk hne
    · rw [if_neg hpk]
      exact hall x hx hpk

/-- The members once the applicant is saved. -/
theorem bindMember_existing {now : Nat} {memberNo : String} {account : Option Account}
    {new : NewApplication} {member : Member}
    (h : bindMember py s now memberNo account (some m) new = .ok (s₁, member)) :
    member = pendingMember m new ∧ s₁.proposals.roles.db.members.rows =
      s.proposals.roles.db.members.rows.map fun x =>
        if x.pk = m.pk then pendingMember x new else x := by
  obtain ⟨rfl, rfl⟩ := Prod.mk.inj (Except.ok.inj h)
  exact ⟨rfl, rfl⟩

/-- A stored application of a member that is there had a rule that can be decided. -/
theorem storeApplication_decidable {args : ApplicationArgs} {memberNo : String}
    {account : Option Account} {option : RecruitmentOption} {r : ElectorateRuleVersion}
    (hfiled : Filed s.proposals) (hsound : Sound s.proposals)
    (hlatest : latestPublishedRule s .memberApplication = some r)
    (h : storeApplication py env s args memberNo account (some m) option = .ok (s', a)) :
    RuleDecidable s.proposals.roles.db r m.pk := by
  obtain ⟨new, s₁, member, s₂, s₃, p, -, hbind, ha, hfree, hrows, hdb, hsame, hcreate, -⟩ :=
    storeApplication_proposes h
  obtain ⟨rfl, hmembers⟩ := bindMember_existing hbind
  have hnone := existingProposal_eq_none hfiled hfree
  have hnone₂ : existingProposal s₂.proposals .memberApplication
      ("member-application:" ++ a.applicationId) = none := by
    unfold existingProposal at hnone ⊢
    rw [hsame.proposals]
    exact hnone
  have hget : s₂.proposals.applications.get? a.applicationId = some a :=
    Table.get?_eq_some.2 ⟨hrows ▸ List.mem_append_right _ (List.mem_singleton_self a), rfl⟩
  have hdecidable := createApprovalProposalForApplication_decidable
    (hsound.of_same hsame.proposals hsame.snapshots hsame.resolutions) hnone₂ hget
    ((hsame.latestPublishedRule _).trans hlatest) hcreate
  exact (ruleDecidable_of_pending hsame.domains (hdb ▸ hmembers)).1 hdecidable

/-- The event of a submission is accepted. -/
theorem memberApplicationPayload_accepted {args : ApplicationArgs} {hasAccount hasNumber : Bool}
    {draw : String} {req : AppendRequest}
    (hid : a.applicationId = "member-application-" ++ draw)
    (hreq : req.payloadJson = memberApplicationPayload py args a hasAccount hasNumber) :
    checkRequest rt req = .ok () := by
  refine checkRequest_publicEventPayload hreq (by decide) ?_ (by decide) (by decide) (by decide)
    ?_ ?_ ?_
  · rw [hid]
    exact not_blank_append (c := 'm') (by decide) (by decide) _
  · simp only [String.append_assoc]
    exact not_blank_append (c := '收') (by decide) (by decide) _
  · simp only [List.forall_mem_cons, List.not_mem_nil, false_imp_iff, implies_true, and_true]
    exact ⟨factOk_str (by decide) _, factOk_str (by decide) _, factOk_str (by decide) _,
      factOk_str (by decide) _, factOk_str (by decide) _, factOk_str (by decide) _⟩
  · simp only [List.forall_mem_cons, List.not_mem_nil, false_imp_iff, implies_true, and_true]
    exact ⟨commitmentOk _ _ _, commitmentOk _ _ _, commitmentOk _ _ _, commitmentOk _ _ _,
      commitmentOk _ _ _, commitmentOk _ _ _, commitmentOk _ _ _, commitmentOk _ _ _,
      commitmentOk _ _ _, commitmentOk _ _ _, commitmentOk _ _ _, commitmentOk _ _ _,
      commitmentOk _ _ _, commitmentOk _ _ _, commitmentOk _ _ _⟩

/-- No proposal, snapshot or ballot has the id that the call draws. -/
structure FreshDraw (env : ProposalEnv) (t : ProposalState rt) : Prop where
  proposals : ∀ p ∈ t.proposals.rows, p.proposalId ≠ "proposal-" ++ env.uuid
  snapshots : ∀ x ∈ t.snapshots.rows, x.proposal ≠ "proposal-" ++ env.uuid
  ballots : ∀ b ∈ t.ballots.rows, b.proposal ≠ "proposal-" ++ env.uuid

/-- **An application of a member that is there is stored** if the rule can be decided. -/
theorem storeApplication_of_decidable {args : ApplicationArgs} {memberNo : String}
    {account : Option Account} {option : RecruitmentOption} {new : NewApplication}
    (hfiled : Filed s.proposals) (hm : m ∈ s.proposals.roles.db.members.rows)
    (hfresh : FreshDraw env.proposal s.proposals)
    (hnew : newApplication py env s args option = .ok new)
    (hdecidable : ∀ r, latestPublishedRule s .memberApplication = some r →
      RuleDecidable s.proposals.roles.db r m.pk) :
    ∃ s' a, storeApplication py env s args memberNo account (some m) option = .ok (s', a) := by
  obtain ⟨hsubmitted, hfree, draw, hdraw⟩ := newApplication_ok hnew
  let members := s.proposals.roles.db.members.modify m.pk (fun m => pendingMember m new)
    (fun _ => rfl) fun _ => rfl
  let application := { new.application with linkedMember := some m.pk }
  obtain ⟨applications, hinsert, hrows⟩ := Table.insert_of_fresh (t := s.proposals.applications)
    (r := application) (e := Error.integrity) (Table.get?_eq_none.1 hfree) (fun a ha => by cases ha)
  have hcheck : checkRequest rt {
      eventType := "member_application_submitted"
      aggregateType := "MemberApplication"
      aggregateId := application.applicationId
      actorMember := none
      payloadJson := memberApplicationPayload py args application account.isSome
        ((some m).isNone || memberNo ≠ "")
      occurredAt := some (args.submittedAt.getD env.proposal.now)
      now := env.proposal.now } = .ok () :=
    memberApplicationPayload_accepted (a := application) hdraw rfl
  obtain ⟨events, hevents, -⟩ :=
    (setMembers s members).proposals.roles.events.append_of_checkRequest hcheck
  let s₂ : ApplicationState rt := { setMembers s members with
    proposals := { (setMembers s members).proposals with
      applications := applications
      roles := { (setMembers s members).proposals.roles with events := events } } }
  let eventId := "member-application-submitted-" ++ application.applicationId
  have hsame₂ : SameBallots s s₂ := ⟨rfl, rfl, rfl, rfl, rfl, rfl, rfl, rfl⟩
  have hsame := hsame₂.trans (appendPublicEventOnce_sameBallots s₂ eventId)
  have hnone := existingProposal_eq_none hfiled hfree
  have hproposals := appendPublicEventOnce_proposals s₂ eventId
  have hstored : NewlyStored env.proposal s₂.proposals application (pendingMember m new) := by
    refine ⟨Table.get?_eq_some.2 ⟨hrows ▸ List.mem_append_right _ (List.mem_singleton_self _), rfl⟩,
      rfl, ⟨pendingMember m new, List.mem_map.2 ⟨m, hm, if_pos rfl⟩, rfl⟩, hsubmitted, ?_,
      hnone, hfresh.proposals, hfresh.snapshots, hfresh.ballots⟩
    show new.application.applicationId ≠ ""
    rw [hdraw]
    intro hempty
    have hlength := congrArg String.length hempty
    simp at hlength
  obtain ⟨s', p, hcreate⟩ := createApprovalProposalForApplication_of_decidable
    (s := appendPublicEventOnce s₂ eventId) (hproposals ▸ hstored) fun r hr => by
      rw [hproposals]
      exact (@ruleDecidable_of_pending m s.proposals.roles.db s₂.proposals.roles.db r new rfl rfl).2
        (hdecidable r ((hsame.latestPublishedRule _).symm.trans hr))
  exact ⟨s', application, bind_eq_ok.2 ⟨new, hnew, bind_eq_ok.2 ⟨_, rfl, bind_eq_ok.2
    ⟨applications, hinsert, bind_eq_ok.2 ⟨s₂, bind_eq_ok.2 ⟨events, hevents, rfl⟩,
      bind_eq_ok.2 ⟨(s', p), hcreate, rfl⟩⟩⟩⟩⟩⟩

/-! ## Who may apply again -/

/-- The member has an account that is not closed, under the name. -/
structure Usable (s : ApplicationState rt) (m : Member) (username : String) : Prop where
  row : m ∈ s.proposals.roles.db.members.rows
  account : ∃ account, (s.accounts.find? fun a => a.username = username) = some account ∧
    account.member = some m.pk ∧ account.isActive = true
  active : m.user = some ⟨true⟩
  suspended : m.status ≠ .suspended
  exited : m.status ≠ .exited

/-- Some application of the account is accepted now. -/
def CanSubmit (py : Python) (s : ApplicationState rt) (now : Nat) (username : String) : Prop :=
  ∃ env args s' a, env.proposal.now = now ∧ args.accountUser = some username ∧
    submitMemberApplication py env s args = .ok (s', a)

/-- What decides on a new application of a member who waits for none. -/
structure MayReapply (py : Python) (s : ApplicationState rt) (m : Member) (username : String) :
    Prop where
  /-- No earlier application was admitted. -/
  neverAdmitted : ∀ a ∈ s.proposals.applications.rows, a.linkedMember = some m.pk →
    a.status ≠ .admitted
  named : strip username = "" ∨ strip username = m.memberNo
  /-- A direction is open. -/
  direction : ∃ s₁ code option, ensureTemplates s = .ok s₁ ∧
    openOption py s₁ (strip code) = .ok option
  /-- The rule that applies can be decided for the members. -/
  rule : ∀ r, latestPublishedRule s .memberApplication = some r →
    RuleDecidable s.proposals.roles.db r m.pk

theorem Usable.accountMember {username : String} (h : Usable s m username) {account : Account}
    (hfind : (s.accounts.find? fun a => a.username = username) = some account) :
    accountMember s (some account) = some m := by
  obtain ⟨account', hfind', hmember, -⟩ := h.account
  obtain rfl := Option.some.inj (hfind.symm.trans hfind')
  unfold Proposals.accountMember
  rw [Option.bind_some, hmember, Option.bind_some]
  exact Table.get?_eq_some.2 ⟨h.row, rfl⟩

/-- The number of an application by an account is that of the account. -/
theorem cleanedMemberNo_account {args : ApplicationArgs} {username memberNo : String}
    (huser : args.accountUser = some username) (h : cleanedMemberNo args = .ok memberNo) :
    memberNo = strip username := by
  unfold cleanedMemberNo at h
  simp only [huser] at h
  obtain ⟨hagree, h⟩ := rejectIf_bind_eq_ok.1 h
  obtain rfl := pure_eq_ok.1 h
  exact not_not.1 hagree

/-- The number passes for a member exactly when it is empty or that of the member. -/
theorem checkMemberNo_iff {memberNo : String} (hm : m ∈ s.proposals.roles.db.members.rows) :
    checkMemberNo s memberNo (some m) = .ok () ↔ memberNo = "" ∨ memberNo = m.memberNo := by
  unfold checkMemberNo
  by_cases hempty : memberNo = ""
  · rw [if_pos hempty]
    exact ⟨fun _ => .inl hempty, fun _ => rfl⟩
  · rw [if_neg hempty, rejectIf_bind_eq_ok, rejectIf_eq_ok]
    simp only [Option.any_some, decide_eq_true_eq, not_not, List.any_eq_true, Bool.and_eq_true,
      Option.map_some, not_exists, not_and, ne_eq]
    constructor
    · exact fun h => .inr h.2.symm
    · rintro (h | h)
      · exact absurd h hempty
      · refine ⟨fun x hx hno => ?_, h.symm⟩
        obtain rfl := s.proposals.roles.db.members.eq_of_alt hm hx (congrArg some h.symm)
          (congrArg some hno)
        rfl

theorem exists_fresh (head : String) (taken : List String) : ∃ draw, head ++ draw ∉ taken := by
  have hinjective : Function.Injective fun draw : String => head ++ draw :=
    fun _ _ h => (String.append_right_inj _).1 h
  obtain ⟨_, ⟨draw, rfl⟩, hfresh⟩ :=
    (Set.infinite_range_of_injective hinjective).exists_notMem_finset taken.toFinset
  exact ⟨draw, fun hmem => hfresh (List.mem_toFinset.2 hmem)⟩

/-- The least application of an account. -/
def plainApplication (username code : String) : ApplicationArgs where
  applicantName := "a"
  contact := "a"
  motivation := "a"
  availabilityHoursPerWeek := 0
  roleGap := code
  availabilitySlots := .arr []
  dynamicAnswers := .scalar .none
  capabilityScores := []
  canIssueResponsibilityDocuments := false
  documentAuthorityDomains := .arr []
  requestedMemberNo := ""
  accountUsername := ""
  accountPassword := ""
  accountUser := some username
  metadata := []
  submittedAt := none

theorem newApplication_plain {username code draw : String} {option : RecruitmentOption}
    (hdraw : env.draws = [draw])
    (hfree : s.proposals.applications.get? ("member-application-" ++ draw) = none) :
    ∃ new, newApplication py env s (plainApplication username code) option = .ok new := by
  have hid : generateMemberApplicationId env s = .ok ("member-application-" ++ draw) := by
    unfold generateMemberApplicationId
    simp [hdraw, hfree]
  have hname : ∀ label, nonblank "a" label = .ok (strip "a") := fun label =>
    bind_eq_ok.2 ⟨(), rejectIf_neg (by decide), rfl⟩
  exact ⟨_, bind_eq_ok.2 ⟨_, hid, bind_eq_ok.2 ⟨_, hname _, bind_eq_ok.2 ⟨_, hname _,
    bind_eq_ok.2 ⟨_, hname _, bind_eq_ok.2 ⟨[], rfl, rfl⟩⟩⟩⟩⟩⟩

/-- The account that is given is the one that is used. -/
theorem applicationAccount_user {args : ApplicationArgs} {username : String}
    {account : Option Account} (huser : args.accountUser = some username)
    (h : applicationAccount env s args = .ok (s₁, account)) :
    s₁ = s ∧ ∃ found, account = some found ∧
      (s.accounts.find? fun a => a.username = username) = some found := by
  unfold applicationAccount at h
  simp only [huser] at h
  split at h
  · cases h
  · rename_i found hfind
    obtain ⟨rfl, rfl⟩ := Prod.mk.inj (Except.ok.inj h)
    exact ⟨rfl, found, rfl, hfind⟩

/-- The checks of a member who may apply. -/
theorem checkExistingMember_iff {now : Nat} {username : String} (husable : Usable s m username) :
    checkExistingMember s now m = .ok () ↔
      memberHasRole s.proposals.roles.db now m [roleCovenanter] none = false ∧
        activeApplicationExists s m.pk = false := by
  unfold checkExistingMember
  rw [rejectIf_bind_eq_ok, rejectIf_bind_eq_ok, rejectIf_eq_ok, Bool.not_eq_true, Bool.not_eq_true]
  refine and_iff_right ?_
  rintro (h | h)
  · exact husable.suspended h
  · exact husable.exited h

/-- **Who can submit again**, of the members without the role and without a submitted
application. -/
theorem canSubmit_iff {now : Nat} {username : String} (hfiled : Filed s.proposals)
    (hsound : Sound s.proposals) (husable : Usable s m username)
    (hrole : memberHasRole s.proposals.roles.db now m [roleCovenanter] none = false)
    (hnone : ∀ a ∈ s.proposals.applications.rows, a.linkedMember = some m.pk →
      a.status ≠ .submitted) :
    CanSubmit py s now username ↔ MayReapply py s m username := by
  constructor
  · rintro ⟨env, args, s', a, hnow, huser, h⟩
    obtain ⟨memberNo, s₁, account, s₂, option, hnumber, haccount, hcheck, hexisting, htemplates,
      hoption, hstore⟩ := submitMemberApplication_ok h
    obtain ⟨rfl, found, rfl, hfind⟩ := applicationAccount_user huser haccount
    have hmember := husable.accountMember hfind
    obtain rfl := cleanedMemberNo_account huser hnumber
    rw [hmember] at hcheck hstore
    obtain ⟨-, hactive⟩ := (checkExistingMember_iff husable).1 (hexisting m hmember)
    obtain ⟨happlications, hproposals, hdb⟩ := ensureTemplates_ok htemplates
    have hsame := ensureTemplates_sameBallots htemplates
    refine ⟨fun a ha hlink => (activeApplicationExists_eq_false.1 hactive a ha hlink).2,
      (checkMemberNo_iff husable.row).1 hcheck, ⟨s₂, args.roleGap, option, htemplates, hoption⟩,
      fun r hr => ?_⟩
    rw [← hdb]
    exact storeApplication_decidable
      (Steady.filed hfiled (.of_same happlications (by rw [hdb]) hproposals))
      (hsound.of_same hsame.proposals hsame.snapshots hsame.resolutions)
      ((hsame.latestPublishedRule _).trans hr) hstore
  · intro h
    obtain ⟨s₂, code, option, htemplates, hoption⟩ := h.direction
    obtain ⟨happlications, hproposals, hdb⟩ := ensureTemplates_ok htemplates
    have hsame := ensureTemplates_sameBallots htemplates
    obtain ⟨draw, hdraw⟩ := exists_fresh "member-application-"
      (s.proposals.applications.rows.map MemberApplication.applicationId)
    obtain ⟨uuid, huuid⟩ := exists_fresh "proposal-"
      (s₂.proposals.proposals.rows.map ApprovalProposal.proposalId ++
        (s₂.proposals.snapshots.rows.map ProposalElectorSnapshot.proposal ++
          s₂.proposals.ballots.rows.map ProposalBallot.proposal))
    simp only [List.mem_append, List.mem_map, not_or, not_exists, not_and] at huuid hdraw
    let env : ApplicationEnv := ⟨⟨now, uuid, ""⟩, [draw], fun _ => none⟩
    have hfree : s₂.proposals.applications.get? ("member-application-" ++ draw) = none := by
      rw [happlications]
      exact Table.get?_eq_none.2 hdraw
    obtain ⟨new, hnew⟩ := @newApplication_plain _ py env s₂ username code draw option rfl hfree
    obtain ⟨account, hfind, hlinked, -⟩ := husable.account
    obtain ⟨s', a, hstore⟩ : ∃ s' a, storeApplication py env s₂ (plainApplication username code)
        (strip username) (some account) (some m) option = .ok (s', a) :=
      storeApplication_of_decidable (Steady.filed hfiled (.of_same happlications (by rw [hdb])
        hproposals)) (hdb ▸ husable.row) ⟨huuid.1, huuid.2.1, huuid.2.2⟩ hnew fun r hr => by
          rw [hdb]
          exact h.rule r ((hsame.latestPublishedRule _).symm.trans hr)
    have hmember := husable.accountMember hfind
    have hactive : activeApplicationExists s m.pk = false :=
      activeApplicationExists_eq_false.2 fun b hb hlink =>
        ⟨hnone b hb hlink, h.neverAdmitted b hb hlink⟩
    have haccount : applicationAccount env s (plainApplication username code) =
        .ok (s, some account) := by
      unfold applicationAccount
      simp only [plainApplication, hfind]
    have hnumber : cleanedMemberNo (plainApplication username code) = .ok (strip username) :=
      rejectIf_bind_eq_ok.2 ⟨fun hne => hne rfl, rfl⟩
    refine ⟨env, plainApplication username code, s', a, rfl, rfl, ?_⟩
    refine rejectIf_bind_eq_ok.2 ⟨lt_irrefl (0 : Int), bind_eq_ok.2 ⟨_, hnumber, bind_eq_ok.2
      ⟨_, haccount, ?_⟩⟩⟩
    dsimp only
    rw [hmember]
    exact bind_eq_ok.2 ⟨(), (checkMemberNo_iff husable.row).2 h.named, bind_eq_ok.2
      ⟨(), (checkExistingMember_iff husable).2 ⟨hrole, hactive⟩, bind_eq_ok.2 ⟨s₂, htemplates,
        bind_eq_ok.2 ⟨option, hoption, hstore⟩⟩⟩⟩

/-! ## Over every run -/

/-- Nobody has applied yet. -/
structure NoApplications (s : ApplicationState rt) : Prop where
  electorate : NoElectorate s.proposals
  applications : s.proposals.applications.rows = []
  proposals : ∀ p ∈ s.proposals.proposals.rows, p.proposalType ≠ .memberApplication

theorem NoApplications.filed (h : NoApplications s) : Filed s.proposals := by
  refine ⟨?_, fun p hp htype => absurd htype (h.proposals p hp), ?_, ?_⟩ <;>
    rw [h.applications] <;> exact fun a ha => absurd ha List.not_mem_nil

theorem NoApplications.allNamed (h : NoApplications s) : AllNamed s := by
  intro a ha
  rw [h.applications] at ha
  exact absurd ha List.not_mem_nil

/-- A member has one submitted application at most, and an application one admission proposal, which
it names. -/
structure InOrder (s : ApplicationState rt) : Prop where
  submitted : ∀ a ∈ s.proposals.applications.rows, ∀ b ∈ s.proposals.applications.rows,
    a.status = .submitted → b.status = .submitted → a.linkedMember = b.linkedMember → a = b
  proposal : ∀ a ∈ s.proposals.applications.rows, ∃! p, p ∈ s.proposals.proposals.rows ∧
    p.proposalType = .memberApplication ∧ p.targetId = a.applicationId
  named : ∀ a ∈ s.proposals.applications.rows, ∀ p ∈ s.proposals.proposals.rows,
    p.proposalType = .memberApplication → p.targetId = a.applicationId →
      ∀ id, (a.applicationId, id) ∈ s.admissionProposals ↔ id = p.proposalId

theorem Filed.inOrder (h : Filed s.proposals) (hnamed : AllNamed s) : InOrder s := by
  refine ⟨h.one, fun a ha => ?_, fun a ha p hp htype htarget => ?_⟩
  · obtain ⟨p, hp, hadmission⟩ := h.proposalOf a ha
    refine ⟨p, ⟨hp, hadmission.proposalType, hadmission.targetId⟩, ?_⟩
    rintro q ⟨hq, htype, htarget⟩
    exact h.unique hq hp htype hadmission.proposalType (htarget.trans hadmission.targetId.symm)
  · obtain ⟨q, hq, hqtype, hqtarget, hlinks⟩ := hnamed a ha
    obtain rfl := h.unique hp hq htype hqtype (htarget.trans hqtarget.symm)
    exact hlinks

/-- The step ends the application with a rejection. -/
def Rejects (s s' : ApplicationState rt) (applicationId : String) : Prop :=
  (∃ a ∈ s.proposals.applications.rows, a.applicationId = applicationId ∧
    a.status = .submitted) ∧
  ∃ a ∈ s'.proposals.applications.rows, a.applicationId = applicationId ∧ a.status = .rejected

instance (s s' : ApplicationState rt) (applicationId : String) :
    Decidable (Rejects s s' applicationId) := inferInstanceAs (Decidable (_ ∧ _))

/-- A member whose status allowed role facts has such a status again. -/
def Restored (m m' : Member) : Prop := m.status.isRoleFact = true → m'.status.isRoleFact = true

/-- **A rejected applicant** goes on waiting. -/
theorem rejected_pending {step : ApplicationStep rt} {applicationId : String} {k : Nat}
    (hfiled : Filed s.proposals) (hstep : applicationStep py s step = .ok s')
    (hrejects : Rejects s s' applicationId)
    (hlinked : ∃ a ∈ s.proposals.applications.rows, a.applicationId = applicationId ∧
      a.linkedMember = some k) :
    ∃ m ∈ s'.proposals.roles.db.members.rows, m.pk = k ∧ m.status = .pendingReview := by
  obtain ⟨⟨a, ha, haid, hsubmitted⟩, b, hb, hbid, hrejected⟩ := hrejects
  obtain ⟨c, hc, hcid, hlink⟩ := hlinked
  obtain rfl := s.proposals.applications.eq_of_pk hc ha (hcid.trans haid.symm)
  obtain ⟨m, hm, hmember, hpending⟩ := hfiled.linked c hc
  obtain ⟨-, -, halone⟩ := applicationStep_filed hfiled hstep
  refine ⟨m, ?_, Option.some.inj (hmember.symm.trans hlink), hpending hsubmitted⟩
  rw [halone c hc b hb (hbid.trans haid.symm) hsubmitted hrejected]
  exact hm

/-- **The life of applications.** In every state of every run the files are in order, and a member
without the covenanter role and without a submitted application can submit exactly when the member
may reapply; a rejection restores the applicant exactly when there was nothing to restore. -/
theorem memberApplication_life {s₀ : ApplicationState rt} (h₀ : NoApplications s₀)
    (steps : List (ApplicationStep rt)) :
    InOrder (runCalls (applicationStep py) s₀ steps) ∧
    (∀ m username now, Usable (runCalls (applicationStep py) s₀ steps) m username →
      memberHasRole (runCalls (applicationStep py) s₀ steps).proposals.roles.db now m
        [roleCovenanter] none = false →
      (∀ a ∈ (runCalls (applicationStep py) s₀ steps).proposals.applications.rows,
        a.linkedMember = some m.pk → a.status ≠ .submitted) →
      (CanSubmit py (runCalls (applicationStep py) s₀ steps) now username ↔
        MayReapply py (runCalls (applicationStep py) s₀ steps) m username)) ∧
    ∀ env args s₁ a,
      submitMemberApplication py env (runCalls (applicationStep py) s₀ steps) args = .ok (s₁, a) →
      ∀ m ∈ (runCalls (applicationStep py) s₀ steps).proposals.roles.db.members.rows,
        a.linkedMember = some m.pk → ∀ later step s₂,
          applicationStep py (runCalls (applicationStep py) s₁ later) step = .ok s₂ →
          Rejects (runCalls (applicationStep py) s₁ later) s₂ a.applicationId →
          ∃ m' ∈ s₂.proposals.roles.db.members.rows, m'.pk = m.pk ∧
            (Restored m m' ↔ m.status.isRoleFact = false) := by
  have hfiled := @runApplications_filed _ py _ h₀.filed steps
  have hsound := @runApplications_sound _ py _ h₀.electorate.sound steps
  have hnamed := @runApplications_named _ py _ h₀.filed h₀.allNamed steps
  refine ⟨hfiled.inOrder hnamed, fun m username now husable hrole hnone =>
    canSubmit_iff hfiled hsound husable hrole hnone, ?_⟩
  intro env args s₁ a hsubmit m hm hlink later step s₂ hstep hrejects
  obtain ⟨hfiled₁, hrows, -⟩ := submitMemberApplication_filed hfiled hsubmit
  have ha : a ∈ s₁.proposals.applications.rows :=
    hrows ▸ List.mem_append_right _ (List.mem_singleton_self a)
  obtain ⟨b, hb, hid, hblink⟩ := @runApplications_linksKept _ py _ hfiled₁ later a ha
  obtain ⟨m', hm', hpk, hpending⟩ := rejected_pending (runApplications_filed hfiled₁ later) hstep
    hrejects ⟨b, hb, hid, hblink.trans hlink⟩
  refine ⟨m', hm', hpk, ?_⟩
  unfold Restored
  rw [hpending]
  cases m.status <;> simp [MemberStatus.isRoleFact]

/-! ## Two applications -/

def applicationPython : Python := ⟨textRuntime, .asciiOnly⟩

/-- A contributor with an account. -/
def resident : Member := ⟨34, "m-34", some ⟨true⟩, "", .active, []⟩

def hamletRoles : RoleState textRuntime :=
  { governedRoles plainTerms with
    db := { (governedRoles plainTerms).db with
      members := ⟨[resident, neighbour, steward], by decide, by decide⟩ } }

/-- A contributor, a neighbour who votes, and a steward who may execute admissions. -/
def hamletState : ApplicationState textRuntime where
  proposals := { villageState with
    roles := hamletRoles
    applications := Table.empty }
  accounts := [⟨"m-34", some 34, true⟩]
  details := []
  admissionProposals := []
  publishedAt := [("rule-version-1", 0)]
  retiredRules := []
  publicEvents := []

theorem hamletState_noApplications : NoApplications hamletState :=
  ⟨⟨fun _ hp => absurd hp List.not_mem_nil, rfl, rfl, rfl, rfl⟩, rfl,
    fun _ hp => absurd hp List.not_mem_nil⟩

def residentEnv : ApplicationEnv := ⟨envAt 1 "a", ["x"], fun _ => none⟩

/-- The resident applies for the services. -/
def residentApplication : ApplicationArgs := plainApplication "m-34" "life_service"

/-- The neighbour decides. -/
def neighbourVote (choice : String) : ApplicationStep textRuntime :=
  .electorate (envAt 2 "b") (.cast "proposal-a" neighbour choice "")

/-- The resident is admitted. -/
def residentAdmission : List (ApplicationStep textRuntime) :=
  [.submit residentEnv residentApplication, neighbourVote "approve",
    .electorate (envAt 10 "e") (.execute "proposal-a" steward)]

/-- The application and the vote against it. -/
def residentRejection : Except Error (ApplicationState textRuntime × MemberApplication ×
    ApplicationState textRuntime) := do
  let (s₁, a) ← submitMemberApplication applicationPython residentEnv hamletState
    residentApplication
  let s₂ ← applicationStep applicationPython s₁ (neighbourVote "reject")
  return (s₁, a, s₂)

/-- What the execution leaves, once the term has ended. -/
theorem residentAdmission_run :
    (runCalls (applicationStep applicationPython) hamletState residentAdmission).accounts =
      hamletState.accounts ∧
    (∃ m ∈ (runCalls (applicationStep applicationPython) hamletState
      residentAdmission).proposals.roles.db.members.rows, m.pk = 34 ∧ m.user = some ⟨true⟩ ∧
      m.status = .admitted ∧ memberHasRole (runCalls (applicationStep applicationPython) hamletState
        residentAdmission).proposals.roles.db (days 400) m [roleCovenanter] none = false) ∧
    (∀ a ∈ (runCalls (applicationStep applicationPython) hamletState
      residentAdmission).proposals.applications.rows, a.status = .admitted) ∧
    ∃ a ∈ (runCalls (applicationStep applicationPython) hamletState
      residentAdmission).proposals.applications.rows, a.linkedMember = some 34 := by
  decide +kernel

/-- What the vote against the application leaves. -/
theorem residentRejection_ok : ∃ s₁ a s₂, residentRejection = .ok (s₁, a, s₂) ∧
    a.linkedMember = some 34 ∧ Rejects s₁ s₂ a.applicationId ∧
    ∃ m ∈ s₂.proposals.roles.db.members.rows, m.pk = 34 ∧ m.status = .pendingReview := by
  have hrun : (residentRejection.toOption.any fun r => r.2.1.linkedMember = some 34 ∧
      Rejects r.1 r.2.2 r.2.1.applicationId ∧
      ∃ m ∈ r.2.2.proposals.roles.db.members.rows, m.pk = 34 ∧ m.status = .pendingReview) =
      true := by
    decide +kernel
  cases hresult : residentRejection with
  | error e =>
    rw [hresult] at hrun
    cases hrun
  | ok r =>
    obtain ⟨s₁, a, s₂⟩ := r
    rw [hresult] at hrun
    exact ⟨s₁, a, s₂, rfl, of_decide_eq_true hrun⟩

/-- The files of the hamlet. -/
theorem hamlet_inOrder :
    InOrder (runCalls (applicationStep applicationPython) hamletState residentAdmission) :=
  (memberApplication_life hamletState_noApplications residentAdmission).1

/-- After the year of the admission the resident holds no role and cannot apply; rejected, the
resident is not active any more. -/
theorem hamlet_lockedOut : NoApplications hamletState ∧
    (∃ m, Usable (runCalls (applicationStep applicationPython) hamletState residentAdmission) m
        "m-34" ∧
      memberHasRole (runCalls (applicationStep applicationPython) hamletState
        residentAdmission).proposals.roles.db (days 400) m [roleCovenanter] none = false ∧
      (∀ a ∈ (runCalls (applicationStep applicationPython) hamletState
        residentAdmission).proposals.applications.rows, a.linkedMember = some m.pk →
          a.status ≠ .submitted) ∧
      ¬ CanSubmit applicationPython (runCalls (applicationStep applicationPython) hamletState
        residentAdmission) (days 400) "m-34") ∧
    ∃ s₁ a s₂, submitMemberApplication applicationPython residentEnv hamletState
        residentApplication = .ok (s₁, a) ∧ a.linkedMember = some resident.pk ∧
      applicationStep applicationPython s₁ (neighbourVote "reject") = .ok s₂ ∧
      Rejects s₁ s₂ a.applicationId ∧
      ∃ m' ∈ s₂.proposals.roles.db.members.rows, m'.pk = resident.pk ∧ ¬ Restored resident m' := by
  refine ⟨hamletState_noApplications, ?_, ?_⟩
  · obtain ⟨haccounts, ⟨m, hm, hpk, huser, hstatus, hrole⟩, hadmitted, a, ha, hlink⟩ :=
      residentAdmission_run
    have husable : Usable (runCalls (applicationStep applicationPython) hamletState
        residentAdmission) m "m-34" := by
      refine ⟨hm, ⟨⟨"m-34", some 34, true⟩, ?_, ?_, rfl⟩, huser, ?_, ?_⟩
      · rw [haccounts]
        rfl
      · rw [hpk]
      · rw [hstatus]
        decide
      · rw [hstatus]
        decide
    have hnone : ∀ b ∈ (runCalls (applicationStep applicationPython) hamletState
        residentAdmission).proposals.applications.rows, b.linkedMember = some m.pk →
          b.status ≠ .submitted := by
      intro b hb _
      rw [hadmitted b hb]
      decide
    have hfiled := @runApplications_filed _ applicationPython _ hamletState_noApplications.filed
      residentAdmission
    have hsound := @runApplications_sound _ applicationPython _
      hamletState_noApplications.electorate.sound residentAdmission
    refine ⟨m, husable, hrole, hnone, fun hsubmit => ?_⟩
    have hreapply := (canSubmit_iff hfiled hsound husable hrole hnone).1 hsubmit
    exact hreapply.neverAdmitted a ha (hpk.symm ▸ hlink) (hadmitted a ha)
  · obtain ⟨s₁, a, s₂, hrun, hlink, hrejects, m', hm', hpk, hpending⟩ := residentRejection_ok
    obtain ⟨⟨s₁', a'⟩, hsubmit, hrun⟩ := bind_eq_ok.1 hrun
    obtain ⟨s₂', hvote, hrun⟩ := bind_eq_ok.1 hrun
    obtain ⟨rfl, heq⟩ := Prod.mk.inj (pure_eq_ok.1 hrun)
    obtain ⟨rfl, rfl⟩ := Prod.mk.inj heq
    refine ⟨s₁', a', s₂', hsubmit, hlink, hvote, hrejects, m', hm', hpk, fun hrestored => ?_⟩
    have hfact := hrestored rfl
    rw [hpending] at hfact
    cases hfact

end LiveOs.Proposals
