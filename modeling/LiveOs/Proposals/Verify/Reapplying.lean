import LiveOs.Proposals.Verify.Closing
import LiveOs.Proposals.Verify.Submissions

/-!
# Who can apply again

A member without the covenanter role and without a submitted application can apply exactly when no
earlier application was admitted, the number of the member is that of the account, a direction is
open, and the published rule can be decided for the members.
-/

namespace LiveOs.Proposals

open Lib EventLedger Roles Electorate
open Planning (Python getKey truthy strOr merged)

variable {rt : Runtime} {py : Python} {s s' : ApplicationState rt} {t t' : ProposalState rt}
  {env : ProposalEnv} {p : ApprovalProposal} {a : MemberApplication}

/-! ## Members that a rule can be decided for -/

/-- Validation reads the professional domains and nothing else. -/
theorem validateSelectorNode_of_domains {db db' : Directory} (h : db'.domains = db.domains)
    {j : Json} (hvalid : validateSelectorNode db 0 j = .ok ()) :
    validateSelectorNode db' 0 j = .ok () := by
  obtain ⟨f, hadmissible, rfl⟩ := admissible_of_validateSelectorNode hvalid
  have hknown : ∀ c : Condition, c.Known db = c.Known db' := by
    intro c
    cases c with
    | roleCode code => rfl
    | participationStatus status => rfl
    | professionalDomain code => simp only [Condition.Known, isActiveDomain, h]
  refine validateSelectorNode_of_admissible (hadmissible.of_leaves ?_)
  rw [← funext hknown]
  exact hadmissible.leaves

/-- The rule can be decided for every member but the excluded one. -/
def RuleDecidable (db : Directory) (rule : ElectorateRuleVersion) (excluded : Nat) : Prop :=
  validateSelectorNode db 0 rule.selectorConfig = .ok () ∨
    ∀ m ∈ db.members.rows, m.pk ≠ excluded → memberAllowsRoleFacts m = false

/-- The snapshot can be taken of members for whom the rule can be evaluated. -/
theorem returns_snapshotRows {now : Nat} {rule : ElectorateRuleVersion} {excluded : Option Nat}
    {moment : Nat} {members : List Member} :
    (∃ rows, snapshotRows t now p rule excluded moment members = .ok rows) ↔
      ∀ m ∈ members, ∃ e, evaluateRuleForMember t.roles.db now rule.selectorConfig m (some moment)
        excluded = .ok e := by
  induction members with
  | nil =>
    constructor
    · intro _ m hm
      cases hm
    · exact fun _ => ⟨[], rfl⟩
  | cons m members ih =>
    rw [List.forall_mem_cons, ← ih]
    constructor
    · rintro ⟨rows, h⟩
      rw [snapshotRows] at h
      obtain ⟨decision, hdecision, h⟩ := bind_eq_ok.1 h
      obtain ⟨rest, hrest, -⟩ := bind_eq_ok.1 h
      exact ⟨⟨decision, hdecision⟩, rest, hrest⟩
    · rintro ⟨⟨decision, hdecision⟩, rest, hrest⟩
      rw [snapshotRows]
      exact ⟨_, bind_eq_ok.2 ⟨decision, hdecision, bind_eq_ok.2 ⟨rest, hrest, rfl⟩⟩⟩

theorem ruleDecidable_iff {now : Nat} {rule : ElectorateRuleVersion} {excluded : Nat} :
    (∃ rows, snapshotRows t now p rule (some excluded) now
      (t.roles.db.members.rows.insertionSort fun a b => a.pk ≤ b.pk) = .ok rows) ↔
      RuleDecidable t.roles.db rule excluded := by
  rw [returns_snapshotRows]
  have hdecided : ∀ m, (∃ e, evaluateRuleForMember t.roles.db now rule.selectorConfig m (some now)
      (some excluded) = .ok e) ↔ excluded = m.pk ∨ memberAllowsRoleFacts m = false ∨
        validateSelectorNode t.roles.db 0 rule.selectorConfig = .ok () := by
    intro m
    have h := @evaluateRuleForMember_decided t.roles.db now rule.selectorConfig m (some excluded)
    rw [Option.some.injEq] at h
    exact h
  simp only [List.mem_insertionSort, hdecided]
  constructor
  · intro h
    by_cases hvalid : validateSelectorNode t.roles.db 0 rule.selectorConfig = .ok ()
    · exact .inl hvalid
    · refine .inr fun m hm hne => ?_
      rcases h m hm with hpk | hfalse | hvalid'
      · exact absurd hpk.symm hne
      · exact hfalse
      · exact absurd hvalid' hvalid
  · rintro (hvalid | hall) m hm
    · exact .inr (.inr hvalid)
    · by_cases hpk : excluded = m.pk
      · exact .inl hpk
      · exact .inr (.inl (hall m hm fun heq => hpk heq.symm))

/-! ## Events before the first ballot -/

/-- A proposal of an application, before the first ballot. -/
structure Unvoted (t : ProposalState rt) (p : ApprovalProposal) (a : MemberApplication) : Prop where
  proposalType : p.proposalType = .memberApplication
  application : applicationFor t p = .ok a
  linked : Linked t a
  submitter : ∃ m ∈ t.roles.db.members.rows, m.pk = p.submittedBy
  rule : ∀ id, p.electorateRuleVersion = some id → ∃ r, t.rules.get? id = some r
  noBallots : ∀ b ∈ t.ballots.rows, b.proposal ≠ p.proposalId

theorem Unvoted.tally (h : Unvoted t p a) (now : Nat) :
    ∃ tally, proposalTally t now p = .ok tally := by
  have hnone : candidateBallots t.ballots.rows p.proposalId = [] := by
    rw [List.eq_nil_iff_forall_not_mem]
    intro b hb
    rw [candidateBallots, List.mem_insertionSort, List.mem_filter] at hb
    simp only [Bool.and_eq_true, decide_eq_true_eq] at hb
    exact h.noBallots b hb.1 hb.2.1
  have hadapter : (proposalAdapterFor p.proposalType : Except Error (ProposalTypeAdapter rt)) =
      .ok memberAdmissionAdapter := by
    rw [h.proposalType]
    rfl
  have hexcluded : (memberAdmissionAdapter : ProposalTypeAdapter rt).excludedMemberId t p =
      .ok a.linkedMember := bind_eq_ok.2 ⟨a, h.application, rfl⟩
  unfold proposalTally
  rw [hnone]
  exact ⟨_, bind_eq_ok.2 ⟨_, hadapter, bind_eq_ok.2 ⟨_, hexcluded, bind_eq_ok.2 ⟨[], rfl, rfl⟩⟩⟩⟩

/-- The event of such a proposal is written. -/
theorem Unvoted.event (h : Unvoted t p a) {now : Nat} {eventType action : String} {actor : Member}
    (haction : ¬ blank action) :
    ∃ events, appendProposalEvent t now p eventType action actor =
      .ok { t with roles := { t.roles with events := events } } := by
  obtain ⟨tally, htally⟩ := h.tally now
  exact appendProposalEvent_of_rows h.proposalType h.application h.linked h.submitter h.rule htally
    haction

/-! ## Opening the vote -/

/-- Snapshot rows are those of members, each once. -/
theorem snapshotRows_sublist {now : Nat} {rule : ElectorateRuleVersion} {excluded : Option Nat}
    {moment : Nat} {members : List Member} {rows : List ProposalElectorSnapshot}
    (h : snapshotRows t now p rule excluded moment members = .ok rows) :
    (rows.map ProposalElectorSnapshot.member).Sublist (members.map Member.pk) := by
  induction members generalizing rows with
  | nil =>
    obtain rfl := pure_eq_ok.1 h
    exact List.Sublist.slnil
  | cons m members ih =>
    rw [snapshotRows] at h
    obtain ⟨decision, -, h⟩ := bind_eq_ok.1 h
    obtain ⟨rest, hrest, h⟩ := bind_eq_ok.1 h
    obtain rfl := pure_eq_ok.1 h
    split
    · exact (ih hrest).cons_cons m.pk
    · exact (ih hrest).cons m.pk

/-- Rows with keys of their own can be inserted. -/
theorem createSnapshots_of_fresh {snapshots : SnapshotTable} {rows : List ProposalElectorSnapshot}
    (hnodup : (rows.map fun r => (r.proposal, r.member)).Nodup)
    (hfresh : ∀ r ∈ rows, ∀ x ∈ snapshots.rows, (x.proposal, x.member) ≠ (r.proposal, r.member)) :
    ∃ snapshots', createSnapshots snapshots rows = .ok snapshots' := by
  induction rows generalizing snapshots with
  | nil => exact ⟨snapshots, rfl⟩
  | cons r rows ih =>
    rw [List.map_cons, List.nodup_cons] at hnodup
    obtain ⟨hnew, hnodup⟩ := hnodup
    obtain ⟨snapshots₁, hinsert, hrows⟩ := Table.insert_of_fresh (t := snapshots) (r := r)
      (e := Error.integrity) (hfresh r List.mem_cons_self) (fun a ha => by cases ha)
    obtain ⟨snapshots₂, hrest⟩ := @ih snapshots₁ hnodup (by
      intro x hx y hy
      rw [hrows] at hy
      rcases List.mem_append.1 hy with hold | hlast
      · exact hfresh x (List.mem_cons_of_mem _ hx) y hold
      · obtain rfl := List.mem_singleton.1 hlast
        exact fun heq => hnew (heq ▸ List.mem_map_of_mem hx))
    refine ⟨snapshots₂, ?_⟩
    rw [createSnapshots, List.foldlM_cons, hinsert, ok_bind]
    exact hrest

theorem snapshots_insertable {now : Nat} {rule : ElectorateRuleVersion} {excluded : Option Nat}
    {moment : Nat} {rows : List ProposalElectorSnapshot}
    (h : snapshotRows t now p rule excluded moment
      (t.roles.db.members.rows.insertionSort fun a b => a.pk ≤ b.pk) = .ok rows)
    (hnone : ∀ x ∈ t.snapshots.rows, x.proposal ≠ p.proposalId) :
    ∃ snapshots', createSnapshots t.snapshots rows = .ok snapshots' := by
  have hproposal := snapshotRows_ok h
  refine createSnapshots_of_fresh ?_ fun r hr x hx heq => ?_
  · have hmembers : (rows.map ProposalElectorSnapshot.member).Nodup := by
      refine List.Nodup.sublist (snapshotRows_sublist h) ?_
      refine ((List.perm_insertionSort _ _).map Member.pk).nodup_iff.2 ?_
      exact t.roles.db.members.pkUnique
    refine List.Nodup.of_map Prod.snd ?_
    rw [List.map_map]
    exact hmembers
  · exact hnone x hx ((Prod.mk.inj heq).1.trans (hproposal r hr).1)

/-- A draft of an application can be voted on if its rule can be decided. -/
theorem startDraft_of_decidable {rule : ElectorateRuleVersion} {k : Nat} (hunvoted : Unvoted t p a)
    (hlinked : a.linkedMember = some k) (hmem : p ∈ t.proposals.rows)
    (hrule : rule ∈ t.rules.rows) (hversion : p.electorateRuleVersion = some rule.ruleVersionId)
    (htemplate : rule.template.proposalType = "member_application")
    (hsnapshots : ∀ x ∈ t.snapshots.rows, x.proposal ≠ p.proposalId)
    (hdecidable : RuleDecidable t.roles.db rule k) :
    ∃ t' p', startDraft env t p = .ok (t', p') := by
  have hget : t.rules.get? rule.ruleVersionId = some rule := Table.get?_eq_some.2 ⟨hrule, rfl⟩
  have hruleOf : ruleOf t p = .ok rule := by
    rw [ruleOf, hversion]
    simp only [hget]
  have htype : ¬ rule.template.proposalType ≠ p.proposalType.value := by
    rw [hunvoted.proposalType, htemplate]
    exact fun h => h rfl
  let opened := openVoting p rule env.now
  let t₁ := saveProposal t opened
  have hopened : opened ∈ t₁.proposals.rows := (saveProposal_replaces hmem rfl opened).2 (.inl rfl)
  have happlication : applicationFor t₁ opened = .ok a := hunvoted.application
  have hadapter : (proposalAdapterFor opened.proposalType : Except Error (ProposalTypeAdapter rt)) =
      .ok memberAdmissionAdapter := by
    rw [show opened.proposalType = .memberApplication from hunvoted.proposalType]
    rfl
  have hexcluded : (memberAdmissionAdapter : ProposalTypeAdapter rt).excludedMemberId t₁ opened =
      .ok (some k) := bind_eq_ok.2 ⟨a, happlication, by rw [hlinked]; rfl⟩
  obtain ⟨rows, hrows⟩ := (@ruleDecidable_iff _ t₁ opened env.now rule k).2 hdecidable
  obtain ⟨snapshots, hcreate⟩ := @snapshots_insertable _ t₁ opened _ _ _ _ _ hrows hsnapshots
  have hgenerate : generateElectorSnapshot t₁ env.now opened.proposalId (some k) =
      .ok { t₁ with snapshots := snapshots } := by
    have hlock : lockProposal t₁ opened.proposalId = .ok opened := by
      rw [lockProposal, Table.get?_eq_some.2 ⟨hopened, rfl⟩]
    refine bind_eq_ok.2 ⟨opened, hlock, ?_⟩
    have hopenedVersion : opened.electorateRuleVersion = some rule.ruleVersionId := hversion
    have hopenedGet : t₁.rules.get? rule.ruleVersionId = some rule := hget
    have hany : ¬ (t₁.snapshots.rows.any fun r => r.proposal = opened.proposalId) = true := by
      rw [List.any_eq_true]
      rintro ⟨x, hx, heq⟩
      exact hsnapshots x hx (of_decide_eq_true heq)
    simp only [hopenedVersion, hopenedGet]
    rw [if_neg hany]
    exact bind_eq_ok.2 ⟨rows, hrows, bind_eq_ok.2 ⟨snapshots, hcreate, rfl⟩⟩
  have hunvoted₂ : Unvoted { t₁ with snapshots := snapshots } opened a :=
    ⟨hunvoted.proposalType, happlication, hunvoted.linked, hunvoted.submitter, hunvoted.rule,
      hunvoted.noBallots⟩
  obtain ⟨m, hm, hpk⟩ := hunvoted.submitter
  have hsubmitter : memberRow { t₁ with snapshots := snapshots } opened.submittedBy = .ok m := by
    have hgetMember : t.roles.db.members.get? p.submittedBy = some m :=
      Table.get?_eq_some.2 ⟨hm, hpk⟩
    show memberRow t p.submittedBy = .ok m
    rw [memberRow, hgetMember]
  obtain ⟨events, hevent⟩ := @Unvoted.event _ _ _ _ hunvoted₂ env.now "proposal_voting_started"
    "voting_started" m (by decide)
  exact ⟨_, _, bind_eq_ok.2 ⟨rule, hruleOf, rejectIf_bind_eq_ok.2 ⟨htype, bind_eq_ok.2 ⟨_, hadapter,
    bind_eq_ok.2 ⟨_, hexcluded, bind_eq_ok.2 ⟨_, hgenerate, bind_eq_ok.2 ⟨m, hsubmitter,
      bind_eq_ok.2 ⟨_, hevent, rfl⟩⟩⟩⟩⟩⟩⟩⟩

/-! ## The proposal of a new application -/

theorem latestPublishedRule_mem {proposalType : ProposalType} {rule : ElectorateRuleVersion}
    (h : latestPublishedRule s proposalType = some rule) :
    rule ∈ s.proposals.rules.rows ∧ rule.template.proposalType = proposalType.value := by
  have hmem := List.mem_of_mem_head? h
  rw [List.mem_insertionSort, List.mem_filter] at hmem
  simp only [Bool.and_eq_true, decide_eq_true_eq] at hmem
  exact ⟨hmem.1, hmem.2.1⟩

/-- An application that was just stored, and the draws of the call. -/
structure NewlyStored (env : ProposalEnv) (t : ProposalState rt) (a : MemberApplication)
    (m : Member) : Prop where
  application : t.applications.get? a.applicationId = some a
  applicant : a.linkedMember = some m.pk
  member : ∃ row ∈ t.roles.db.members.rows, row.pk = m.pk
  submitted : a.status = .submitted
  nonempty : a.applicationId ≠ ""
  noProposal : existingProposal t .memberApplication ("member-application:" ++ a.applicationId) =
    none
  freshProposal : ∀ p ∈ t.proposals.rows, p.proposalId ≠ "proposal-" ++ env.uuid
  freshSnapshot : ∀ x ∈ t.snapshots.rows, x.proposal ≠ "proposal-" ++ env.uuid
  freshBallot : ∀ b ∈ t.ballots.rows, b.proposal ≠ "proposal-" ++ env.uuid

/-- The proposal is created, and can be voted on if its rule can be decided. -/
theorem createElectorateProposal_of_new {m : Member} {rule : Option ElectorateRuleVersion}
    (h : NewlyStored env t a m)
    (hrule : ∀ r, rule = some r →
      r ∈ t.rules.rows ∧ r.template.proposalType = "member_application") :
    ∃ t', createElectorateProposal env t (admissionProposalArgs a m rule) =
        .ok (t', newElectorateProposal env (admissionProposalArgs a m rule)) ∧
      newElectorateProposal env (admissionProposalArgs a m rule) ∈ t'.proposals.rows ∧
      Unvoted t' (newElectorateProposal env (admissionProposalArgs a m rule)) a ∧
      t'.rules = t.rules ∧ t'.snapshots = t.snapshots ∧ t'.roles.db = t.roles.db := by
  have htype : ¬ rule.any (fun r =>
      r.template.proposalType ≠ ProposalType.memberApplication.value) = true := by
    cases rule with
    | none => exact Bool.false_ne_true
    | some r =>
      have hr := (hrule r rfl).2
      simp only [Option.any_some, decide_eq_true_eq, hr]
      exact fun hne => hne rfl
  have hcheck : checkRule t rule = .ok () := by
    refine rejectIf_neg ?_
    cases rule with
    | none => exact Bool.false_ne_true
    | some r => simp [Table.get?_eq_some.2 ⟨(hrule r rfl).1, rfl⟩]
  have hnone := List.find?_eq_none.1 h.noProposal
  obtain ⟨proposals, hinsert, hrows⟩ := Table.insert_of_fresh (t := t.proposals)
    (r := newElectorateProposal env (admissionProposalArgs a m rule)) (e := Error.integrity)
    h.freshProposal (by
      intro key hkey p hp heq
      obtain rfl := Option.some.inj hkey
      obtain ⟨hptype, hpkey⟩ := Prod.mk.inj (Option.some.inj heq)
      refine hnone p hp ?_
      simp only [Bool.and_eq_true, decide_eq_true_eq]
      exact ⟨hptype, hpkey⟩)
  have hunvoted : Unvoted { t with proposals := proposals }
      (newElectorateProposal env (admissionProposalArgs a m rule)) a := by
    refine ⟨rfl, ?_, ?_, h.member, ?_, h.freshBallot⟩
    · refine rejectIf_bind_eq_ok.2 ⟨?_, ?_⟩
      · rintro (hne | hempty)
        · exact hne rfl
        · exact h.nonempty hempty
      · have hget : t.applications.get? (newElectorateProposal env
            (admissionProposalArgs a m rule)).targetId = some a := h.application
        simp only [hget]
    · intro k hk
      obtain ⟨row, hrow, hpk⟩ := h.member
      exact ⟨row, hrow, hpk.trans (Option.some.inj (h.applicant.symm.trans hk))⟩
    · intro id hid
      cases rule with
      | none => cases hid
      | some r =>
        obtain rfl := Option.some.inj hid
        exact ⟨r, Table.get?_eq_some.2 ⟨(hrule r rfl).1, rfl⟩⟩
  obtain ⟨events, hevent⟩ := @Unvoted.event _ _ _ _ hunvoted env.now "approval_proposal_submitted"
    "submitted" m (by decide)
  refine ⟨{ t with
    proposals := proposals
    roles := { t.roles with events := events } }, ?_, ?_, ?_, rfl, rfl, rfl⟩
  · refine bind_eq_ok.2 ⟨memberAdmissionAdapter, rfl, rejectIf_bind_eq_ok.2 ⟨fun hne => hne rfl,
      bind_eq_ok.2 ⟨(), rfl, rejectIf_bind_eq_ok.2 ⟨?_, ?_⟩⟩⟩⟩
    · intro hempty
      have hlength := congrArg String.length hempty
      simp [admissionProposalArgs] at hlength
    · have hexisting : existingProposal t (admissionProposalArgs a m rule).proposalType
          (admissionProposalArgs a m rule).dedupeKey = none := h.noProposal
      simp only [hexisting]
      exact rejectIf_bind_eq_ok.2 ⟨htype, bind_eq_ok.2 ⟨(), hcheck, bind_eq_ok.2
        ⟨proposals, hinsert, bind_eq_ok.2 ⟨_, hevent, rfl⟩⟩⟩⟩
  · rw [hrows]
    exact List.mem_append_right _ (List.mem_singleton_self _)
  · exact ⟨hunvoted.proposalType, hunvoted.application, hunvoted.linked, hunvoted.submitter,
      hunvoted.rule, hunvoted.noBallots⟩

/-- **A new application gets its proposal** if the published rule can be decided. -/
theorem createApprovalProposalForApplication_of_decidable {m : Member}
    (h : NewlyStored env s.proposals a m)
    (hdecidable : ∀ r, latestPublishedRule s .memberApplication = some r →
      RuleDecidable s.proposals.roles.db r m.pk) :
    ∃ s' p, createApprovalProposalForApplication env s a m = .ok (s', p) := by
  obtain ⟨t, hcreate, hmem, hunvoted, hrules, hsnapshots, hdb⟩ :=
    createElectorateProposal_of_new h
      fun r (hr : latestPublishedRule s .memberApplication = some r) => latestPublishedRule_mem hr
  unfold createApprovalProposalForApplication
  rw [rejectIf_neg (not_not.2 h.applicant), ok_bind]
  simp only [hcreate, ok_bind]
  cases hlatest : latestPublishedRule s .memberApplication with
  | none => exact ⟨_, _, rfl⟩
  | some r =>
    rw [hlatest] at hmem hunvoted
    obtain ⟨hr, htemplate⟩ := latestPublishedRule_mem hlatest
    obtain ⟨t', p', hstart⟩ := @startDraft_of_decidable _ t env _ a r m.pk hunvoted h.applicant hmem
      (hrules ▸ hr) rfl htemplate (by rw [hsnapshots]; exact h.freshSnapshot)
      (hdb ▸ hdecidable r hlatest)
    have hget : t.proposals.get? ("proposal-" ++ env.uuid) =
        some (newElectorateProposal env (admissionProposalArgs a m (some r))) :=
      Table.get?_eq_some.2 ⟨hmem, rfl⟩
    have hlock : lockProposal t ("proposal-" ++ env.uuid) =
        .ok (newElectorateProposal env (admissionProposalArgs a m (some r))) := by
      rw [lockProposal, hget]
    have hvoting : startElectorateVoting env t ("proposal-" ++ env.uuid) = .ok (t', p') := by
      unfold startElectorateVoting
      rw [hlock, ok_bind]
      exact hstart
    have hvoting' : startElectorateVoting env t
        (newElectorateProposal env (admissionProposalArgs a m (some r))).proposalId =
          .ok (t', p') := hvoting
    simp only [hvoting', ok_bind]
    exact ⟨_, _, rfl⟩

/-- A draft of an application that is voted on has a rule that can be decided. -/
theorem startDraft_decidable {rule : ElectorateRuleVersion} {k : Nat}
    (htype : p.proposalType = .memberApplication)
    (happlication : t.applications.get? p.targetId = some a) (hlinked : a.linkedMember = some k)
    (hmem : p ∈ t.proposals.rows) (hrule : rule ∈ t.rules.rows)
    (hversion : p.electorateRuleVersion = some rule.ruleVersionId)
    (hsnapshots : ∀ x ∈ t.snapshots.rows, x.proposal ≠ p.proposalId) {p' : ApprovalProposal}
    (h : startDraft env t p = .ok (t', p')) : RuleDecidable t.roles.db rule k := by
  have hget : t.rules.get? rule.ruleVersionId = some rule := Table.get?_eq_some.2 ⟨hrule, rfl⟩
  obtain ⟨version, hruleOf, h⟩ := bind_eq_ok.1 h
  rw [ruleOf, hversion] at hruleOf
  simp only [hget] at hruleOf
  obtain rfl := Except.ok.inj hruleOf
  obtain ⟨-, h⟩ := rejectIf_bind_eq_ok.1 h
  obtain ⟨adapter, hadapter, h⟩ := bind_eq_ok.1 h
  obtain ⟨excluded, hexcluded, h⟩ := bind_eq_ok.1 h
  obtain ⟨t₂, hgenerate, -⟩ := bind_eq_ok.1 h
  have hopenedType : (openVoting p rule env.now).proposalType = .memberApplication := htype
  rw [hopenedType] at hadapter
  obtain rfl := Except.ok.inj hadapter
  obtain ⟨b, hb, hexcluded⟩ := bind_eq_ok.1 hexcluded
  obtain ⟨hbmem, hbid⟩ := applicationFor_ok hb
  obtain rfl := Option.some.inj (happlication.symm.trans (Table.get?_eq_some.2 ⟨hbmem, hbid⟩))
  obtain rfl := hlinked.symm.trans (pure_eq_ok.1 hexcluded)
  obtain ⟨locked, hlock, hgenerate⟩ := bind_eq_ok.1 hgenerate
  obtain ⟨hlocked, hid⟩ := lockProposal_ok hlock
  obtain rfl := Table.eq_of_pk _ hlocked
    ((saveProposal_replaces hmem rfl (openVoting p rule env.now)).2 (.inl rfl)) hid
  have hopenedVersion : (openVoting p rule env.now).electorateRuleVersion =
      some rule.ruleVersionId := hversion
  have hopenedGet : (saveProposal t (openVoting p rule env.now)).rules.get? rule.ruleVersionId =
      some rule := hget
  simp only [hopenedVersion, hopenedGet] at hgenerate
  split at hgenerate
  · rename_i hany
    obtain ⟨x, hx, heq⟩ := List.any_eq_true.1 hany
    exact absurd (of_decide_eq_true heq) (hsnapshots x hx)
  · obtain ⟨rows, hrows, -⟩ := bind_eq_ok.1 hgenerate
    exact (@ruleDecidable_iff _ (saveProposal t (openVoting p rule env.now))
      (openVoting p rule env.now) env.now rule k).1 ⟨rows, hrows⟩

/-- The rule of a new proposal could be decided. -/
theorem createApprovalProposalForApplication_decidable {m : Member} {r : ElectorateRuleVersion}
    (hsound : Sound s.proposals)
    (hnone : existingProposal s.proposals .memberApplication
      ("member-application:" ++ a.applicationId) = none)
    (happlication : s.proposals.applications.get? a.applicationId = some a)
    (hlatest : latestPublishedRule s .memberApplication = some r)
    (h : createApprovalProposalForApplication env s a m = .ok (s', p)) :
    RuleDecidable s.proposals.roles.db r m.pk := by
  obtain ⟨hlinked, h⟩ := rejectIf_bind_eq_ok.1 h
  obtain ⟨⟨t, q⟩, hcreate, h⟩ := bind_eq_ok.1 h
  rw [hlatest] at hcreate h
  rcases createElectorateProposal_admission hcreate with
    ⟨-, hq, htype, hdedupe⟩ | ⟨rfl, hrows, happs, hdb, hrules, hsnapshots, hfresh, -⟩
  · refine absurd ?_ (List.find?_eq_none.1 hnone q hq)
    simp only [Bool.and_eq_true, decide_eq_true_eq]
    exact ⟨htype, hdedupe⟩
  · obtain ⟨⟨t', q'⟩, hstart, -⟩ := bind_eq_ok.1 h
    obtain ⟨locked, hlock, hstart⟩ := bind_eq_ok.1 hstart
    obtain ⟨hlocked, hid⟩ := lockProposal_ok hlock
    have hmem : newElectorateProposal env (admissionProposalArgs a m (some r)) ∈ t.proposals.rows :=
      hrows ▸ List.mem_append_right _ (List.mem_singleton_self _)
    obtain rfl := t.proposals.eq_of_pk hlocked hmem hid
    obtain ⟨-, hstart⟩ := rejectIf_bind_eq_ok.1 hstart
    obtain ⟨-, hstart⟩ := rejectIf_bind_eq_ok.1 hstart
    rw [← hdb]
    refine startDraft_decidable rfl (happs ▸ happlication) (not_not.1 hlinked) hmem ?_ rfl ?_ hstart
    · exact hrules ▸ (latestPublishedRule_mem hlatest).1
    · intro x hx hproposal
      rw [hsnapshots] at hx
      obtain ⟨y, hy, hyx, -⟩ := hsound.snapshotOf x hx
      exact hfresh y hy (hyx.trans hproposal)

end LiveOs.Proposals
