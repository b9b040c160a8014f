import LiveOs.EventLedger.Verify.Payloads
import LiveOs.Electorate.Verify.Selectors
import LiveOs.Proposals.Verify.Tally

/-!
# Closing a vote

Finalising recounts every ballot, and the recount validates the selector of the frozen rule again,
against the professional domains as they are now. Everything else that finalising needs is there for
every open vote, so it succeeds exactly when every member who voted can still be decided on.
-/

namespace LiveOs.Proposals

open Lib EventLedger Roles Electorate

variable {rt : Runtime} {env : ProposalEnv} {s s' : ProposalState rt}

/-! ## What an open vote finds -/

theorem applicationFor_kept {p : ApprovalProposal} {a : MemberApplication} (hkept : Kept s s')
    (h : applicationFor s p = .ok a) :
    ∃ a', applicationFor s' p = .ok a' ∧ a'.linkedMember = a.linkedMember := by
  obtain ⟨hsource, h⟩ := rejectIf_bind_eq_ok.1 h
  split at h
  · cases h
  · rename_i hget
    obtain rfl := Except.ok.inj h
    obtain ⟨hmem, hid⟩ := Table.get?_eq_some.1 hget
    obtain ⟨a', hmem', hid', hlinked⟩ := hkept.applications _ hmem
    refine ⟨a', rejectIf_bind_eq_ok.2 ⟨hsource, ?_⟩, hlinked⟩
    rw [Table.get?_eq_some.2 ⟨hmem', hid'.trans hid⟩]

theorem Opening.kept {p : ApprovalProposal} {rule : ElectorateRuleVersion} (h : Opening s p rule)
    (hkept : Kept s s') : Opening s' p rule := by
  obtain ⟨a, ha⟩ := h.application
  obtain ⟨a', ha', -⟩ := applicationFor_kept hkept ha
  obtain ⟨m, hm, hpk⟩ := h.submitter
  obtain ⟨m', hm', hpk'⟩ := hkept.members m hm
  exact ⟨h.proposalType, ⟨hkept.rules _ h.ruleRow.1, h.ruleRow.2⟩, ⟨a', ha'⟩,
    m', hm', hpk'.trans hpk⟩

/-- Open votes find their rule, their application and their submitter, and voters and electors are
members. -/
structure VoteReady (s : ProposalState rt) : Prop where
  opened : ∀ p ∈ s.proposals.rows, p.status = .voting → ∃ rule, Opening s p rule
  electors : ∀ r ∈ s.snapshots.rows, ∃ m ∈ s.roles.db.members.rows, m.pk = r.member
  voters : ∀ b ∈ s.ballots.rows, ∃ r ∈ s.snapshots.rows,
    r.proposal = b.proposal ∧ r.member = b.voter
  linked : ∀ a ∈ s.applications.rows, Linked s a

/-- New open votes are those that a move opens. -/
theorem VoteReady.keep (h : VoteReady s) (hkept : Kept s s')
    (hproposals : ∀ p ∈ s'.proposals.rows, p.status = .voting →
      p ∈ s.proposals.rows ∨ ∃ rule, Opening s p rule)
    (hsnapshots : ∀ r ∈ s'.snapshots.rows, r ∈ s.snapshots.rows ∨
      ∃ m ∈ s.roles.db.members.rows, m.pk = r.member)
    (hvoters : ∀ b ∈ s'.ballots.rows, ∃ r ∈ s'.snapshots.rows,
      r.proposal = b.proposal ∧ r.member = b.voter) : VoteReady s' := by
  refine ⟨fun p hp hvoting => ?_, fun r hr => ?_, hvoters, hkept.linked h.linked⟩
  · rcases hproposals p hp hvoting with hp | ⟨rule, hopening⟩
    · obtain ⟨rule, hopening⟩ := h.opened p hp hvoting
      exact ⟨rule, hopening.kept hkept⟩
    · exact ⟨rule, hopening.kept hkept⟩
  · have hmember : ∃ m ∈ s.roles.db.members.rows, m.pk = r.member := by
      rcases hsnapshots r hr with hr | hr
      · exact h.electors r hr
      · exact hr
    obtain ⟨m, hm, hpk⟩ := hmember
    obtain ⟨m', hm', hpk'⟩ := hkept.members m hm
    exact ⟨m', hm', hpk'.trans hpk⟩

theorem Move.voteReady {may : String → Prop} (h : VoteReady s) (hkept : Kept s s')
    (hmove : Move may s s') : VoteReady s' := by
  have hballots : s'.snapshots = s.snapshots → s'.ballots = s.ballots → ∀ b ∈ s'.ballots.rows,
      ∃ r ∈ s'.snapshots.rows, r.proposal = b.proposal ∧ r.member = b.voter := by
    intro hsnapshots hballots
    rw [hsnapshots, hballots]
    exact h.voters
  have hrows : s'.snapshots = s.snapshots → ∀ r ∈ s'.snapshots.rows, r ∈ s.snapshots.rows ∨
      ∃ m ∈ s.roles.db.members.rows, m.pk = r.member := by
    intro hsnapshots r hr
    rw [hsnapshots] at hr
    exact .inl hr
  -- the replaced row of a proposal that is not open
  have hclosed : ∀ q, Replaces s s' q → q.status ≠ .voting → ∀ p ∈ s'.proposals.rows,
      p.status = .voting → p ∈ s.proposals.rows ∨ ∃ rule, Opening s p rule := by
    intro q hreplaces hq p hp hvoting
    rcases (hreplaces p).1 hp with rfl | ⟨hp, -⟩
    · exact absurd hvoting hq
    · exact .inl hp
  cases hmove with
  | idle hproposals hsnapshots hball hresolutions hexecutions =>
    exact h.keep hkept (fun p hp _ => .inl (hproposals ▸ hp)) (hrows hsnapshots)
      (hballots hsnapshots hball)
  | created p hfresh hproposals hstrategy hwaiting hsnapshots hball hresolutions hexecutions =>
    refine h.keep hkept (fun q hq hvoting => ?_) (hrows hsnapshots) (hballots hsnapshots hball)
    rw [hproposals] at hq
    rcases List.mem_append.1 hq with hq | hq
    · exact .inl hq
    · obtain rfl := List.mem_singleton.1 hq
      rcases hwaiting with hst | hst <;> rw [hst] at hvoting <;> cases hvoting
  | attached p ruleId hmem hwaiting hproposals hsnapshots hball hresolutions hexecutions =>
    exact h.keep hkept (hclosed _ hproposals (by simp)) (hrows hsnapshots)
      (hballots hsnapshots hball)
  | started p rule now hmem hstrategy hdraft hopening hproposals hsnapshots hball hresolutions
      hexecutions =>
    obtain ⟨rows, hnew, hown⟩ := hsnapshots
    refine h.keep hkept (fun q hq hvoting => ?_) (fun r hr => ?_) (fun b hb => ?_)
    · rcases (hproposals q).1 hq with rfl | ⟨hq, -⟩
      · exact .inr ⟨rule, hopening.proposalType, hopening.ruleRow, hopening.application,
          hopening.submitter⟩
      · exact .inl hq
    · rcases List.mem_append.1 (hnew ▸ hr) with hr | hr
      · exact .inl hr
      · exact .inr (hown r hr).2
    · rw [hball] at hb
      obtain ⟨r, hr, hvoter⟩ := h.voters b hb
      exact ⟨r, hnew ▸ List.mem_append_left _ hr, hvoter⟩
  | balloted p b hmem hvoting hproposal hrevision hball hvoter hproposals hsnapshots
      hresolutions hexecutions =>
    refine h.keep hkept (fun p hp _ => .inl (hproposals ▸ hp)) (hrows hsnapshots) (fun c hc => ?_)
    rw [hsnapshots]
    rcases List.mem_append.1 (hball ▸ hc) with hc | hc
    · exact h.voters c hc
    · obtain rfl := List.mem_singleton.1 hc
      rw [hproposal]
      exact hvoter
  | resolved p tally outcome reasonCode atTime actor hmem hvoting houtcome hproposals hresolutions
      hsnapshots hball hexecutions =>
    refine h.keep hkept (hclosed _ hproposals ?_) (hrows hsnapshots) (hballots hsnapshots hball)
    cases outcome <;> simp [Outcome.status]
  | attempted p p' e hmem hstrategy hallowed hexecutable hended hsame hproposals hsnapshots hball
      hresolutions hproposal hsucceeded hexecutions =>
    refine h.keep hkept (hclosed _ hproposals ?_) (hrows hsnapshots) (hballots hsnapshots hball)
    rcases hended with hst | hst <;> rw [hst] <;> simp

theorem NoElectorate.voteReady (h : NoElectorate s) (hlinked : ∀ a ∈ s.applications.rows, Linked s a) :
    VoteReady s := by
  refine ⟨fun p hp hvoting => ?_, ?_, ?_, hlinked⟩
  · rcases (h.proposals p hp).2 with hst | hst | hst | hst <;> rw [hst] at hvoting <;> cases hvoting
  · rw [h.snapshots]
    exact fun r hr => absurd hr List.not_mem_nil
  · rw [h.ballots]
    exact fun b hb => absurd hb List.not_mem_nil

theorem run_voteReady (h : VoteReady s) (steps : List (ProposalStep rt)) :
    VoteReady (runCalls proposalStep s steps) := by
  refine runCalls_invariant (fun s c s' h hstep => ?_) h steps
  exact (proposalStep_moves hstep).invariant (fun _ _ h hmove hkept => hmove.voteReady h hkept) h

/-! ## The event -/

theorem applicationFacts_factOk {p : ApprovalProposal} {facts : List (String × Json)}
    (h : applicationFacts s p = .ok facts) : ∀ f ∈ facts, FactOk f := by
  unfold applicationFacts at h
  split at h
  · split at h
    · obtain rfl := Except.ok.inj h
      exact fun f hf => absurd hf List.not_mem_nil
    · obtain ⟨memberNo, -, h⟩ := bind_eq_ok.1 h
      obtain rfl := pure_eq_ok.1 h
      simp only [List.forall_mem_cons, List.not_mem_nil, false_imp_iff, implies_true, and_true]
      exact ⟨factOk_str (by decide) _, factOk_str (by decide) _, factOk_str (by decide) _⟩
  · obtain rfl := Except.ok.inj h
    exact fun f hf => absurd hf List.not_mem_nil

theorem ruleFacts_factOk {p : ApprovalProposal} {facts : List (String × Json)}
    (h : ruleFacts s p = .ok facts) : ∀ f ∈ facts, FactOk f := by
  have htwo : ∀ (code : String) (version : Scalar), ∀ f ∈ [("ap_rule_code", Json.str code),
      ("ap_rule_version", .scalar version)], FactOk f := by
    intro code version
    simp only [List.forall_mem_cons, List.not_mem_nil, false_imp_iff, implies_true, and_true]
    exact ⟨factOk_str (by decide) _, factOk_scalar (by decide) _⟩
  unfold ruleFacts at h
  split at h
  · obtain rfl := Except.ok.inj h
    exact htwo _ _
  · split at h
    · cases h
    · obtain rfl := Except.ok.inj h
      exact htwo _ _

theorem strategyFacts_factOk {now : Nat} {p : ApprovalProposal} {facts : List (String × Json)}
    (h : strategyFacts s now p = .ok facts) : ∀ f ∈ facts, FactOk f := by
  unfold strategyFacts at h
  split at h
  · obtain ⟨tally, -, h⟩ := bind_eq_ok.1 h
    obtain ⟨rule, hrule, h⟩ := bind_eq_ok.1 h
    obtain rfl := pure_eq_ok.1 h
    have hdeadline : FactOk ("ap_voting_deadline", isoFact p.votingDeadline) := by
      cases p.votingDeadline with
      | none => exact factOk_scalar (by decide) _
      | some t => exact factOk_str (by decide) _
    rw [List.forall_mem_append]
    refine ⟨ruleFacts_factOk hrule, ?_⟩
    simp only [List.forall_mem_cons, List.not_mem_nil, false_imp_iff, implies_true, and_true]
    exact ⟨hdeadline, factOk_scalar (by decide) _, factOk_scalar (by decide) _,
      factOk_scalar (by decide) _, factOk_scalar (by decide) _, factOk_scalar (by decide) _⟩
  · obtain rfl := Except.ok.inj h
    simp only [List.forall_mem_cons, List.not_mem_nil, false_imp_iff, implies_true, and_true]
    exact ⟨factOk_str (by decide) _, factOk_strs (by decide) _, factOk_strs (by decide) _,
      factOk_strs (by decide) _⟩

/-- The payload of a proposal is accepted by the ledger. -/
theorem approvalProposalPayload_accepted {now : Nat} {p : ApprovalProposal} {action : String}
    {actor : Option Member} {payload : PyVal} {req : AppendRequest}
    (h : approvalProposalPayload s now p action actor = .ok payload)
    (htitle : ¬ blank (publicTexts p).1) (haction : ¬ blank action)
    (hreq : req.payloadJson = payload) : checkRequest rt req = .ok () := by
  obtain ⟨submittedLabel, -, h⟩ := bind_eq_ok.1 h
  obtain ⟨application, happlication, h⟩ := bind_eq_ok.1 h
  obtain ⟨strategy, hstrategy, h⟩ := bind_eq_ok.1 h
  have hpayload := hreq.trans (pure_eq_ok.1 h).symm
  refine checkRequest_publicEventPayload hpayload (by decide)
    (not_blank_publicRef (c := 'a') (by decide) (by decide) (by decide) _) htitle haction ?_ ?_ ?_ ?_
  · cases p.status <;> decide
  · simp only [String.append_assoc]
    exact not_blank_append (c := '提') (by decide) (by decide) _
  · rw [List.forall_mem_append, List.forall_mem_append]
    refine ⟨⟨?_, applicationFacts_factOk happlication⟩, strategyFacts_factOk hstrategy⟩
    simp only [List.forall_mem_cons, List.not_mem_nil, false_imp_iff, implies_true, and_true]
    exact ⟨factOk_str (by decide) _, factOk_str (by decide) _, factOk_str (by decide) _,
      factOk_str (by decide) _, factOk_str (by decide) _, factOk_str (by decide) _,
      factOk_str (by decide) _, factOk_str (by decide) _, factOk_str (by decide) _⟩
  · intro c hc
    rw [List.mem_singleton.1 hc]
    exact commitmentOk _ _ _

/-- The event of an admission proposal is written if its rows are there and the tally can be
taken. -/
theorem appendProposalEvent_of_rows {now : Nat} {p : ApprovalProposal} {a : MemberApplication}
    {tally : ProposalTally} {eventType action : String} {actor : Member}
    (htype : p.proposalType = .memberApplication) (ha : applicationFor s p = .ok a)
    (hlinked : Linked s a) (hsubmitter : ∃ m ∈ s.roles.db.members.rows, m.pk = p.submittedBy)
    (hrules : ∀ id, p.electorateRuleVersion = some id → ∃ r, s.rules.get? id = some r)
    (htally : proposalTally s now p = .ok tally) (haction : ¬ blank action) :
    ∃ events, appendProposalEvent s now p eventType action actor =
      .ok { s with roles := { s.roles with events := events } } := by
  obtain ⟨m, hm, hpk⟩ := hsubmitter
  have hlabel : memberLabel s.roles.db p.submittedBy = .ok m.publicLabel := by
    rw [memberLabel, Table.get?_eq_some.2 ⟨hm, hpk⟩]
  obtain ⟨application, happlication⟩ : ∃ facts, applicationFacts s p = .ok facts := by
    obtain ⟨hamem, haid⟩ := applicationFor_ok ha
    have hno : ∃ memberNo, linkedMemberNo s.roles.db a = .ok memberNo := by
      unfold linkedMemberNo
      cases hk : a.linkedMember with
      | none => exact ⟨_, rfl⟩
      | some k =>
        obtain ⟨m, hm, hpk⟩ := hlinked k hk
        simp only [Table.get?_eq_some.2 ⟨hm, hpk⟩]
        exact ⟨_, rfl⟩
    obtain ⟨memberNo, hno⟩ := hno
    rw [applicationFacts, if_pos htype, Table.get?_eq_some.2 ⟨hamem, haid⟩]
    exact ⟨_, bind_eq_ok.2 ⟨memberNo, hno, rfl⟩⟩
  obtain ⟨facts, hrule⟩ : ∃ facts, ruleFacts s p = .ok facts := by
    unfold ruleFacts
    cases hid : p.electorateRuleVersion with
    | none => exact ⟨_, rfl⟩
    | some id =>
      obtain ⟨r, hr⟩ := hrules id hid
      simp only [hr]
      exact ⟨_, rfl⟩
  obtain ⟨strategy, hstrategy⟩ : ∃ facts, strategyFacts s now p = .ok facts := by
    unfold strategyFacts
    split
    · exact ⟨_, bind_eq_ok.2 ⟨tally, htally, bind_eq_ok.2 ⟨facts, hrule, rfl⟩⟩⟩
    · exact ⟨_, rfl⟩
  obtain ⟨payload, hpayload⟩ : ∃ payload,
      approvalProposalPayload s now p action (some actor) = .ok payload :=
    ⟨_, bind_eq_ok.2 ⟨_, hlabel, bind_eq_ok.2 ⟨_, happlication, bind_eq_ok.2 ⟨_, hstrategy, rfl⟩⟩⟩⟩
  have htitle : ¬ blank (publicTexts p).1 := by
    rw [publicTexts, if_pos htype]
    decide
  have hcheck : checkRequest rt {
      eventType := eventType
      aggregateType := "ApprovalProposal"
      aggregateId := p.proposalId
      actorMember := some actor.pk
      payloadJson := payload
      occurredAt := some now
      now := now } = .ok () :=
    approvalProposalPayload_accepted hpayload htitle haction rfl
  obtain ⟨events, hevents, -⟩ := s.roles.events.append_of_checkRequest hcheck
  exact ⟨events, bind_eq_ok.2 ⟨payload, hpayload, bind_eq_ok.2 ⟨events, hevents, rfl⟩⟩⟩

/-- The event of an open vote is written as long as the tally can be taken. -/
theorem appendProposalEvent_of_tally {now : Nat} {p : ApprovalProposal} {tally : ProposalTally}
    {rule : ElectorateRuleVersion} {eventType action : String} {actor : Member}
    (hopening : Opening s p rule) (hlinked : ∀ a ∈ s.applications.rows, Linked s a)
    (htally : proposalTally s now p = .ok tally) (haction : ¬ blank action) :
    ∃ s', appendProposalEvent s now p eventType action actor = .ok s' := by
  obtain ⟨a, ha⟩ := hopening.application
  obtain ⟨hamem, -⟩ := applicationFor_ok ha
  obtain ⟨hrule, hversion⟩ := hopening.ruleRow
  have hrules : ∀ id, p.electorateRuleVersion = some id → ∃ r, s.rules.get? id = some r := by
    intro id hid
    obtain rfl := Option.some.inj (hversion.symm.trans hid)
    exact ⟨rule, Table.get?_eq_some.2 ⟨hrule, rfl⟩⟩
  obtain ⟨events, hevents⟩ := @appendProposalEvent_of_rows _ _ now p a tally eventType action actor
    hopening.proposalType ha (hlinked a hamem) hopening.submitter hrules htally haction
  exact ⟨_, hevents⟩

/-! ## Who can be decided on -/

/-- A rule can be evaluated for a member who is excluded or may hold no roles, and for the others as
long as its selector is valid. -/
theorem evaluateRuleForMember_decided {db : Directory} {now : Nat} {selectorConfig : Json}
    {m : Member} {excluded : Option Nat} :
    (∃ e, evaluateRuleForMember db now selectorConfig m none excluded = .ok e) ↔
      excluded = some m.pk ∨ memberAllowsRoleFacts m = false ∨
        validateSelectorNode db 0 selectorConfig = .ok () := by
  have hnow : evaluateRuleForMember db now selectorConfig m none excluded =
      evaluateRuleForMember db now selectorConfig m (some now) excluded := rfl
  rw [hnow]
  by_cases hexcluded : excluded = some m.pk
  · refine ⟨fun _ => .inl hexcluded, fun _ => ?_⟩
    unfold evaluateRuleForMember
    exact ⟨_, if_pos hexcluded⟩
  · cases hallows : memberAllowsRoleFacts m with
    | false =>
      refine ⟨fun _ => .inr (.inl rfl), fun _ => ?_⟩
      unfold evaluateRuleForMember
      rw [if_neg hexcluded, hallows]
      exact ⟨_, rfl⟩
    | true =>
      constructor
      · rintro ⟨e, he⟩
        exact .inr (.inr (evaluateRuleForMember_ok hexcluded hallows he))
      · rintro (h | h | hvalid)
        · exact absurd h hexcluded
        · cases h
        · obtain ⟨f, -, rfl⟩ := admissible_of_validateSelectorNode hvalid
          obtain ⟨result, hresult, -⟩ := @evaluateRuleForMember_toJson db now now m f excluded
            hexcluded hallows hvalid
          exact ⟨result, hresult⟩

/-- Every member with a ballot is the applicant, may hold no roles any more, or meets a selector
that is still valid. -/
def VotersDecidable (s : ProposalState rt) (p : ApprovalProposal) : Prop :=
  ∀ b ∈ s.ballots.rows, b.proposal = p.proposalId →
    ∀ m ∈ s.roles.db.members.rows, m.pk = b.voter →
      (∃ a, applicationFor s p = .ok a ∧ a.linkedMember = some m.pk) ∨
      memberAllowsRoleFacts m = false ∨
      ∃ rule ∈ s.rules.rows, p.electorateRuleVersion = some rule.ruleVersionId ∧
        validateSelectorNode s.roles.db 0 rule.selectorConfig = .ok ()

theorem excludedBy_eq {p : ApprovalProposal} {a : MemberApplication}
    (htype : p.proposalType = .memberApplication) (h : applicationFor s p = .ok a) :
    excludedBy s p = .ok a.linkedMember := by
  simp only [excludedBy, htype, proposalAdapterFor, ok_bind, memberAdmissionAdapter,
    excludedMemberId, h]
  rfl

theorem lastChoice_isSome {proposalId : String} {v : Nat} :
    (lastChoice (votesOf s proposalId) v).isSome ↔
      ∃ b ∈ s.ballots.rows, b.proposal = proposalId ∧ b.voter = v := by
  rw [lastChoice_votesOf, Option.isSome_map, RevisionLog.last?_isSome]
  simp [ballotLog, and_assoc]

/-- The eligibility of an elector can be decided exactly when the rule can be evaluated. -/
theorem eligibilityOf_decided {now : Nat} {p : ApprovalProposal} {rule : ElectorateRuleVersion}
    {excluded : Option Nat} {m : Member} (hopening : Opening s p rule)
    (hm : m ∈ s.roles.db.members.rows)
    (hsnapshot : ∃ r ∈ s.snapshots.rows, r.proposal = p.proposalId ∧ r.member = m.pk) :
    (∃ a, eligibilityOf s now p excluded m.pk = .ok a) ↔
      ∃ e, evaluateRuleForMember s.roles.db now rule.selectorConfig m none excluded = .ok e := by
  have hrow : memberRow s m.pk = .ok m := by
    rw [memberRow, Table.get?_eq_some.2 ⟨hm, rfl⟩]
  have hany : (s.snapshots.rows.any fun r => r.proposal = p.proposalId && r.member = m.pk) = true := by
    simpa using hsnapshot
  have hrule : electorateEligibilityForProposal s now p m excluded =
      evaluateRuleForMember s.roles.db now rule.selectorConfig m none excluded := by
    simp only [electorateEligibilityForProposal, hopening.ruleRow.2, hany, Bool.not_true,
      Bool.false_eq_true, if_false, Table.get?_eq_some.2 ⟨hopening.ruleRow.1, rfl⟩]
  rw [eligibilityOf, hrow, ok_bind, hrule]
  constructor
  · rintro ⟨a, ha⟩
    obtain ⟨e, he, -⟩ := bind_eq_ok.1 ha
    exact ⟨e, he⟩
  · rintro ⟨e, he⟩
    exact ⟨_, bind_eq_ok.2 ⟨e, he, rfl⟩⟩

theorem votersDecidable_iff {now : Nat} {p : ApprovalProposal} {rule : ElectorateRuleVersion}
    {a : MemberApplication} (hready : VoteReady s) (hopening : Opening s p rule)
    (happlication : applicationFor s p = .ok a) :
    (∀ v, (lastChoice (votesOf s p.proposalId) v).isSome →
      ∃ allowed, eligibilityOf s now p a.linkedMember v = .ok allowed) ↔ VotersDecidable s p := by
  have hvoter : ∀ b ∈ s.ballots.rows, b.proposal = p.proposalId → ∀ m ∈ s.roles.db.members.rows,
      m.pk = b.voter → ((∃ allowed, eligibilityOf s now p a.linkedMember b.voter = .ok allowed) ↔
        a.linkedMember = some m.pk ∨ memberAllowsRoleFacts m = false ∨
          validateSelectorNode s.roles.db 0 rule.selectorConfig = .ok ()) := by
    intro b hb hproposal m hm hpk
    obtain ⟨r, hr, hrproposal, hrvoter⟩ := hready.voters b hb
    rw [← hpk, eligibilityOf_decided hopening hm
      ⟨r, hr, hrproposal.trans hproposal, hrvoter.trans hpk.symm⟩, evaluateRuleForMember_decided]
  constructor
  · intro h b hb hproposal m hm hpk
    rcases (hvoter b hb hproposal m hm hpk).1 (h b.voter (lastChoice_isSome.2
      ⟨b, hb, hproposal, rfl⟩)) with hlinked | hinactive | hvalid
    · exact .inl ⟨a, happlication, hlinked⟩
    · exact .inr (.inl hinactive)
    · exact .inr (.inr ⟨rule, hopening.ruleRow.1, hopening.ruleRow.2, hvalid⟩)
  · intro h v hv
    obtain ⟨b, hb, hproposal, rfl⟩ := lastChoice_isSome.1 hv
    obtain ⟨r, hr, -, hrvoter⟩ := hready.voters b hb
    obtain ⟨m, hm, hpk⟩ := hready.electors r hr
    have hmvoter := hpk.trans hrvoter
    refine (hvoter b hb hproposal m hm hmvoter).2 ?_
    rcases h b hb hproposal m hm hmvoter with ⟨a', ha', hlinked⟩ | hinactive | hvalid
    · obtain rfl := Except.ok.inj (happlication.symm.trans ha')
      exact .inl hlinked
    · exact .inr (.inl hinactive)
    · obtain ⟨rule', hrule', hid, hvalid⟩ := hvalid
      have hsame : rule'.ruleVersionId = rule.ruleVersionId :=
        Option.some.inj (hid.symm.trans hopening.ruleRow.2)
      obtain rfl := s.rules.eq_of_pk hrule' hopening.ruleRow.1 hsame
      exact .inr (.inr hvalid)

/-! ## Closing -/

/-- The count does not depend on what a resolution writes. -/
theorem Counted.kept {now : Nat} {p : ApprovalProposal} {rule : ElectorateRuleVersion}
    {tally : ProposalTally} (h : Counted s now p tally) (hopening : Opening s p rule)
    (hkept : Kept s s') (hdb : s'.roles.db = s.roles.db) (hrules : s'.rules = s.rules)
    (hsnapshots : s'.snapshots = s.snapshots) (hballots : s'.ballots = s.ballots) :
    Counted s' now p tally := by
  obtain ⟨a, ha⟩ := hopening.application
  obtain ⟨a', ha', hlinked⟩ := applicationFor_kept hkept ha
  obtain ⟨excluded, hexcluded, hdecided, rfl⟩ := h
  rw [excludedBy_eq hopening.proposalType ha] at hexcluded
  obtain rfl := Except.ok.inj hexcluded
  have hvotes : votesOf s' p.proposalId = votesOf s p.proposalId := by
    rw [votesOf, ballotLog, hballots, votesOf, ballotLog]
  have helectors : electorsOf s' p.proposalId = electorsOf s p.proposalId := by
    rw [electorsOf, snapshotsOf, hsnapshots, electorsOf, snapshotsOf]
  have heligibility : eligibilityOf s' now p a.linkedMember =
      eligibilityOf s now p a.linkedMember := by
    funext v
    simp only [eligibilityOf, memberRow, hdb, electorateEligibility_congr hdb hrules hsnapshots]
  refine ⟨a.linkedMember, ?_, ?_, ?_⟩
  · rw [excludedBy_eq hopening.proposalType ha', hlinked]
  · rw [hvotes, heligibility]
    exact hdecided
  · rw [helectors, hvotes]
    unfold isEligible
    rw [heligibility]

/-- The count does not read the status. -/
theorem Counted.resolved {now : Nat} {p : ApprovalProposal} {rule : ElectorateRuleVersion}
    {tally : ProposalTally} (h : Counted s now p tally) (hopening : Opening s p rule)
    (status : ProposalStatus) (resolvedAt : Option Nat) :
    Counted s now { p with status := status, resolvedAt := resolvedAt } tally := by
  obtain ⟨a, ha⟩ := hopening.application
  obtain ⟨excluded, hexcluded, hdecided, htally⟩ := h
  rw [excludedBy_eq hopening.proposalType ha] at hexcluded
  obtain rfl := Except.ok.inj hexcluded
  exact ⟨a.linkedMember, excludedBy_eq hopening.proposalType ha, hdecided, htally⟩

/-- Recording the outcome of an open vote succeeds. -/
theorem recordResolution_of_counted {p : ApprovalProposal} {rule : ElectorateRuleVersion}
    {tally : ProposalTally} {outcome : Outcome} {reasonCode : String} {atTime : Nat}
    {actor : Member} (hnumbered : RevisionsNumbered s) (hready : VoteReady s)
    (hopening : Opening s p rule) (hmem : p ∈ s.proposals.rows)
    (hfresh : ∀ r ∈ s.resolutions.rows, r.proposal ≠ p.proposalId)
    (hcounted : Counted s atTime p tally) :
    ∃ s', recordResolution s p tally outcome reasonCode atTime actor =
        .ok (s', { p with status := outcome.status, resolvedAt := some atTime }) ∧
      { p with status := outcome.status, resolvedAt := some atTime } ∈ s'.proposals.rows := by
  let q : ApprovalProposal := { p with status := outcome.status, resolvedAt := some atTime }
  let resolution : ProposalResolution := ⟨p.proposalId, outcome, reasonCode,
    resolutionEvidence p tally, some actor.pk, atTime⟩
  obtain ⟨resolutions, hinsert, hrows⟩ : ∃ resolutions, s.resolutions.insert resolution
      Error.integrity = .ok resolutions ∧ resolutions.rows = s.resolutions.rows ++ [resolution] :=
    Table.insert_of_fresh hfresh fun a ha => by cases ha
  let s₁ : ProposalState rt := saveProposal { s with resolutions := resolutions } q
  have hkept₁ : Kept s s₁ := .of_same rfl rfl rfl
  have hopening₁ : Opening s₁ q rule :=
    ⟨hopening.proposalType, hopening.ruleRow, hopening.application, hopening.submitter⟩
  have hget : s₁.resolutions.get? q.proposalId = some resolution :=
    Table.get?_eq_some.2 ⟨hrows ▸ List.mem_append_right _ (List.mem_singleton_self _), rfl⟩
  obtain ⟨s₂, hcallback⟩ : ∃ s₂, syncMemberApplicationResolution s₁ q actor.pk = .ok s₂ := by
    obtain ⟨a, ha⟩ := hopening₁.application
    unfold syncMemberApplicationResolution
    simp only [hget]
    split
    · exact ⟨_, rfl⟩
    · exact ⟨_, bind_eq_ok.2 ⟨a, ha, rfl⟩⟩
  obtain ⟨hs₂, hkept₂⟩ := syncMemberApplicationResolution_ok hcallback
  have hcounted₂ : Counted s₂ atTime q tally := by
    refine Counted.resolved ?_ (hopening.kept (hkept₁.trans hkept₂)) _ _
    refine hcounted.kept hopening (hkept₁.trans hkept₂) ?_ ?_ ?_ ?_ <;> rw [hs₂] <;> rfl
  have hnumbered₂ : RevisionsNumbered s₂ := by
    intro proposalId
    have hlog : ballotLog s₂ proposalId = ballotLog s proposalId := by
      rw [hs₂]
      rfl
    rw [hlog]
    exact hnumbered proposalId
  have haction : ¬ blank outcome.value := by
    cases outcome <;> decide
  obtain ⟨s₃, hevent⟩ := @appendProposalEvent_of_tally rt s₂ atTime q tally rule
    outcome.eventType outcome.value actor (hopening₁.kept hkept₂)
    ((hkept₁.trans hkept₂).linked hready.linked) ((proposalTally_iff hnumbered₂).2 hcounted₂) haction
  have hadapter : proposalAdapterFor q.proposalType =
      .ok (memberAdmissionAdapter : ProposalTypeAdapter rt) := by
    have htype : q.proposalType = .memberApplication := hopening.proposalType
    rw [htype, proposalAdapterFor]
  refine ⟨s₃, ?_, ?_⟩
  · exact bind_eq_ok.2 ⟨resolutions, hinsert, bind_eq_ok.2 ⟨_, hadapter,
      bind_eq_ok.2 ⟨s₂, hcallback, bind_eq_ok.2 ⟨s₃, hevent, rfl⟩⟩⟩⟩
  · have hreplaces : Replaces { s with resolutions := resolutions } s₁ q :=
      saveProposal_replaces hmem rfl
    rw [(appendProposalEvent_sameVotes hevent).proposals, hs₂]
    exact (hreplaces q).2 (.inl rfl)

/-- Finalising ends the vote as its frozen parameters and the ballots say. -/
def Closes (env : ProposalEnv) (s : ProposalState rt) (p : ApprovalProposal) (actor : Member) :
    Prop :=
  ∃ s' q tally outcome reasonCode,
    finalizeElectorateProposal env s p.proposalId actor = .ok (s', q) ∧ q ∈ s'.proposals.rows ∧
    Counted s env.now p tally ∧
    resolutionOutcome p tally env.now = some (outcome, reasonCode) ∧
    q = { p with status := outcome.status, resolvedAt := some env.now }

/-- After the deadline there is an outcome. -/
theorem resolutionOutcome_of_deadline {p : ApprovalProposal} {deadline now : Nat}
    (hdeadline : p.votingDeadline = some deadline) (hpassed : deadline ≤ now)
    (tally : ProposalTally) :
    ∃ outcome reasonCode, resolutionOutcome p tally now = some (outcome, reasonCode) := by
  have hany : (p.votingDeadline.any fun deadline => deadline ≤ now) = true := by
    simpa [hdeadline] using hpassed
  simp only [resolutionOutcome, hany]
  split
  · exact ⟨_, _, rfl⟩
  · split
    · exact ⟨_, _, rfl⟩
    · rw [if_pos trivial]
      split
      · exact ⟨_, _, rfl⟩
      · exact ⟨_, _, rfl⟩

/-- **Closing.** In every state of every run, a vote past its deadline can be finalised by an actor
with the permission exactly when every member who voted can still be decided on. -/
theorem finalize_closes_iff {s₀ : ProposalState rt} (h₀ : NoElectorate s₀)
    (hlinked : ∀ a ∈ s₀.applications.rows, Linked s₀ a) (steps : List (ProposalStep rt))
    {p : ApprovalProposal} (hmem : p ∈ (runCalls proposalStep s₀ steps).proposals.rows)
    (hvoting : p.status = .voting) {deadline : Nat} (hdeadline : p.votingDeadline = some deadline)
    (hpassed : deadline ≤ env.now) {actor : Member}
    (hactor : legacyMemberHasPermission (runCalls proposalStep s₀ steps).roles.db env.now actor
      "governance.resolve_proposals" none = true) :
    Closes env (runCalls proposalStep s₀ steps) p actor ↔
      VotersDecidable (runCalls proposalStep s₀ steps) p := by
  have hsound := run_sound h₀.sound steps
  have hready := run_voteReady (h₀.voteReady hlinked) steps
  have hnumbered := run_revisionsNumbered h₀.revisionsNumbered steps
  generalize runCalls proposalStep s₀ steps = s at *
  obtain ⟨rule, hopening⟩ := hready.opened p hmem hvoting
  obtain ⟨a, happlication⟩ := hopening.application
  have hexcluded := excludedBy_eq hopening.proposalType happlication
  constructor
  · rintro ⟨s', q, tally, outcome, reasonCode, -, -, hcounted, -⟩
    obtain ⟨excluded, hexcluded', hdecided, -⟩ := hcounted
    obtain rfl := Except.ok.inj (hexcluded.symm.trans hexcluded')
    exact (votersDecidable_iff hready hopening happlication).1 hdecided
  · intro hdecidable
    have hcounted : Counted s env.now p (tallyOf (electorsOf s p.proposalId)
        (isEligible s env.now p a.linkedMember) (lastChoice (votesOf s p.proposalId))) :=
      ⟨a.linkedMember, hexcluded, (votersDecidable_iff hready hopening happlication).2 hdecidable,
        rfl⟩
    generalize tallyOf _ _ _ = tally at hcounted
    obtain ⟨outcome, reasonCode, houtcome⟩ := resolutionOutcome_of_deadline hdeadline hpassed tally
    have hfresh : ∀ r ∈ s.resolutions.rows, r.proposal ≠ p.proposalId := by
      have hrow := hsound.rows p hmem
      refine hrow.no_resolution (hrow.strategy ?_) ?_ <;> rw [hvoting]
      · simp [ProposalStatus.OfSlots]
      · simp [ProposalStatus.Resolved]
    obtain ⟨s', hrecord, hmem'⟩ := @recordResolution_of_counted rt s p rule tally outcome
      reasonCode env.now actor hnumbered hready hopening hmem hfresh hcounted
    refine ⟨s', _, tally, outcome, reasonCode, ?_, hmem', hcounted, houtcome, rfl⟩
    have hlock : lockProposal s p.proposalId = .ok p := by
      rw [lockProposal, Table.get?_eq_some.2 ⟨hmem, rfl⟩]
    have hadapter : proposalAdapterFor p.proposalType =
        .ok (memberAdmissionAdapter : ProposalTypeAdapter rt) := by
      rw [hopening.proposalType, proposalAdapterFor]
    have hpermission : requirePermission s env.now actor
        (memberAdmissionAdapter : ProposalTypeAdapter rt).resolutionPermission
        "你无权完成该提案的截止判定。" = .ok () := by
      simp only [requirePermission, memberAdmissionAdapter, hactor]
      rfl
    refine bind_eq_ok.2 ⟨p, hlock, bind_eq_ok.2 ⟨_, hadapter, bind_eq_ok.2 ⟨(), hpermission, ?_⟩⟩⟩
    rw [if_neg (not_not.2 hvoting)]
    refine rejectIf_bind_eq_ok.2 ⟨?_, ?_⟩
    · simpa [hdeadline] using hpassed
    · refine bind_eq_ok.2 ⟨tally, (proposalTally_iff hnumbered).2 hcounted, ?_⟩
      rw [houtcome]
      exact hrecord

/-! ## An archived domain -/

def registrar : Member := ⟨34, "m-34", none, "", .active, []⟩

/-- The registrar is a covenanter who may resolve proposals. -/
def registrarTerms : List RoleAssignment := [
  ⟨64, 34, 62, .active, 0, days 365, none, none, .direct⟩,
  ⟨65, 34, 63, .active, 0, days 365, none, none, .direct⟩]

def registryDirectory (law : DomainStatus) : Directory where
  members := ⟨[newcomer, neighbour, registrar], by decide, by decide⟩
  organizations := ⟨[⟨61, roleCatalogOrganizationName, some roleCatalogOrganizationKey, .active⟩],
    List.nodup_singleton _, List.nodup_singleton _⟩
  roles := ⟨[⟨62, 61, roleCovenanter, "", .active⟩, ⟨63, 60, "登记", "", .active⟩], by decide,
    by decide⟩
  assignments := ⟨registrarTerms, by decide, List.nodup_nil⟩
  rolePermissions := [⟨63, "governance.resolve_proposals"⟩]
  domains := ⟨[⟨66, "law", law⟩], List.nodup_singleton _, List.nodup_singleton _⟩
  qualifications := Table.empty

/-- Contributors and lawyers decide. -/
def lawRule : ElectorateRuleVersion where
  ruleVersionId := "rule-version-2"
  template := ⟨"member-admission", "member_application", "成员准入"⟩
  version := 2
  selectorConfig := .obj [("any", .arr [.obj [("participation_status", .str "contributor")],
    .obj [("professional_domain", .str "law")]])]
  approveThreshold := 1
  rejectThreshold := 1
  minimumParticipation := 1
  votingDurationHours := 24
  unresolvedOutcome := .expired
  validated := ⟨registryDirectory .active, rfl⟩
  positive := contributorRule.positive

def registryRoles (law : DomainStatus) : RoleState textRuntime :=
  ⟨registryDirectory law, Table.empty, Table.empty, Journal.empty⟩

def registryState : ProposalState textRuntime :=
  { villageState with
    roles := registryRoles .active
    rules := ⟨[lawRule], List.nodup_singleton _, List.nodup_singleton _⟩ }

/-- The contributor abstains, and then the domain gets a status. -/
def registryVote (law : DomainStatus) : List (ProposalStep textRuntime) := [
  .call (envAt 1 "a") (.create { admissionArgs with ruleVersion := some lawRule }),
  .call (envAt 2 "b") (.start "proposal-a"),
  .call (envAt 3 "c") (.cast "proposal-a" neighbour "abstain" ""),
  .change (registryRoles law)]

theorem registryState_noElectorate : NoElectorate registryState :=
  ⟨fun _ hp => absurd hp List.not_mem_nil, rfl, rfl, rfl, rfl⟩

theorem registryState_linked : ∀ a ∈ registryState.applications.rows, Linked registryState a := by
  intro a ha
  obtain rfl := List.mem_singleton.1 ha
  intro k hk
  exact ⟨newcomer, List.mem_cons_self, Option.some.inj hk⟩

/-- The moment the vote ends. -/
def votingEnd : Nat := 2 + hours 24

/-- Once the domain is archived the vote cannot be closed. -/
theorem archivedDomain_notClosed : NoElectorate registryState ∧
    (∀ a ∈ registryState.applications.rows, Linked registryState a) ∧
    ∃ p ∈ (runCalls proposalStep registryState (registryVote .archived)).proposals.rows,
      p.status = .voting ∧ p.votingDeadline = some votingEnd ∧
      legacyMemberHasPermission (runCalls proposalStep registryState
        (registryVote .archived)).roles.db votingEnd registrar "governance.resolve_proposals"
        none = true ∧
      ¬ Closes (envAt votingEnd "d") (runCalls proposalStep registryState
        (registryVote .archived)) p registrar := by
  refine ⟨registryState_noElectorate, registryState_linked, ?_⟩
  obtain ⟨p, hmem, hvoting, hdeadline, hactor, hraises⟩ :
      ∃ p ∈ (runCalls proposalStep registryState (registryVote .archived)).proposals.rows,
        p.status = .voting ∧ p.votingDeadline = some votingEnd ∧
        legacyMemberHasPermission (runCalls proposalStep registryState
          (registryVote .archived)).roles.db votingEnd registrar "governance.resolve_proposals"
          none = true ∧
        (finalizeElectorateProposal (envAt votingEnd "d") (runCalls proposalStep registryState
          (registryVote .archived)) p.proposalId registrar).toOption.isNone = true := by
    decide +kernel
  refine ⟨p, hmem, hvoting, hdeadline, hactor, ?_⟩
  rintro ⟨s', q, tally, outcome, reasonCode, hok, -⟩
  rw [hok] at hraises
  cases hraises

/-- While the domain is active the vote expires. -/
theorem activeDomain_closed :
    ∃ p ∈ (runCalls proposalStep registryState (registryVote .active)).proposals.rows,
      Closes (envAt votingEnd "d") (runCalls proposalStep registryState (registryVote .active)) p
        registrar := by
  obtain ⟨p, hmem, hvoting, hdeadline, hactor, rule, hrule, hid, hvalid⟩ :
      ∃ p ∈ (runCalls proposalStep registryState (registryVote .active)).proposals.rows,
        p.status = .voting ∧ p.votingDeadline = some votingEnd ∧
        legacyMemberHasPermission (runCalls proposalStep registryState
          (registryVote .active)).roles.db votingEnd registrar "governance.resolve_proposals"
          none = true ∧
        ∃ rule ∈ (runCalls proposalStep registryState (registryVote .active)).rules.rows,
          p.electorateRuleVersion = some rule.ruleVersionId ∧
          (validateSelectorNode (runCalls proposalStep registryState
            (registryVote .active)).roles.db 0 rule.selectorConfig).isOk = true := by
    decide +kernel
  have hpassed : votingEnd ≤ (envAt votingEnd "d").now := Nat.le_refl votingEnd
  refine ⟨p, hmem, ?_⟩
  refine (finalize_closes_iff registryState_noElectorate registryState_linked
    (registryVote .active) hmem hvoting hdeadline hpassed hactor).2 ?_
  intro b _ _ m _ _
  refine .inr (.inr ⟨rule, hrule, hid, ?_⟩)
  cases hresult : validateSelectorNode (runCalls proposalStep registryState
      (registryVote .active)).roles.db 0 rule.selectorConfig with
  | ok u => rfl
  | error e =>
    rw [hresult] at hvalid
    cases hvalid

end LiveOs.Proposals
