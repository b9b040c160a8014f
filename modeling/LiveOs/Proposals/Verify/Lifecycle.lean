import LiveOs.Proposals.Verify.Services

/-!
# The life cycle of electorate proposals

A proposal has a resolution exactly when its status says so, the resolution is justified by its own
evidence, and what was frozen when the vote opened never changes.
-/

namespace LiveOs.Proposals

open Lib EventLedger Roles

variable {rt : Runtime} {s s' : ProposalState rt}

/-! ## Statuses -/

/-- The statuses of a proposal with a resolution. -/
def ProposalStatus.Resolved (s : ProposalStatus) : Prop :=
  s = .approved ∨ s = .rejected ∨ s = .expired ∨ s = .executed ∨ s = .executionFailed

/-- The statuses that nothing leaves. -/
def ProposalStatus.Terminal (s : ProposalStatus) : Prop :=
  s = .rejected ∨ s = .expired ∨ s = .executed

/-- The statuses of proposals that are decided by approval slots. -/
def ProposalStatus.OfSlots (s : ProposalStatus) : Prop :=
  s = .submitted ∨ s = .approved ∨ s = .rejected ∨ s = .executed

/-- The outcome is the one that led to the status. -/
def Outcome.Fits : Outcome → ProposalStatus → Prop
  | .approved, s => s = .approved ∨ s = .executed ∨ s = .executionFailed
  | .rejected, s => s = .rejected
  | .expired, s => s = .expired

theorem ProposalStatus.Waiting.not_resolved {st : ProposalStatus} (h : st.Waiting) :
    ¬ st.Resolved := by
  rcases h with rfl | rfl <;> simp [ProposalStatus.Resolved]

theorem ProposalStatus.Waiting.not_ofSlots {st : ProposalStatus} (h : st.Waiting) :
    ¬ st.OfSlots := by
  rcases h with rfl | rfl <;> simp [ProposalStatus.OfSlots]

theorem Outcome.status_fits (o : Outcome) : o.Fits o.status := by
  cases o with
  | approved => exact .inl rfl
  | rejected => rfl
  | expired => rfl

theorem Outcome.status_resolved (o : Outcome) : o.status.Resolved := by
  cases o <;> simp [Outcome.status, ProposalStatus.Resolved]

theorem Outcome.status_not_waiting (o : Outcome) : ¬ o.status.Waiting := by
  cases o <;> simp [Outcome.status, ProposalStatus.Waiting]

/-! ## Evidence -/

/-- The parameters frozen when a vote opens. -/
structure Frozen (p : ApprovalProposal) (minimum approve reject deadline : Nat) : Prop where
  minimumParticipation : p.frozenMinimumParticipation = some minimum
  approveThreshold : p.frozenApproveThreshold = some approve
  rejectThreshold : p.frozenRejectThreshold = some reject
  votingDeadline : p.votingDeadline = some deadline
  positive : 1 ≤ approve ∧ 1 ≤ reject

/-- The evidence of a resolution justifies its outcome. -/
inductive Justified (minimum approve reject deadline : Nat) (r : ProposalResolution) : Prop
  | approved (outcome : r.outcome = .approved)
    (reason : r.reasonCode = "approve_threshold_reached")
    (participation : minimum ≤ r.evidence.participationCount)
    (threshold : approve ≤ r.evidence.approveCount)
  | rejected (outcome : r.outcome = .rejected)
    (reason : r.reasonCode = "reject_threshold_reached")
    (participation : minimum ≤ r.evidence.participationCount)
    (threshold : reject ≤ r.evidence.rejectCount) (notApproved : r.evidence.approveCount < approve)
  | deadline (outcome : r.outcome ≠ .approved)
    (reason : r.reasonCode = "deadline_unresolved_rejected" ∨
      r.reasonCode = "deadline_unresolved_expired")
    (passed : deadline ≤ r.decidedAt)
    (undecided : r.evidence.participationCount < minimum ∨
      r.evidence.approveCount < approve ∧ r.evidence.rejectCount < reject)

/-- The resolution fits the status of the proposal and is justified by the frozen parameters, which
its evidence repeats. -/
structure Evidenced (p : ApprovalProposal) (r : ProposalResolution) : Prop where
  fits : r.outcome.Fits p.status
  justified : ∃ minimum approve reject deadline, Frozen p minimum approve reject deadline ∧
    r.evidence.minimumParticipation = some minimum ∧ r.evidence.approveThreshold = some approve ∧
    r.evidence.rejectThreshold = some reject ∧ Justified minimum approve reject deadline r

theorem resolutionOutcome_justified {p : ApprovalProposal} {tally : ProposalTally}
    {minimum approve reject deadline atTime actor : Nat} {outcome : Outcome} {reasonCode : String}
    (hfrozen : Frozen p minimum approve reject deadline)
    (h : resolutionOutcome p tally atTime = some (outcome, reasonCode)) :
    Justified minimum approve reject deadline ⟨p.proposalId, outcome, reasonCode,
      resolutionEvidence p tally, some actor, atTime⟩ := by
  have happrove : max 1 (p.frozenApproveThreshold.getD 1) = approve := by
    rw [hfrozen.approveThreshold]
    exact max_eq_right hfrozen.positive.1
  have hreject : max 1 (p.frozenRejectThreshold.getD 1) = reject := by
    rw [hfrozen.rejectThreshold]
    exact max_eq_right hfrozen.positive.2
  have hminimum : p.frozenMinimumParticipation.getD 0 = minimum := by
    rw [hfrozen.minimumParticipation]
    rfl
  simp only [resolutionOutcome, happrove, hreject, hminimum] at h
  split at h
  · rename_i hreached
    obtain ⟨rfl, rfl⟩ := Prod.mk.inj (Option.some.inj h)
    exact .approved rfl rfl hreached.1 hreached.2
  · rename_i hnot
    split at h
    · rename_i hreached
      obtain ⟨rfl, rfl⟩ := Prod.mk.inj (Option.some.inj h)
      refine .rejected rfl rfl hreached.1 hreached.2 ?_
      rw [not_and, not_le] at hnot
      exact hnot hreached.1
    · rename_i hnot'
      have hundecided : tally.participationCount < minimum ∨
          tally.approveCount < approve ∧ tally.rejectCount < reject := by omega
      split at h
      · rename_i hdeadline
        rw [hfrozen.votingDeadline] at hdeadline
        have hpassed : deadline ≤ atTime := by simpa using hdeadline
        split at h
        · obtain ⟨rfl, rfl⟩ := Prod.mk.inj (Option.some.inj h)
          exact .deadline (by simp) (.inl rfl) hpassed hundecided
        · obtain ⟨rfl, rfl⟩ := Prod.mk.inj (Option.some.inj h)
          exact .deadline (by simp) (.inr rfl) hpassed hundecided
      · cases h

/-! ## The invariant -/

/-- The facts about one proposal row, with the resolutions of the state. -/
structure SoundRow (resolutions : List ProposalResolution) (p : ApprovalProposal) : Prop where
  slots : p.strategyType ≠ .electorate → p.status.OfSlots
  electorate : p.strategyType = .electorate → p.status ≠ .submitted ∧ p.status ≠ .cancelled
  resolved : p.strategyType = .electorate →
    (p.status.Resolved ↔ ∃ r ∈ resolutions, r.proposal = p.proposalId)
  evidence : ∀ r ∈ resolutions, r.proposal = p.proposalId → Evidenced p r
  frozen : p.strategyType = .electorate → ¬ p.status.Waiting →
    ∃ minimum approve reject deadline, Frozen p minimum approve reject deadline

structure Sound (s : ProposalState rt) : Prop where
  rows : ∀ p ∈ s.proposals.rows, SoundRow s.resolutions.rows p
  resolutionOf : ∀ r ∈ s.resolutions.rows, ∃ p ∈ s.proposals.rows, p.proposalId = r.proposal
  snapshotOf : ∀ r ∈ s.snapshots.rows, ∃ p ∈ s.proposals.rows,
    p.proposalId = r.proposal ∧ ¬ p.status.Waiting

/-- Resolutions of other proposals do not matter. -/
theorem SoundRow.append {resolutions new : List ProposalResolution} {p : ApprovalProposal}
    (h : SoundRow resolutions p) (hnew : ∀ r ∈ new, r.proposal ≠ p.proposalId) :
    SoundRow (resolutions ++ new) p := by
  refine ⟨h.slots, h.electorate, fun hstrategy => ?_, fun r hr hid => ?_, h.frozen⟩
  · rw [h.resolved hstrategy]
    constructor
    · rintro ⟨r, hr, hid⟩
      exact ⟨r, List.mem_append_left _ hr, hid⟩
    · rintro ⟨r, hr, hid⟩
      rcases List.mem_append.1 hr with hr | hr
      · exact ⟨r, hr, hid⟩
      · exact absurd hid (hnew r hr)
  · rcases List.mem_append.1 hr with hr | hr
    · exact h.evidence r hr hid
    · exact absurd hid (hnew r hr)

/-- The row of one proposal is replaced, and only its own records are added. -/
theorem Sound.replace {p q : ApprovalProposal} (h : Sound s)
    (newResolutions : List ProposalResolution) (newSnapshots : List ProposalElectorSnapshot)
    (hmem : p ∈ s.proposals.rows)
    (hreplaces : Replaces s s' q) (hid : q.proposalId = p.proposalId)
    (hresolutions : s'.resolutions.rows = s.resolutions.rows ++ newResolutions)
    (hownResolutions : ∀ r ∈ newResolutions, r.proposal = p.proposalId)
    (hsnapshots : s'.snapshots.rows = s.snapshots.rows ++ newSnapshots)
    (hownSnapshots : ∀ r ∈ newSnapshots, r.proposal = p.proposalId ∧ ¬ q.status.Waiting)
    (hwaiting : ¬ p.status.Waiting → ¬ q.status.Waiting) (hq : SoundRow s'.resolutions.rows q) :
    Sound s' := by
  have hqmem : q ∈ s'.proposals.rows := (hreplaces q).2 (.inl rfl)
  -- a row of the old state has a row with its id in the new one
  have hkeep : ∀ t ∈ s.proposals.rows, ∃ t' ∈ s'.proposals.rows, t'.proposalId = t.proposalId ∧
      (¬ t.status.Waiting → ¬ t'.status.Waiting) := by
    intro t ht
    by_cases htid : t.proposalId = q.proposalId
    · obtain rfl := s.proposals.eq_of_pk ht hmem (htid.trans hid)
      exact ⟨q, hqmem, hid, hwaiting⟩
    · exact ⟨t, (hreplaces t).2 (.inr ⟨ht, htid⟩), rfl, id⟩
  refine ⟨fun t ht => ?_, fun r hr => ?_, fun r hr => ?_⟩
  · rcases (hreplaces t).1 ht with rfl | ⟨ht, htid⟩
    · exact hq
    · rw [hresolutions]
      refine (h.rows t ht).append fun r hr heq => htid ?_
      rw [← heq, hownResolutions r hr, hid]
  · rw [hresolutions] at hr
    rcases List.mem_append.1 hr with hr | hr
    · obtain ⟨t, ht, htid⟩ := h.resolutionOf r hr
      obtain ⟨t', ht', htid', -⟩ := hkeep t ht
      exact ⟨t', ht', htid'.trans htid⟩
    · exact ⟨q, hqmem, hid.trans (hownResolutions r hr).symm⟩
  · rw [hsnapshots] at hr
    rcases List.mem_append.1 hr with hr | hr
    · obtain ⟨t, ht, htid, hnot⟩ := h.snapshotOf r hr
      obtain ⟨t', ht', htid', hnot'⟩ := hkeep t ht
      exact ⟨t', ht', htid'.trans htid, hnot' hnot⟩
    · obtain ⟨hown, hnot⟩ := hownSnapshots r hr
      exact ⟨q, hqmem, hid.trans hown.symm, hnot⟩

/-- A proposal that is not resolved has no resolution. -/
theorem SoundRow.no_resolution {resolutions : List ProposalResolution} {p : ApprovalProposal}
    (h : SoundRow resolutions p) (hstrategy : p.strategyType = .electorate)
    (hst : ¬ p.status.Resolved) : ∀ r ∈ resolutions, r.proposal ≠ p.proposalId := by
  intro r hr hid
  exact hst ((h.resolved hstrategy).2 ⟨r, hr, hid⟩)

/-- Only electorate proposals wait for a vote or are voted on. -/
theorem SoundRow.strategy {resolutions : List ProposalResolution} {p : ApprovalProposal}
    (h : SoundRow resolutions p) (hst : ¬ p.status.OfSlots) : p.strategyType = .electorate := by
  by_contra hne
  exact hst (h.slots hne)

/-- What the rule freezes. -/
theorem openVoting_frozen (p : ApprovalProposal) (rule : ElectorateRuleVersion) (now : Nat) :
    Frozen (openVoting p rule now) rule.minimumParticipation rule.approveThreshold
      rule.rejectThreshold (now + hours rule.votingDurationHours) :=
  ⟨rfl, rfl, rfl, rfl, rule.positive.1, rule.positive.2.1⟩

theorem Move.sound {may : String → Prop} (h : Sound s) (hmove : Move may s s') : Sound s' := by
  cases hmove with
  | idle hproposals hsnapshots hballots hresolutions hexecutions =>
    refine ⟨?_, ?_, ?_⟩
    · rw [hproposals, hresolutions]
      exact h.rows
    · rw [hproposals, hresolutions]
      exact h.resolutionOf
    · rw [hproposals, hsnapshots]
      exact h.snapshotOf
  | created p hfresh hproposals hstrategy hwaiting hsnapshots hballots hresolutions hexecutions =>
    have hnone : ∀ r ∈ s.resolutions.rows, r.proposal ≠ p.proposalId := by
      intro r hr heq
      obtain ⟨q, hq, hqid⟩ := h.resolutionOf r hr
      exact hfresh q hq (hqid.trans heq)
    refine ⟨fun q hq => ?_, fun r hr => ?_, fun r hr => ?_⟩
    · rw [hproposals] at hq
      rw [hresolutions]
      rcases List.mem_append.1 hq with hq | hq
      · exact h.rows q hq
      · obtain rfl := List.mem_singleton.1 hq
        refine ⟨fun hne => absurd hstrategy hne, fun _ => ?_, fun _ => ?_, fun r hr heq => ?_,
          fun _ hnot => absurd hwaiting hnot⟩
        · rcases hwaiting with hst | hst <;> rw [hst] <;> simp
        · exact ⟨fun hst => absurd hst hwaiting.not_resolved,
            fun ⟨r, hr, heq⟩ => absurd heq (hnone r hr)⟩
        · exact absurd heq (hnone r hr)
    · rw [hresolutions] at hr
      obtain ⟨q, hq, hqid⟩ := h.resolutionOf r hr
      exact ⟨q, hproposals ▸ List.mem_append_left _ hq, hqid⟩
    · rw [hsnapshots] at hr
      obtain ⟨q, hq, hqid⟩ := h.snapshotOf r hr
      exact ⟨q, hproposals ▸ List.mem_append_left _ hq, hqid⟩
  | attached p ruleId hmem hwaiting hproposals hsnapshots hballots hresolutions hexecutions =>
    have hrow := h.rows p hmem
    have hstrategy := hrow.strategy hwaiting.not_ofSlots
    have hnone := hrow.no_resolution hstrategy hwaiting.not_resolved
    have hdraft : ProposalStatus.Waiting .draft := .inl rfl
    refine h.replace [] [] hmem hproposals rfl
      (by rw [hresolutions, List.append_nil]) (fun r hr => absurd hr List.not_mem_nil)
      (by rw [hsnapshots, List.append_nil]) (fun r hr => absurd hr List.not_mem_nil)
      (fun hnot => absurd hwaiting hnot) ?_
    rw [hresolutions]
    refine ⟨fun hne => absurd hstrategy hne, fun _ => by simp, fun _ => ?_,
      fun r hr heq => absurd heq (hnone r hr), fun _ hnot => absurd hdraft hnot⟩
    exact ⟨fun hst => absurd hst hdraft.not_resolved,
      fun ⟨r, hr, heq⟩ => absurd heq (hnone r hr)⟩
  | started p rule now hmem hstrategy hdraft hopening hproposals hsnapshots hballots hresolutions
      hexecutions =>
    have hwaiting : p.status.Waiting := .inl hdraft
    have hnone := (h.rows p hmem).no_resolution hstrategy hwaiting.not_resolved
    obtain ⟨rows, hrows, hown⟩ := hsnapshots
    have hvoting : ¬ ProposalStatus.Waiting .voting := by simp [ProposalStatus.Waiting]
    refine h.replace [] rows hmem hproposals rfl
      (by rw [hresolutions, List.append_nil]) (fun r hr => absurd hr List.not_mem_nil)
      hrows (fun r hr => ⟨(hown r hr).1, hvoting⟩) (fun _ => hvoting) ?_
    rw [hresolutions]
    refine ⟨fun hne => absurd hstrategy hne, fun _ => by simp [openVoting], fun _ => ?_,
      fun r hr heq => absurd heq (hnone r hr),
      fun _ _ => ⟨_, _, _, _, openVoting_frozen p rule now⟩⟩
    exact ⟨fun hst => by simp [openVoting, ProposalStatus.Resolved] at hst,
      fun ⟨r, hr, heq⟩ => absurd heq (hnone r hr)⟩
  | balloted p b hmem hvoting hproposal hrevision hballots hvoter hproposals hsnapshots
      hresolutions hexecutions =>
    refine ⟨?_, ?_, ?_⟩
    · rw [hproposals, hresolutions]
      exact h.rows
    · rw [hproposals, hresolutions]
      exact h.resolutionOf
    · rw [hproposals, hsnapshots]
      exact h.snapshotOf
  | resolved p tally outcome reasonCode atTime actor hmem hvoting houtcome hproposals hresolutions
      hsnapshots hballots hexecutions =>
    have hrow := h.rows p hmem
    have hstrategy : p.strategyType = .electorate :=
      hrow.strategy (by rw [hvoting]; simp [ProposalStatus.OfSlots])
    have hnotWaiting : ¬ p.status.Waiting := by
      rw [hvoting]
      simp [ProposalStatus.Waiting]
    have hnone := hrow.no_resolution hstrategy (by rw [hvoting]; simp [ProposalStatus.Resolved])
    obtain ⟨minimum, approve, reject, deadline, hfrozen⟩ := hrow.frozen hstrategy hnotWaiting
    refine h.replace _ [] hmem hproposals rfl hresolutions
      (fun r hr => by rw [List.mem_singleton.1 hr]) (by rw [hsnapshots, List.append_nil])
      (fun r hr => absurd hr List.not_mem_nil)
      (fun _ => outcome.status_not_waiting) ?_
    rw [hresolutions]
    refine ⟨fun hne => absurd hstrategy hne, fun _ => ?_, fun _ => ?_, fun r hr heq => ?_,
      fun _ _ => ⟨minimum, approve, reject, deadline, ⟨hfrozen.minimumParticipation,
        hfrozen.approveThreshold, hfrozen.rejectThreshold, hfrozen.votingDeadline,
        hfrozen.positive⟩⟩⟩
    · cases outcome <;> simp [Outcome.status]
    · exact ⟨fun _ => ⟨_, List.mem_append_right _ (List.mem_singleton_self _), rfl⟩,
        fun _ => outcome.status_resolved⟩
    · rcases List.mem_append.1 hr with hr | hr
      · exact absurd heq (hnone r hr)
      · obtain rfl := List.mem_singleton.1 hr
        exact ⟨outcome.status_fits, minimum, approve, reject, deadline,
          ⟨hfrozen.minimumParticipation, hfrozen.approveThreshold, hfrozen.rejectThreshold,
            hfrozen.votingDeadline, hfrozen.positive⟩,
          hfrozen.minimumParticipation, hfrozen.approveThreshold, hfrozen.rejectThreshold,
          resolutionOutcome_justified hfrozen houtcome⟩
  | attempted p p' e hmem hstrategy hallowed hexecutable hended hsame hproposals hsnapshots hballots
      hresolutions hproposal hsucceeded hexecutions =>
    have hrow := h.rows p hmem
    rw [hsame] at hrow
    have hid : p'.proposalId = p.proposalId := by rw [hsame]
    have hstrategy' : p'.strategyType = .electorate := by
      rw [hsame] at hstrategy
      exact hstrategy
    have hnotWaiting : ¬ p'.status.Waiting := by
      rcases hended with hst | hst <;> rw [hst] <;> simp [ProposalStatus.Waiting]
    have hresolved : p.status.Resolved := by
      rcases hexecutable with hst | hst <;> rw [hst] <;> simp [ProposalStatus.Resolved]
    have hresolved' : p'.status.Resolved := by
      rcases hended with hst | hst <;> rw [hst] <;> simp [ProposalStatus.Resolved]
    refine h.replace [] [] hmem hproposals hid
      (by rw [hresolutions, List.append_nil]) (fun r hr => absurd hr List.not_mem_nil)
      (by rw [hsnapshots, List.append_nil]) (fun r hr => absurd hr List.not_mem_nil)
      (fun _ => hnotWaiting) ?_
    rw [hresolutions]
    refine ⟨fun hne => absurd hstrategy' hne, fun _ => ?_, fun _ => ?_, fun r hr heq => ?_,
      fun _ _ => ?_⟩
    · rcases hended with hst | hst <;> rw [hst] <;> simp
    · exact ⟨fun _ => (hrow.resolved hstrategy').1 hresolved, fun _ => hresolved'⟩
    · obtain ⟨hfits, minimum, approve, reject, deadline, hfrozen, hevidence⟩ :=
        hrow.evidence r hr heq
      refine ⟨?_, minimum, approve, reject, deadline, ⟨hfrozen.minimumParticipation,
        hfrozen.approveThreshold, hfrozen.rejectThreshold, hfrozen.votingDeadline,
        hfrozen.positive⟩, hevidence⟩
      -- only an approval leaves a proposal executable
      cases houtcome : r.outcome with
      | approved =>
        rcases hended with hst | hst
        · exact .inr (.inl hst)
        · exact .inr (.inr hst)
      | rejected =>
        rw [houtcome] at hfits
        rcases hexecutable with hst | hst <;> exact absurd (hst.symm.trans hfits) (by simp)
      | expired =>
        rw [houtcome] at hfits
        rcases hexecutable with hst | hst <;> exact absurd (hst.symm.trans hfits) (by simp)
    · obtain ⟨minimum, approve, reject, deadline, hfrozen⟩ := hrow.frozen hstrategy' (by
        rcases hexecutable with hst | hst <;> rw [hst] <;> simp [ProposalStatus.Waiting])
      exact ⟨minimum, approve, reject, deadline, ⟨hfrozen.minimumParticipation,
        hfrozen.approveThreshold, hfrozen.rejectThreshold, hfrozen.votingDeadline,
        hfrozen.positive⟩⟩

/-! ## What never changes -/

/-- The elector snapshot of a proposal. -/
def snapshotsOf (s : ProposalState rt) (proposalId : String) : List ProposalElectorSnapshot :=
  s.snapshots.rows.filter fun r => r.proposal = proposalId

/-- The frozen parameters, the deadline and the rule version are the same. -/
structure SameTerms (p p' : ApprovalProposal) : Prop where
  proposalId : p'.proposalId = p.proposalId
  strategy : p'.strategyType = p.strategyType
  approve : p'.frozenApproveThreshold = p.frozenApproveThreshold
  reject : p'.frozenRejectThreshold = p.frozenRejectThreshold
  minimum : p'.frozenMinimumParticipation = p.frozenMinimumParticipation
  unresolved : p'.frozenUnresolvedOutcome = p.frozenUnresolvedOutcome
  startedAt : p'.votingStartedAt = p.votingStartedAt
  deadline : p'.votingDeadline = p.votingDeadline
  ruleVersion : p'.electorateRuleVersion = p.electorateRuleVersion

theorem SameTerms.trans {p₁ p₂ p₃ : ApprovalProposal} (h : SameTerms p₁ p₂)
    (h' : SameTerms p₂ p₃) : SameTerms p₁ p₃ :=
  ⟨h'.proposalId.trans h.proposalId, h'.strategy.trans h.strategy, h'.approve.trans h.approve,
    h'.reject.trans h.reject, h'.minimum.trans h.minimum, h'.unresolved.trans h.unresolved,
    h'.startedAt.trans h.startedAt, h'.deadline.trans h.deadline,
    h'.ruleVersion.trans h.ruleVersion⟩

/-- A proposal whose vote has opened keeps its terms, its electors and its resolution, and a
terminal status stays. -/
structure KeepsTerms (s s' : ProposalState rt) (p p' : ApprovalProposal) : Prop where
  mem : p' ∈ s'.proposals.rows
  terms : SameTerms p p'
  opened : ¬ p'.status.Waiting
  snapshot : snapshotsOf s' p.proposalId = snapshotsOf s p.proposalId
  resolution : ∀ r ∈ s.resolutions.rows, r.proposal = p.proposalId → r ∈ s'.resolutions.rows
  terminal : p.status.Terminal → p'.status = p.status

/-- Every open or closed vote keeps its terms. -/
def TermsKept (s s' : ProposalState rt) : Prop :=
  ∀ p ∈ s.proposals.rows, p.strategyType = .electorate → ¬ p.status.Waiting →
    ∃ p', KeepsTerms s s' p p'

theorem TermsKept.refl (s : ProposalState rt) : TermsKept s s := fun p hp _ hnot =>
  ⟨p, hp, ⟨rfl, rfl, rfl, rfl, rfl, rfl, rfl, rfl, rfl⟩, hnot, rfl, fun _ hr _ => hr, fun _ => rfl⟩

theorem TermsKept.trans (s₁ s₂ s₃ : ProposalState rt) (h : TermsKept s₁ s₂)
    (h' : TermsKept s₂ s₃) : TermsKept s₁ s₃ := by
  intro p hp hstrategy hnot
  obtain ⟨p₂, h₂⟩ := h p hp hstrategy hnot
  obtain ⟨p₃, h₃⟩ := h' p₂ h₂.mem (h₂.terms.strategy.trans hstrategy) h₂.opened
  refine ⟨p₃, h₃.mem, h₂.terms.trans h₃.terms, h₃.opened, ?_, fun r hr hid => ?_, fun hterm => ?_⟩
  · rw [← h₂.snapshot, ← h₂.terms.proposalId]
    exact h₃.snapshot
  · exact h₃.resolution r (h₂.resolution r hr hid) (hid.trans h₂.terms.proposalId.symm)
  · have hst := h₂.terminal hterm
    exact (h₃.terminal (hst ▸ hterm)).trans hst

/-- Records of other proposals are no part of the elector snapshot. -/
theorem snapshotsOf_append {new : List ProposalElectorSnapshot} {proposalId : String}
    (h : s'.snapshots.rows = s.snapshots.rows ++ new) (hnew : ∀ r ∈ new, r.proposal ≠ proposalId) :
    snapshotsOf s' proposalId = snapshotsOf s proposalId := by
  have hnil : new.filter (fun r => decide (r.proposal = proposalId)) = [] := by
    rw [List.filter_eq_nil_iff]
    intro r hr heq
    exact hnew r hr (of_decide_eq_true heq)
  rw [snapshotsOf, h, List.filter_append, hnil, List.append_nil, snapshotsOf]

/-- The row of one proposal is replaced. -/
theorem TermsKept.replace {p q : ApprovalProposal} (newResolutions : List ProposalResolution)
    (newSnapshots : List ProposalElectorSnapshot) (hmem : p ∈ s.proposals.rows)
    (hreplaces : Replaces s s' q) (hid : q.proposalId = p.proposalId)
    (hresolutions : s'.resolutions.rows = s.resolutions.rows ++ newResolutions)
    (hsnapshots : s'.snapshots.rows = s.snapshots.rows ++ newSnapshots)
    (hown : ∀ r ∈ newSnapshots, r.proposal = p.proposalId)
    (hq : ¬ p.status.Waiting → SameTerms p q ∧ ¬ q.status.Waiting ∧ newSnapshots = [] ∧
      (p.status.Terminal → q.status = p.status)) : TermsKept s s' := by
  intro t ht hstrategy hnot
  have hresolution : ∀ r ∈ s.resolutions.rows, r.proposal = t.proposalId →
      r ∈ s'.resolutions.rows := by
    intro r hr _
    rw [hresolutions]
    exact List.mem_append_left _ hr
  by_cases htid : t.proposalId = q.proposalId
  · obtain rfl := s.proposals.eq_of_pk ht hmem (htid.trans hid)
    obtain ⟨hterms, hopened, hnil, hterminal⟩ := hq hnot
    subst hnil
    exact ⟨q, (hreplaces q).2 (.inl rfl), hterms, hopened,
      snapshotsOf_append hsnapshots fun r hr => absurd hr List.not_mem_nil, hresolution, hterminal⟩
  · refine ⟨t, (hreplaces t).2 (.inr ⟨ht, htid⟩), ⟨rfl, rfl, rfl, rfl, rfl, rfl, rfl, rfl, rfl⟩,
      hnot, snapshotsOf_append hsnapshots fun r hr heq => htid ?_, hresolution, fun _ => rfl⟩
    rw [← heq, hown r hr, hid]

theorem Move.termsKept {may : String → Prop} (hmove : Move may s s') : TermsKept s s' := by
  cases hmove with
  | idle hproposals hsnapshots hballots hresolutions hexecutions =>
    intro p hp hstrategy hnot
    refine ⟨p, hproposals ▸ hp, ⟨rfl, rfl, rfl, rfl, rfl, rfl, rfl, rfl, rfl⟩, hnot, ?_,
      fun r hr _ => hresolutions ▸ hr, fun _ => rfl⟩
    rw [snapshotsOf, hsnapshots, snapshotsOf]
  | created p hfresh hproposals hstrategy hwaiting hsnapshots hballots hresolutions hexecutions =>
    intro q hq _ hnot
    refine ⟨q, hproposals ▸ List.mem_append_left _ hq,
      ⟨rfl, rfl, rfl, rfl, rfl, rfl, rfl, rfl, rfl⟩, hnot, ?_, fun r hr _ => hresolutions ▸ hr,
      fun _ => rfl⟩
    rw [snapshotsOf, hsnapshots, snapshotsOf]
  | attached p ruleId hmem hwaiting hproposals hsnapshots hballots hresolutions hexecutions =>
    exact TermsKept.replace [] [] hmem hproposals rfl (by rw [hresolutions, List.append_nil])
      (by rw [hsnapshots, List.append_nil])
      (fun r hr => absurd hr List.not_mem_nil) fun hnot => absurd hwaiting hnot
  | started p rule now hmem hstrategy hdraft hopening hproposals hsnapshots hballots hresolutions
      hexecutions =>
    obtain ⟨rows, hrows, hown⟩ := hsnapshots
    exact TermsKept.replace [] rows hmem hproposals rfl (by rw [hresolutions, List.append_nil])
      hrows (fun r hr => (hown r hr).1) fun hnot => absurd (.inl hdraft) hnot
  | balloted p b hmem hvoting hproposal hrevision hballots hvoter hproposals hsnapshots
      hresolutions hexecutions =>
    intro q hq _ hnot
    refine ⟨q, hproposals ▸ hq, ⟨rfl, rfl, rfl, rfl, rfl, rfl, rfl, rfl, rfl⟩, hnot, ?_,
      fun r hr _ => hresolutions ▸ hr, fun _ => rfl⟩
    rw [snapshotsOf, hsnapshots, snapshotsOf]
  | resolved p tally outcome reasonCode atTime actor hmem hvoting houtcome hproposals hresolutions
      hsnapshots hballots hexecutions =>
    refine TermsKept.replace _ [] hmem hproposals rfl hresolutions
      (by rw [hsnapshots, List.append_nil]) (fun r hr => absurd hr List.not_mem_nil) fun _ =>
        ⟨⟨rfl, rfl, rfl, rfl, rfl, rfl, rfl, rfl, rfl⟩, outcome.status_not_waiting, rfl,
          fun hterm => ?_⟩
    rw [hvoting] at hterm
    simp [ProposalStatus.Terminal] at hterm
  | attempted p p' e hmem hstrategy hallowed hexecutable hended hsame hproposals hsnapshots hballots
      hresolutions hproposal hsucceeded hexecutions =>
    refine TermsKept.replace [] [] hmem hproposals (by rw [hsame])
      (by rw [hresolutions, List.append_nil])
      (by rw [hsnapshots, List.append_nil]) (fun r hr => absurd hr List.not_mem_nil) fun _ =>
        ⟨by rw [hsame]; exact ⟨rfl, rfl, rfl, rfl, rfl, rfl, rfl, rfl, rfl⟩, ?_, rfl,
          fun hterm => ?_⟩
    · rcases hended with hst | hst <;> rw [hst] <;> simp [ProposalStatus.Waiting]
    · rcases hexecutable with hst | hst <;> rw [hst] at hterm <;>
        simp [ProposalStatus.Terminal] at hterm

/-! ## Runs -/

theorem proposalStep_sound {step : ProposalStep rt} (h : Sound s)
    (hstep : proposalStep s step = .ok s') : Sound s' ∧ TermsKept s s' :=
  (proposalStep_moves hstep).induction TermsKept.refl TermsKept.trans
    (fun _ _ h hmove _ => ⟨hmove.sound h, hmove.termsKept⟩) h

/-- No electorate proposal has been created yet; proposals decided by approval slots may be there. -/
structure NoElectorate (s : ProposalState rt) : Prop where
  proposals : ∀ p ∈ s.proposals.rows, p.strategyType = .approvalSlots ∧ p.status.OfSlots
  snapshots : s.snapshots.rows = []
  ballots : s.ballots.rows = []
  resolutions : s.resolutions.rows = []
  executions : s.executions.rows = []

theorem NoElectorate.sound (h : NoElectorate s) : Sound s := by
  refine ⟨fun p hp => ?_, ?_, ?_⟩
  · obtain ⟨hslots, hst⟩ := h.proposals p hp
    have hne : p.strategyType ≠ .electorate := by rw [hslots]; simp
    refine ⟨fun _ => hst, fun heq => absurd heq hne, fun heq => absurd heq hne, ?_,
      fun heq => absurd heq hne⟩
    rw [h.resolutions]
    exact fun r hr => absurd hr List.not_mem_nil
  · rw [h.resolutions]
    exact fun r hr => absurd hr List.not_mem_nil
  · rw [h.snapshots]
    exact fun r hr => absurd hr List.not_mem_nil

theorem run_sound (h : Sound s) (steps : List (ProposalStep rt)) :
    Sound (runCalls proposalStep s steps) :=
  runCalls_invariant (fun _ _ _ h hstep => (proposalStep_sound h hstep).1) h steps

theorem run_termsKept (h : Sound s) (steps : List (ProposalStep rt)) :
    TermsKept s (runCalls proposalStep s steps) := by
  have heach : EachCall proposalStep (fun _ _ => True) s steps :=
    EachCall.of_forall s fun _ _ _ => trivial
  exact heach.rel TermsKept.refl TermsKept.trans
    (fun _ _ _ h _ hstep => (proposalStep_sound h hstep).1)
    (fun _ _ _ h _ hstep => (proposalStep_sound h hstep).2) h

/-- **Life cycle.** In every state of every run an electorate proposal has a resolution exactly when
its status says so, its resolution fits the status and is justified by its evidence, and from the
opening of the vote on its terms, its electors, its resolution and a terminal status stay. -/
theorem electorateProposal_lifecycle {s₀ : ProposalState rt} (h₀ : NoElectorate s₀)
    (steps more : List (ProposalStep rt)) :
    (∀ p ∈ (runCalls proposalStep s₀ steps).proposals.rows, p.strategyType = .electorate →
      (p.status.Resolved ↔
        ∃ r ∈ (runCalls proposalStep s₀ steps).resolutions.rows, r.proposal = p.proposalId) ∧
      ∀ r ∈ (runCalls proposalStep s₀ steps).resolutions.rows, r.proposal = p.proposalId →
        Evidenced p r) ∧
    TermsKept (runCalls proposalStep s₀ steps) (runCalls proposalStep s₀ (steps ++ more)) := by
  have hsound := run_sound h₀.sound steps
  refine ⟨fun p hp hstrategy => ?_, ?_⟩
  · exact ⟨(hsound.rows p hp).resolved hstrategy, (hsound.rows p hp).evidence⟩
  · rw [runCalls_append]
    exact run_termsKept hsound more

/-! ## One admission -/

def neighbour : Member := ⟨32, "m-32", none, "", .active, []⟩

def newcomer : Member := ⟨31, "m-31", none, "", .pendingReview, []⟩

def pendingApplication : MemberApplication :=
  ⟨"application-31", "", "维护", .submitted, some 31, none, none, []⟩

/-- One contributor decides within a day. -/
def contributorRule : ElectorateRuleVersion where
  ruleVersionId := "rule-version-1"
  template := ⟨"member-admission", "member_application", "成员准入"⟩
  version := 1
  selectorConfig := .obj [("participation_status", .str "contributor")]
  approveThreshold := 1
  rejectThreshold := 1
  minimumParticipation := 1
  votingDurationHours := 24
  unresolvedOutcome := .expired
  validated := ⟨⟨Table.empty, Table.empty, Table.empty, Table.empty, [], Table.empty,
    Table.empty⟩, rfl⟩
  positive := by decide

def villageDirectory : Directory where
  members := ⟨[newcomer, neighbour], by decide, by decide⟩
  organizations := Table.empty
  roles := Table.empty
  assignments := Table.empty
  rolePermissions := []
  domains := Table.empty
  qualifications := Table.empty

/-- Nothing has been proposed yet. -/
def villageState : ProposalState textRuntime where
  roles := ⟨villageDirectory, Table.empty, Table.empty, Journal.empty⟩
  applications := ⟨[pendingApplication], List.nodup_singleton _, by decide⟩
  rules := ⟨[contributorRule], List.nodup_singleton _, List.nodup_singleton _⟩
  proposals := Table.empty
  decisions := Table.empty
  snapshots := Table.empty
  ballots := Table.empty
  resolutions := Table.empty
  executions := Table.empty

def envAt (now : Nat) (uuid : String) : ProposalEnv := ⟨now, uuid, uuid⟩

def admissionArgs : CreateElectorateArgs where
  proposalType := .memberApplication
  title := "守约者准入"
  submittedBy := neighbour
  dedupeKey := "application-31"
  targetType := "member_application"
  targetId := "application-31"
  ruleVersion := some contributorRule
  summary := ""
  publicReason := ""
  metadata := []

/-- The application is put to the vote and approved by its one elector. -/
def admissionVote : List (ProposalStep textRuntime) := [
  .call (envAt 1 "a") (.create admissionArgs),
  .call (envAt 2 "b") (.start "proposal-a"),
  .call (envAt 3 "c") (.cast "proposal-a" neighbour "approve" "")]

theorem villageState_noElectorate : NoElectorate villageState :=
  ⟨fun _ hp => absurd hp List.not_mem_nil, rfl, rfl, rfl, rfl⟩

/-- The vote ends with the approval that its one ballot justifies. -/
theorem admissionVote_lifecycle :
    (runCalls proposalStep villageState admissionVote).proposals.rows.map
        ApprovalProposal.status = [.approved] ∧
      (∀ p ∈ (runCalls proposalStep villageState admissionVote).proposals.rows,
        ∀ r ∈ (runCalls proposalStep villageState admissionVote).resolutions.rows,
          p.strategyType = .electorate → r.proposal = p.proposalId → Evidenced p r) ∧
      TermsKept (runCalls proposalStep villageState admissionVote)
        (runCalls proposalStep villageState (admissionVote ++ admissionVote)) := by
  have h := electorateProposal_lifecycle villageState_noElectorate admissionVote admissionVote
  exact ⟨by decide +kernel, fun p hp r hr hstrategy hid => (h.1 p hp hstrategy).2 r hr hid, h.2⟩

end LiveOs.Proposals
