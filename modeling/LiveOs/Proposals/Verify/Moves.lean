import LiveOs.Proposals.Execution
import LiveOs.Roles.Verify.Catalog
import LiveOs.Lib.Runs
import Mathlib.Logic.Relation

/-!
# Moves of proposals

A move changes the records of one proposal: it is created, gets a rule, opens its vote, receives a
ballot, is resolved or has an execution attempted. Rules, members and the members of applications
are never lost on the way.
-/

namespace LiveOs.Proposals

open Lib EventLedger Roles

variable {rt : Runtime} {env : ProposalEnv} {s s' : ProposalState rt} {may : String → Prop}

/-! ## Moves -/

/-- The row `p` takes the place of the row with its id. -/
def Replaces (s s' : ProposalState rt) (p : ApprovalProposal) : Prop :=
  ∀ q, q ∈ s'.proposals.rows ↔
    q = p ∨ q ∈ s.proposals.rows ∧ q.proposalId ≠ p.proposalId

/-- The record `e` takes the place of the record of its proposal. -/
def RecordReplaces (s s' : ProposalState rt) (e : ProposalExecutionRecord) : Prop :=
  ∀ r, r ∈ s'.executions.rows ↔ r = e ∨ r ∈ s.executions.rows ∧ r.proposal ≠ e.proposal

/-- What `start_electorate_voting` has found when a vote opens. -/
structure Opening (s : ProposalState rt) (p : ApprovalProposal) (rule : ElectorateRuleVersion) :
    Prop where
  proposalType : p.proposalType = .memberApplication
  ruleRow : rule ∈ s.rules.rows ∧ p.electorateRuleVersion = some rule.ruleVersionId
  application : ∃ a, applicationFor s p = .ok a
  submitter : ∃ m ∈ s.roles.db.members.rows, m.pk = p.submittedBy

/-- A proposal that is not voted on yet. -/
def ProposalStatus.Waiting (s : ProposalStatus) : Prop := s = .draft ∨ s = .awaitingPolicy

/-- A change of the records of one proposal, or of none; executions are attempted only where they
may be. -/
inductive Move (may : String → Prop) (s s' : ProposalState rt) : Prop
  | idle (proposals : s'.proposals = s.proposals) (snapshots : s'.snapshots = s.snapshots)
    (ballots : s'.ballots = s.ballots) (resolutions : s'.resolutions = s.resolutions)
    (executions : s'.executions = s.executions)
  | created (p : ApprovalProposal) (fresh : ∀ q ∈ s.proposals.rows, q.proposalId ≠ p.proposalId)
    (proposals : s'.proposals.rows = s.proposals.rows ++ [p])
    (strategy : p.strategyType = .electorate) (waiting : p.status.Waiting)
    (snapshots : s'.snapshots = s.snapshots) (ballots : s'.ballots = s.ballots)
    (resolutions : s'.resolutions = s.resolutions) (executions : s'.executions = s.executions)
  | attached (p : ApprovalProposal) (ruleId : String) (mem : p ∈ s.proposals.rows)
    (waiting : p.status.Waiting)
    (proposals : Replaces s s' { p with electorateRuleVersion := some ruleId, status := .draft })
    (snapshots : s'.snapshots = s.snapshots) (ballots : s'.ballots = s.ballots)
    (resolutions : s'.resolutions = s.resolutions) (executions : s'.executions = s.executions)
  | started (p : ApprovalProposal) (rule : ElectorateRuleVersion) (now : Nat)
    (mem : p ∈ s.proposals.rows) (strategy : p.strategyType = .electorate)
    (draft : p.status = .draft) (opening : Opening s p rule)
    (proposals : Replaces s s' (openVoting p rule now))
    (snapshots : ∃ rows, s'.snapshots.rows = s.snapshots.rows ++ rows ∧ ∀ r ∈ rows,
      r.proposal = p.proposalId ∧ ∃ m ∈ s.roles.db.members.rows, m.pk = r.member)
    (ballots : s'.ballots = s.ballots) (resolutions : s'.resolutions = s.resolutions)
    (executions : s'.executions = s.executions)
  | balloted (p : ApprovalProposal) (b : ProposalBallot) (mem : p ∈ s.proposals.rows)
    (voting : p.status = .voting) (proposal : b.proposal = p.proposalId)
    (revision : b.revision = latestRevision s.ballots.rows p.proposalId b.voter + 1)
    (ballots : s'.ballots.rows = s.ballots.rows ++ [b])
    (voter : ∃ r ∈ s.snapshots.rows, r.proposal = p.proposalId ∧ r.member = b.voter)
    (proposals : s'.proposals = s.proposals) (snapshots : s'.snapshots = s.snapshots)
    (resolutions : s'.resolutions = s.resolutions) (executions : s'.executions = s.executions)
  | resolved (p : ApprovalProposal) (tally : ProposalTally) (outcome : Outcome)
    (reasonCode : String) (atTime : Nat) (actor : Nat) (mem : p ∈ s.proposals.rows)
    (voting : p.status = .voting)
    (outcomeOf : resolutionOutcome p tally atTime = some (outcome, reasonCode))
    (proposals : Replaces s s' { p with status := outcome.status, resolvedAt := some atTime })
    (resolutions : s'.resolutions.rows = s.resolutions.rows ++ [{
      proposal := p.proposalId
      outcome := outcome
      reasonCode := reasonCode
      evidence := resolutionEvidence p tally
      decidedBy := some actor
      decidedAt := atTime }])
    (snapshots : s'.snapshots = s.snapshots) (ballots : s'.ballots = s.ballots)
    (executions : s'.executions = s.executions)
  | attempted (p p' : ApprovalProposal) (e : ProposalExecutionRecord) (mem : p ∈ s.proposals.rows)
    (strategy : p.strategyType = .electorate)
    (allowed : may p.proposalId)
    (executable : p.status = .approved ∨ p.status = .executionFailed)
    (ended : p'.status = .executed ∨ p'.status = .executionFailed)
    (same : p = { p' with status := p.status, executedAt := p.executedAt })
    (proposals : Replaces s s' p') (snapshots : s'.snapshots = s.snapshots)
    (ballots : s'.ballots = s.ballots) (resolutions : s'.resolutions = s.resolutions)
    (proposal : e.proposal = p.proposalId)
    (succeeded : e.status = .succeeded ↔ p'.status = .executed) (executions : RecordReplaces s s' e)

/-- The member of an application exists. -/
def Linked (s : ProposalState rt) (a : MemberApplication) : Prop :=
  ∀ k, a.linkedMember = some k → ∃ m ∈ s.roles.db.members.rows, m.pk = k

/-- Rules, members and the members of applications are still there. -/
structure Kept (s s' : ProposalState rt) : Prop where
  rules : ∀ r ∈ s.rules.rows, r ∈ s'.rules.rows
  members : ∀ m ∈ s.roles.db.members.rows, ∃ m' ∈ s'.roles.db.members.rows, m'.pk = m.pk
  applications : ∀ a ∈ s.applications.rows, ∃ a' ∈ s'.applications.rows,
    a'.applicationId = a.applicationId ∧ a'.linkedMember = a.linkedMember
  linked : (∀ a ∈ s.applications.rows, Linked s a) → ∀ a ∈ s'.applications.rows, Linked s' a

theorem Kept.of_same (hrules : s'.rules = s.rules)
    (hmembers : s'.roles.db.members = s.roles.db.members)
    (happlications : s'.applications = s.applications) : Kept s s' := by
  refine ⟨?_, ?_, ?_, ?_⟩
  · rw [hrules]
    exact fun r hr => hr
  · rw [hmembers]
    exact fun m hm => ⟨m, hm, rfl⟩
  · rw [happlications]
    exact fun a ha => ⟨a, ha, rfl, rfl⟩
  · intro h a ha k hk
    rw [hmembers]
    exact h a (happlications ▸ ha) k hk

theorem Kept.trans {s₁ s₂ s₃ : ProposalState rt} (h : Kept s₁ s₂) (h' : Kept s₂ s₃) :
    Kept s₁ s₃ := by
  refine ⟨fun r hr => h'.rules r (h.rules r hr), fun m hm => ?_, fun a ha => ?_,
    fun hall => h'.linked (h.linked hall)⟩
  · obtain ⟨m₂, hm₂, hpk₂⟩ := h.members m hm
    obtain ⟨m₃, hm₃, hpk₃⟩ := h'.members m₂ hm₂
    exact ⟨m₃, hm₃, hpk₃.trans hpk₂⟩
  · obtain ⟨a₂, ha₂, hid₂, hlinked₂⟩ := h.applications a ha
    obtain ⟨a₃, ha₃, hid₃, hlinked₃⟩ := h'.applications a₂ ha₂
    exact ⟨a₃, ha₃, hid₃.trans hid₂, hlinked₃.trans hlinked₂⟩

/-- Saving an application whose member is not changed. -/
theorem saveApplication_kept {applicationId : String}
    {fields : MemberApplication → MemberApplication}
    {h : ∀ a, (fields a).applicationId = a.applicationId}
    (hlinked : ∀ a, (fields a).linkedMember = a.linkedMember) :
    Kept s (saveApplication s applicationId fields h) := by
  have hrow : ∀ a ∈ s.applications.rows, ∃ a' ∈ (saveApplication s applicationId fields
      h).applications.rows, a'.applicationId = a.applicationId ∧ a'.linkedMember = a.linkedMember := by
    intro a ha
    refine ⟨_, List.mem_map_of_mem ha, ?_, ?_⟩
    · split
      · exact h a
      · rfl
    · split
      · exact hlinked a
      · rfl
  refine ⟨fun r hr => hr, fun m hm => ⟨m, hm, rfl⟩, hrow, fun hall a ha k hk => ?_⟩
  obtain ⟨b, hb, rfl⟩ := List.mem_map.1 ha
  refine hall b hb k (Eq.trans ?_ hk)
  split
  · exact (hlinked b).symm
  · rfl

/-- A sequence of moves. -/
abbrev Moves (may : String → Prop) : ProposalState rt → ProposalState rt → Prop :=
  Relation.ReflTransGen fun s s' => Move may s s' ∧ Kept s s'

theorem Moves.single (h : Move may s s') (hkept : Kept s s') : Moves may s s' :=
  Relation.ReflTransGen.single ⟨h, hkept⟩

/-- Whatever a move preserves and relates, a sequence of moves does. -/
theorem Moves.induction {Inv : ProposalState rt → Prop}
    {R : ProposalState rt → ProposalState rt → Prop} (hrefl : ∀ s, R s s)
    (htrans : ∀ a b c, R a b → R b c → R a c)
    (hmove : ∀ s s', Inv s → Move may s s' → Kept s s' → Inv s' ∧ R s s') (h : Moves may s s') (hs : Inv s) :
    Inv s' ∧ R s s' := by
  induction h with
  | refl => exact ⟨hs, hrefl s⟩
  | tail _ hlast ih =>
    obtain ⟨hmid, hrel⟩ := ih
    obtain ⟨hinv, hrel'⟩ := hmove _ _ hmid hlast.1 hlast.2
    exact ⟨hinv, htrans _ _ _ hrel hrel'⟩

/-- Invariants of moves. -/
theorem Moves.invariant {Inv : ProposalState rt → Prop}
    (hmove : ∀ s s', Inv s → Move may s s' → Kept s s' → Inv s') (h : Moves may s s')
    (hs : Inv s) : Inv s' :=
  (h.induction (fun _ => trivial) (fun _ _ _ _ _ => trivial)
    (fun s s' hs hm hkept => ⟨hmove s s' hs hm hkept, trivial⟩) hs : Inv s' ∧ True).1

/-! ## Rows -/

/-- Saving a changed copy of a row puts it in the place of the row. -/
theorem saveProposal_replaces {p q : ApprovalProposal} (hq : q ∈ s.proposals.rows)
    (hp : p = { q with
      status := p.status
      votingStartedAt := p.votingStartedAt
      votingDeadline := p.votingDeadline
      frozenApproveThreshold := p.frozenApproveThreshold
      frozenRejectThreshold := p.frozenRejectThreshold
      frozenMinimumParticipation := p.frozenMinimumParticipation
      frozenUnresolvedOutcome := p.frozenUnresolvedOutcome
      resolvedAt := p.resolvedAt
      executedAt := p.executedAt
      electorateRuleVersion := p.electorateRuleVersion }) :
    Replaces s (saveProposal s p) p := by
  have hid : p.proposalId = q.proposalId := by rw [hp]
  intro r
  rw [saveProposal, Table.modify_rows, List.mem_map]
  constructor
  · rintro ⟨t, ht, rfl⟩
    by_cases htid : t.proposalId = p.proposalId
    · rw [if_pos htid]
      obtain rfl := s.proposals.eq_of_pk ht hq (htid.trans hid)
      exact .inl hp.symm
    · rw [if_neg htid]
      exact .inr ⟨ht, htid⟩
  · rintro (rfl | ⟨hr, hrid⟩)
    · refine ⟨q, hq, ?_⟩
      rw [if_pos hid.symm]
      exact hp.symm
    · exact ⟨r, hr, if_neg hrid⟩

/-- Saving a changed copy of a record puts it in the place of the record. -/
theorem saveExecution_replaces {e e₀ : ProposalExecutionRecord} (he₀ : e₀ ∈ s.executions.rows)
    (he : e = { e₀ with
      executedBy := e.executedBy
      status := e.status
      publicErrorCode := e.publicErrorCode
      resultData := e.resultData
      completedAt := e.completedAt }) : RecordReplaces s (saveExecution s e) e := by
  have hid : e.executionId = e₀.executionId := by rw [he]
  have hproposal : e.proposal = e₀.proposal := by rw [he]
  intro r
  rw [saveExecution, Table.modify_rows, List.mem_map]
  constructor
  · rintro ⟨t, ht, rfl⟩
    by_cases htid : t.executionId = e.executionId
    · rw [if_pos htid]
      obtain rfl := s.executions.eq_of_pk ht he₀ (htid.trans hid)
      exact .inl he.symm
    · rw [if_neg htid]
      refine .inr ⟨ht, fun hsame => htid ?_⟩
      rw [s.executions.eq_of_alt ht he₀ (congrArg some (hsame.trans hproposal)) rfl, hid]
  · rintro (rfl | ⟨hr, hne⟩)
    · refine ⟨e₀, he₀, ?_⟩
      rw [if_pos hid.symm]
      exact he.symm
    · refine ⟨r, hr, if_neg fun hsame => hne ?_⟩
      rw [s.executions.eq_of_pk hr he₀ (hsame.trans hid), hproposal]

theorem RecordReplaces.trans {s₁ : ProposalState rt} {e₀ e : ProposalExecutionRecord}
    (h : RecordReplaces s s₁ e₀) (h' : RecordReplaces s₁ s' e) (he : e₀.proposal = e.proposal) :
    RecordReplaces s s' e := by
  intro r
  rw [h' r, h r]
  constructor
  · rintro (rfl | ⟨rfl | hr, hne⟩)
    · exact .inl rfl
    · exact absurd he hne
    · exact .inr ⟨hr.1, hne⟩
  · rintro (rfl | ⟨hr, hne⟩)
    · exact .inl rfl
    · exact .inr ⟨.inr ⟨hr, he ▸ hne⟩, hne⟩

theorem lockProposal_ok {proposalId : String} {p : ApprovalProposal}
    (h : lockProposal s proposalId = .ok p) :
    p ∈ s.proposals.rows ∧ p.proposalId = proposalId := by
  unfold lockProposal at h
  split at h
  · cases h
  · rename_i hget
    obtain rfl := Except.ok.inj h
    exact Table.get?_eq_some.1 hget

theorem applicationFor_ok {p : ApprovalProposal} {application : MemberApplication}
    (h : applicationFor s p = .ok application) :
    application ∈ s.applications.rows ∧ application.applicationId = p.targetId := by
  obtain ⟨-, h⟩ := rejectIf_bind_eq_ok.1 h
  split at h
  · cases h
  · rename_i hget
    obtain rfl := Except.ok.inj h
    exact Table.get?_eq_some.1 hget

/-! ## Events -/

/-- Only the roles and the applications differ. -/
structure SameVotes (s s' : ProposalState rt) : Prop where
  proposals : s'.proposals = s.proposals
  snapshots : s'.snapshots = s.snapshots
  ballots : s'.ballots = s.ballots
  resolutions : s'.resolutions = s.resolutions
  executions : s'.executions = s.executions

/-- `append_event` changes the ledger and nothing else. -/
theorem appendProposalEvent_ok {now : Nat} {p : ApprovalProposal} {eventType action : String}
    {actor : Member} (h : appendProposalEvent s now p eventType action actor = .ok s') :
    ∃ events, s' = { s with roles := { s.roles with events := events } } := by
  obtain ⟨payload, -, h⟩ := bind_eq_ok.1 h
  obtain ⟨events, -, h⟩ := bind_eq_ok.1 h
  exact ⟨events, (pure_eq_ok.1 h).symm⟩

theorem appendProposalEvent_sameVotes {now : Nat} {p : ApprovalProposal}
    {eventType action : String} {actor : Member}
    (h : appendProposalEvent s now p eventType action actor = .ok s') : SameVotes s s' := by
  obtain ⟨events, rfl⟩ := appendProposalEvent_ok h
  exact ⟨rfl, rfl, rfl, rfl, rfl⟩

/-- The event at the end of a call. -/
theorem Moves.event {s₁ : ProposalState rt} {now : Nat} {p : ApprovalProposal}
    {eventType action : String} {actor : Member} (hmoves : Moves may s s₁)
    (h : appendProposalEvent s₁ now p eventType action actor = .ok s') : Moves may s s' := by
  obtain ⟨events, rfl⟩ := appendProposalEvent_ok h
  exact hmoves.tail ⟨.idle rfl rfl rfl rfl rfl, .of_same rfl rfl rfl⟩

end LiveOs.Proposals
