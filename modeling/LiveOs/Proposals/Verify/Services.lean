import LiveOs.Proposals.Verify.Moves

/-!
# What the proposal services do

Every service is a sequence of moves: what it checks before it writes becomes a condition of the
move. `proposalStep_moves` says so for every step of a run; the invariants follow from the moves.
-/

namespace LiveOs.Proposals

open Lib EventLedger Roles

variable {rt : Runtime} {env : ProposalEnv} {s s' : ProposalState rt} {may : String → Prop}

/-! ## Before the vote -/

theorem createElectorateProposal_moves {args : CreateElectorateArgs} {p : ApprovalProposal}
    (h : createElectorateProposal env s args = .ok (s', p)) : Moves may s s' := by
  obtain ⟨adapter, -, h⟩ := bind_eq_ok.1 h
  obtain ⟨-, h⟩ := rejectIf_bind_eq_ok.1 h
  obtain ⟨_, -, h⟩ := bind_eq_ok.1 h
  obtain ⟨-, h⟩ := rejectIf_bind_eq_ok.1 h
  split at h
  · obtain ⟨rfl, -⟩ := Prod.mk.inj (pure_eq_ok.1 h)
    exact .refl
  · obtain ⟨-, h⟩ := rejectIf_bind_eq_ok.1 h
    obtain ⟨_, -, h⟩ := bind_eq_ok.1 h
    obtain ⟨proposals, hinsert, h⟩ := bind_eq_ok.1 h
    obtain ⟨s₁, happend, h⟩ := bind_eq_ok.1 h
    obtain ⟨rfl, -⟩ := Prod.mk.inj (pure_eq_ok.1 h)
    obtain ⟨hrows, hfresh, -⟩ := Table.insert_ok hinsert
    have hcreated : Move may s { s with proposals := proposals } := by
      refine .created _ hfresh hrows rfl ?_ rfl rfl rfl rfl
      unfold newElectorateProposal
      by_cases hrule : args.ruleVersion.isSome
      · exact .inl (if_pos hrule)
      · exact .inr (if_neg hrule)
    exact (Moves.single hcreated (.of_same rfl rfl rfl)).event happend

theorem attachRuleVersion_moves {proposalId : String} {rule : ElectorateRuleVersion}
    {p : ApprovalProposal} (h : attachRuleVersion s proposalId rule = .ok (s', p)) :
    Moves may s s' := by
  obtain ⟨locked, hlock, h⟩ := bind_eq_ok.1 h
  obtain ⟨hmem, -⟩ := lockProposal_ok hlock
  obtain ⟨hstatus, h⟩ := rejectIf_bind_eq_ok.1 h
  obtain ⟨-, h⟩ := rejectIf_bind_eq_ok.1 h
  obtain ⟨_, -, h⟩ := bind_eq_ok.1 h
  obtain ⟨rfl, rfl⟩ := Prod.mk.inj (pure_eq_ok.1 h)
  have hwaiting : locked.status.Waiting := by
    unfold ProposalStatus.Waiting
    by_contra hne
    exact hstatus ⟨fun heq => hne (.inr heq), fun heq => hne (.inl heq)⟩
  exact .single (.attached locked rule.ruleVersionId hmem hwaiting (saveProposal_replaces hmem rfl)
    rfl rfl rfl rfl) (.of_same rfl rfl rfl)

theorem createSnapshots_ok {snapshots snapshots' : SnapshotTable}
    {rows : List ProposalElectorSnapshot} (h : createSnapshots snapshots rows = .ok snapshots') :
    snapshots'.rows = snapshots.rows ++ rows := by
  induction rows generalizing snapshots with
  | nil =>
    obtain rfl := pure_eq_ok.1 h
    exact (List.append_nil _).symm
  | cons r rows ih =>
    rw [createSnapshots, List.foldlM_cons] at h
    obtain ⟨snapshots₁, hinsert, h⟩ := bind_eq_ok.1 h
    rw [ih h, (Table.insert_ok hinsert).1, List.append_assoc, List.singleton_append]

theorem snapshotRows_ok {now : Nat} {p : ApprovalProposal} {rule : ElectorateRuleVersion}
    {excluded : Option Nat} {moment : Nat} {members : List Member}
    {rows : List ProposalElectorSnapshot}
    (h : snapshotRows s now p rule excluded moment members = .ok rows) :
    ∀ r ∈ rows, r.proposal = p.proposalId ∧ ∃ m ∈ members, m.pk = r.member := by
  induction members generalizing rows with
  | nil =>
    obtain rfl := pure_eq_ok.1 h
    exact fun r hr => absurd hr List.not_mem_nil
  | cons m members ih =>
    rw [snapshotRows] at h
    obtain ⟨decision, -, h⟩ := bind_eq_ok.1 h
    obtain ⟨rest, hrest, h⟩ := bind_eq_ok.1 h
    obtain rfl := pure_eq_ok.1 h
    have hold : ∀ r ∈ rest, r.proposal = p.proposalId ∧ ∃ x ∈ m :: members, x.pk = r.member := by
      intro r hr
      obtain ⟨hproposal, x, hx, hpk⟩ := ih hrest r hr
      exact ⟨hproposal, x, List.mem_cons_of_mem _ hx, hpk⟩
    intro r hr
    split at hr
    · rcases List.mem_cons.1 hr with rfl | hr
      · exact ⟨rfl, m, List.mem_cons_self, rfl⟩
      · exact hold r hr
    · exact hold r hr

theorem generateElectorSnapshot_ok {now : Nat} {proposalId : String} {excluded : Option Nat}
    (h : generateElectorSnapshot s now proposalId excluded = .ok s') :
    s' = { s with snapshots := s'.snapshots } ∧
      ∃ rows, s'.snapshots.rows = s.snapshots.rows ++ rows ∧ ∀ r ∈ rows,
        r.proposal = proposalId ∧ ∃ m ∈ s.roles.db.members.rows, m.pk = r.member := by
  obtain ⟨locked, hlock, h⟩ := bind_eq_ok.1 h
  obtain ⟨-, hid⟩ := lockProposal_ok hlock
  split at h
  · cases h
  · split at h
    · cases h
    · split at h
      · obtain rfl := Except.ok.inj h
        exact ⟨rfl, [], (List.append_nil _).symm, fun r hr => absurd hr List.not_mem_nil⟩
      · obtain ⟨rows, hrows, h⟩ := bind_eq_ok.1 h
        obtain ⟨snapshots, hcreate, h⟩ := bind_eq_ok.1 h
        obtain rfl := pure_eq_ok.1 h
        refine ⟨rfl, rows, createSnapshots_ok hcreate, fun r hr => ?_⟩
        obtain ⟨hproposal, m, hm, hpk⟩ := snapshotRows_ok hrows r hr
        exact ⟨hproposal.trans hid, m, (List.mem_insertionSort _).1 hm, hpk⟩

theorem proposalAdapterFor_ok {proposalType : ProposalType} {adapter : ProposalTypeAdapter rt}
    (h : proposalAdapterFor proposalType = .ok adapter) :
    proposalType = .memberApplication ∧ adapter = memberAdmissionAdapter := by
  cases proposalType <;> cases h
  exact ⟨rfl, rfl⟩

theorem memberRow_ok {pk : Nat} {m : Member} (h : memberRow s pk = .ok m) :
    s.roles.db.members.get? pk = some m := by
  unfold memberRow at h
  split at h
  · cases h
  · rename_i hget
    rw [hget, Except.ok.inj h]

theorem ruleOf_ok {p : ApprovalProposal} {rule : ElectorateRuleVersion}
    (h : ruleOf s p = .ok rule) :
    rule ∈ s.rules.rows ∧ p.electorateRuleVersion = some rule.ruleVersionId := by
  unfold ruleOf at h
  split at h
  · cases h
  · rename_i ruleId hruleId
    split at h
    · cases h
    · rename_i hget
      obtain rfl := Except.ok.inj h
      obtain ⟨hmem, hid⟩ := Table.get?_eq_some.1 hget
      exact ⟨hmem, hruleId.trans (congrArg some hid.symm)⟩

theorem startDraft_moves {locked p : ApprovalProposal} (hmem : locked ∈ s.proposals.rows)
    (hstrategy : locked.strategyType = .electorate) (hdraft : locked.status = .draft)
    (h : startDraft env s locked = .ok (s', p)) : Moves may s s' := by
  obtain ⟨rule, hrule, h⟩ := bind_eq_ok.1 h
  obtain ⟨-, h⟩ := rejectIf_bind_eq_ok.1 h
  obtain ⟨adapter, hadapter, h⟩ := bind_eq_ok.1 h
  obtain ⟨excluded, hexcluded, h⟩ := bind_eq_ok.1 h
  obtain ⟨s₁, hgenerate, h⟩ := bind_eq_ok.1 h
  obtain ⟨submittedBy, hsubmitter, h⟩ := bind_eq_ok.1 h
  obtain ⟨s₂, happend, h⟩ := bind_eq_ok.1 h
  obtain ⟨rfl, -⟩ := Prod.mk.inj (pure_eq_ok.1 h)
  obtain ⟨htype, rfl⟩ := proposalAdapterFor_ok hadapter
  obtain ⟨application, happlication, -⟩ := bind_eq_ok.1 hexcluded
  obtain ⟨hs₁, rows, hrows, hown⟩ := generateElectorSnapshot_ok hgenerate
  have hopening : Opening s locked rule := by
    refine ⟨htype, ruleOf_ok hrule, ⟨application, happlication⟩, submittedBy, ?_⟩
    have hget := memberRow_ok hsubmitter
    rw [hs₁] at hget
    exact Table.get?_eq_some.1 hget
  have hreplaces : Replaces s s₁ (openVoting locked rule env.now) := by
    rw [hs₁]
    exact saveProposal_replaces hmem rfl
  have hstarted : Move may s s₁ :=
    .started locked rule env.now hmem hstrategy hdraft hopening hreplaces ⟨rows, hrows, hown⟩
      (by rw [hs₁]; rfl) (by rw [hs₁]; rfl) (by rw [hs₁]; rfl)
  have hkept : Kept s s₁ := by
    rw [hs₁]
    exact .of_same rfl rfl rfl
  exact (Moves.single hstarted hkept).event happend

theorem startElectorateVoting_moves {proposalId : String} {p : ApprovalProposal}
    (h : startElectorateVoting env s proposalId = .ok (s', p)) : Moves may s s' := by
  obtain ⟨locked, hlock, h⟩ := bind_eq_ok.1 h
  obtain ⟨hmem, -⟩ := lockProposal_ok hlock
  obtain ⟨hstrategy, h⟩ := rejectIf_bind_eq_ok.1 h
  split at h
  · obtain ⟨rfl, -⟩ := Prod.mk.inj (pure_eq_ok.1 h)
    exact .refl
  · obtain ⟨hdraft, h⟩ := rejectIf_bind_eq_ok.1 h
    exact startDraft_moves hmem (not_not.1 hstrategy) (not_not.1 hdraft) h

theorem activateWaitingProposalsForRule_moves {rule : ElectorateRuleVersion}
    (h : activateWaitingProposalsForRule env s rule = .ok s') : Moves may s s' := by
  unfold activateWaitingProposalsForRule at h
  dsimp only at h
  generalize List.map ApprovalProposal.proposalId _ = proposalIds at h
  induction proposalIds generalizing s with
  | nil =>
    obtain rfl := pure_eq_ok.1 h
    exact .refl
  | cons proposalId proposalIds ih =>
    rw [List.foldlM_cons] at h
    obtain ⟨s₂, hstep, h⟩ := bind_eq_ok.1 h
    obtain ⟨⟨s₁, p⟩, hattach, hstep⟩ := bind_eq_ok.1 hstep
    obtain ⟨⟨s₂', q⟩, hstart, hstep⟩ := bind_eq_ok.1 hstep
    obtain rfl := pure_eq_ok.1 hstep
    have hattached : Moves may s s₁ := attachRuleVersion_moves hattach
    exact (hattached.trans (startElectorateVoting_moves hstart)).trans (ih h)

/-! ## Resolutions -/

theorem syncMemberApplicationResolution_ok {p : ApprovalProposal} {actor : Nat}
    (h : syncMemberApplicationResolution s p actor = .ok s') :
    s' = { s with applications := s'.applications } ∧ Kept s s' := by
  unfold syncMemberApplicationResolution at h
  split at h
  · cases h
  · split at h
    · obtain rfl := Except.ok.inj h
      exact ⟨rfl, .of_same rfl rfl rfl⟩
    · obtain ⟨application, -, h⟩ := bind_eq_ok.1 h
      obtain rfl := pure_eq_ok.1 h
      exact ⟨rfl, saveApplication_kept fun _ => rfl⟩

theorem recordResolution_moves {p q : ApprovalProposal} {tally : ProposalTally} {outcome : Outcome}
    {reasonCode : String} {atTime : Nat} {actor : Member} (hmem : p ∈ s.proposals.rows)
    (hvoting : p.status = .voting)
    (houtcome : resolutionOutcome p tally atTime = some (outcome, reasonCode))
    (h : recordResolution s p tally outcome reasonCode atTime actor = .ok (s', q)) :
    Moves may s s' := by
  obtain ⟨resolutions, hinsert, h⟩ := bind_eq_ok.1 h
  obtain ⟨adapter, hadapter, h⟩ := bind_eq_ok.1 h
  obtain ⟨s₁, hcallback, h⟩ := bind_eq_ok.1 h
  obtain ⟨s₂, happend, h⟩ := bind_eq_ok.1 h
  obtain ⟨rfl, -⟩ := Prod.mk.inj (pure_eq_ok.1 h)
  obtain ⟨-, rfl⟩ := proposalAdapterFor_ok hadapter
  obtain ⟨hs₁, hkept⟩ := syncMemberApplicationResolution_ok hcallback
  have hresolved : Move may s s₁ := by
    refine .resolved p tally outcome reasonCode atTime actor.pk hmem hvoting houtcome ?_ ?_ ?_ ?_ ?_
    · rw [hs₁]
      exact saveProposal_replaces (s := { s with resolutions := resolutions }) hmem rfl
    · rw [hs₁]
      exact (Table.insert_ok hinsert).1
    all_goals
      rw [hs₁]
      rfl
  have hsaved : Kept s (saveProposal { s with resolutions := resolutions }
      { p with status := outcome.status, resolvedAt := some atTime }) := .of_same rfl rfl rfl
  exact (Moves.single hresolved (hsaved.trans hkept)).event happend

theorem resolveLockedProposal_moves {p q : ApprovalProposal} {atTime : Nat} {actor : Member}
    (hmem : p ∈ s.proposals.rows) (hvoting : p.status = .voting)
    (h : resolveLockedProposal s p atTime actor = .ok (s', q)) : Moves may s s' := by
  obtain ⟨tally, -, h⟩ := bind_eq_ok.1 h
  split at h
  · obtain ⟨rfl, -⟩ := Prod.mk.inj (pure_eq_ok.1 h)
    exact .refl
  · rename_i outcome reasonCode houtcome
    exact recordResolution_moves hmem hvoting houtcome h

/-! ## Ballots and executions -/

/-- Only members of the snapshot are eligible. -/
theorem electorateEligibility_snapshot {now : Nat} {p : ApprovalProposal} {m : Member}
    {excluded : Option Nat} {e : Electorate.ElectorateEligibility}
    (h : electorateEligibilityForProposal s now p m excluded = .ok e) (hallowed : e.allowed = true) :
    ∃ r ∈ s.snapshots.rows, r.proposal = p.proposalId ∧ r.member = m.pk := by
  unfold electorateEligibilityForProposal at h
  split at h
  · obtain rfl := Except.ok.inj h
    cases hallowed
  · split at h
    · obtain rfl := Except.ok.inj h
      cases hallowed
    · rename_i hsnapshot
      simpa using hsnapshot

theorem ballotChecks_ok {locked : ApprovalProposal} {voter : Member} {choice : String} {c : Choice}
    (h : ballotChecks env s locked voter choice = .ok c) : locked.status = .voting ∧
      ∃ r ∈ s.snapshots.rows, r.proposal = locked.proposalId ∧ r.member = voter.pk := by
  obtain ⟨hvoting, h⟩ := rejectIf_bind_eq_ok.1 h
  obtain ⟨-, h⟩ := rejectIf_bind_eq_ok.1 h
  split at h
  · cases h
  · obtain ⟨adapter, -, h⟩ := bind_eq_ok.1 h
    obtain ⟨excluded, -, h⟩ := bind_eq_ok.1 h
    obtain ⟨eligibility, heligibility, h⟩ := bind_eq_ok.1 h
    obtain ⟨hallowed, -⟩ := rejectIf_bind_eq_ok.1 h
    exact ⟨not_not.1 hvoting, electorateEligibility_snapshot heligibility (by simpa using hallowed)⟩

theorem castElectorateBallot_moves {proposalId : String} {voter : Member} {choice reason : String}
    {p : ApprovalProposal}
    (h : castElectorateBallot env s proposalId voter choice reason = .ok (s', p)) :
    Moves may s s' := by
  obtain ⟨locked, hlock, h⟩ := bind_eq_ok.1 h
  obtain ⟨c, hchecks, h⟩ := bind_eq_ok.1 h
  obtain ⟨ballots, hinsert, h⟩ := bind_eq_ok.1 h
  obtain ⟨s₁, happend, h⟩ := bind_eq_ok.1 h
  obtain ⟨hmem, -⟩ := lockProposal_ok hlock
  obtain ⟨hvoting, hvoter⟩ := ballotChecks_ok hchecks
  have hballoted : Move may s { s with ballots := ballots } :=
    .balloted locked _ hmem hvoting rfl rfl (Table.insert_ok hinsert).1 hvoter rfl rfl rfl rfl
  have hsame := appendProposalEvent_sameVotes happend
  have hmem₁ : locked ∈ s₁.proposals.rows := by
    rw [hsame.proposals]
    exact hmem
  exact ((Moves.single hballoted (.of_same rfl rfl rfl)).event happend).trans
    (resolveLockedProposal_moves hmem₁ hvoting h)

theorem finalizeElectorateProposal_moves {proposalId : String} {actor : Member}
    {p : ApprovalProposal}
    (h : finalizeElectorateProposal env s proposalId actor = .ok (s', p)) : Moves may s s' := by
  obtain ⟨locked, hlock, h⟩ := bind_eq_ok.1 h
  obtain ⟨adapter, -, h⟩ := bind_eq_ok.1 h
  obtain ⟨_, -, h⟩ := bind_eq_ok.1 h
  split at h
  · obtain ⟨rfl, -⟩ := Prod.mk.inj (pure_eq_ok.1 h)
    exact .refl
  · rename_i hvoting
    obtain ⟨-, h⟩ := rejectIf_bind_eq_ok.1 h
    exact resolveLockedProposal_moves (lockProposal_ok hlock).1 (not_not.1 hvoting) h

/-- The executor writes roles and the application. -/
theorem executeMemberAdmission_ok {p : ApprovalProposal} {actor : Nat}
    {result : List (String × Json)}
    (h : executeMemberAdmission env s p actor = .ok (s', result)) :
    s' = { s with roles := s'.roles, applications := s'.applications } ∧ Kept s s' := by
  obtain ⟨application, -, h⟩ := bind_eq_ok.1 h
  obtain ⟨applicant, -, h⟩ := bind_eq_ok.1 h
  obtain ⟨⟨db, role⟩, hcatalog, h⟩ := bind_eq_ok.1 h
  obtain ⟨-, h⟩ := rejectIf_bind_eq_ok.1 h
  obtain ⟨⟨roles, assignment⟩, hcreate, h⟩ := bind_eq_ok.1 h
  obtain ⟨rfl, -⟩ := Prod.mk.inj (pure_eq_ok.1 h)
  have hmembers : roles.db.members = s.roles.db.members :=
    (createRoleAssignment_members hcreate).1.trans (ensureCatalogRole_covenanter hcatalog).1.members
  have hrow : ∀ m ∈ s.roles.db.members.rows, ∃ m' ∈ (roles.db.members.modify applicant.pk
      (fun m => { m with status := .admitted }) (fun _ => rfl) fun _ => rfl).rows,
        m'.pk = m.pk := by
    intro m hm
    refine ⟨_, List.mem_map_of_mem (hmembers ▸ hm), ?_⟩
    split <;> rfl
  refine ⟨rfl, Kept.trans ?_ (saveApplication_kept fun _ => rfl)⟩
  refine ⟨fun r hr => hr, hrow, fun a ha => ⟨a, ha, rfl, rfl⟩, fun hall a ha k hk => ?_⟩
  obtain ⟨m, hm, hpk⟩ := hall a ha k hk
  obtain ⟨m', hm', hpk'⟩ := hrow m hm
  exact ⟨m', hm', hpk'.trans hpk⟩

/-- Starting an attempt puts its record in the place of an earlier one. -/
theorem startExecution_ok {p : ApprovalProposal} {actor : Nat} {e : ProposalExecutionRecord}
    (h : startExecution env s p actor = .ok (s', e)) :
    s' = { s with executions := s'.executions } ∧ e.proposal = p.proposalId ∧
      RecordReplaces s s' e := by
  unfold startExecution at h
  split at h
  · rename_i hnone
    obtain ⟨executions, hinsert, h⟩ := bind_eq_ok.1 h
    obtain ⟨rfl, rfl⟩ := Prod.mk.inj (pure_eq_ok.1 h)
    refine ⟨rfl, rfl, fun r => ?_⟩
    have hne : ∀ r ∈ s.executions.rows, r.proposal ≠ p.proposalId := by
      simpa [executionOf] using hnone
    rw [(Table.insert_ok hinsert).1, List.mem_append, List.mem_singleton]
    constructor
    · rintro (hr | rfl)
      · exact .inr ⟨hr, hne r hr⟩
      · exact .inl rfl
    · rintro (rfl | hr)
      · exact .inr rfl
      · exact .inl hr.1
  · rename_i existing hexisting
    obtain ⟨rfl, rfl⟩ := Prod.mk.inj (Except.ok.inj h)
    have hproposal : existing.proposal = p.proposalId := by simpa using List.find?_some hexisting
    exact ⟨rfl, hproposal, saveExecution_replaces (List.mem_of_find?_eq_some hexisting) rfl⟩

/-- The applicant of an admission is the member of the application. -/
theorem admissionPreconditions_ok {application : MemberApplication} {actor : Nat} {m : Member}
    (h : admissionPreconditions s application actor = .ok m) :
    m ∈ s.roles.db.members.rows ∧ application.linkedMember = some m.pk := by
  unfold admissionPreconditions at h
  split at h
  · cases h
  · rename_i linkedMember hlinked
    split at h
    · cases h
    · rename_i applicant hget
      obtain ⟨-, h⟩ := rejectIf_bind_eq_ok.1 h
      obtain ⟨-, h⟩ := rejectIf_bind_eq_ok.1 h
      obtain ⟨-, h⟩ := rejectIf_bind_eq_ok.1 h
      obtain rfl := pure_eq_ok.1 h
      obtain ⟨hmem, hpk⟩ := Table.get?_eq_some.1 hget
      exact ⟨hmem, hlinked.trans (congrArg some hpk.symm)⟩

/-- The end of an attempt saves the proposal, the record and an event. -/
theorem saveExecution_moves {e₀ e : ProposalExecutionRecord} {p q : ApprovalProposal} {now : Nat}
    {eventType action : String} {actor : Member} {s₁ s₂ : ProposalState rt}
    (hstart : s₁ = { s with executions := s₁.executions }) (hproposal : e₀.proposal = p.proposalId)
    (hrecord : RecordReplaces s s₁ e₀) (hsame : SameVotes s₁ s₂) (hkept : Kept s₁ s₂)
    (hmem : p ∈ s.proposals.rows) (hstrategy : p.strategyType = .electorate)
    (hallowed : may p.proposalId) (hexecutable : p.status = .approved ∨ p.status = .executionFailed)
    (hended : q.status = .executed ∨ q.status = .executionFailed)
    (hq : q = { p with status := q.status, executedAt := q.executedAt })
    (he : e = { e₀ with
      status := e.status
      publicErrorCode := e.publicErrorCode
      resultData := e.resultData
      completedAt := e.completedAt })
    (hsucceeded : e.status = .succeeded ↔ q.status = .executed)
    (h : appendProposalEvent (saveProposal (saveExecution s₂ e) q) now q eventType action actor =
      .ok s') : Moves may s s' := by
  have hproposals : s₂.proposals = s.proposals := by rw [hsame.proposals, hstart]
  have hmem₂ : p ∈ s₂.proposals.rows := by
    rw [hproposals]
    exact hmem
  have he₀ : e₀ ∈ s₂.executions.rows := by
    rw [hsame.executions]
    exact (hrecord e₀).2 (.inl rfl)
  have hsave : Replaces s (saveProposal (saveExecution s₂ e) q) q := by
    have h₂ : Replaces (saveExecution s₂ e) (saveProposal (saveExecution s₂ e) q) q :=
      saveProposal_replaces hmem₂ (by rw [hq])
    intro r
    rw [h₂ r, ← hproposals]
    rfl
  have hrecord₂ : RecordReplaces s (saveProposal (saveExecution s₂ e) q) e := by
    have h₂ : RecordReplaces s₁ (saveExecution s₂ e) e := by
      intro r
      rw [saveExecution_replaces he₀ (by rw [he]) r, hsame.executions]
    exact hrecord.trans h₂ (by rw [he])
  have hattempted : Move may s (saveProposal (saveExecution s₂ e) q) :=
    .attempted p q e hmem hstrategy hallowed hexecutable hended (by rw [hq]) hsave
      (hsame.snapshots.trans (by rw [hstart])) (hsame.ballots.trans (by rw [hstart]))
      (hsame.resolutions.trans (by rw [hstart])) (by rw [he]; exact hproposal) hsucceeded hrecord₂
  have hstarted : Kept s s₁ := by
    rw [hstart]
    exact .of_same rfl rfl rfl
  have hall : Kept s (saveProposal (saveExecution s₂ e) q) :=
    (hstarted.trans hkept).trans (.of_same rfl rfl rfl)
  exact (Moves.single hattempted hall).event h

/-- A successful call of `execute_electorate_proposal`: an earlier success is reported, or the
executor fails with a `DomainError`, or it returns. -/
inductive Executed (env : ProposalEnv) (s s' : ProposalState rt) (proposalId : String)
    (actor : Member) (e : ProposalExecutionRecord) : Prop
  | before (same : s' = s) (mem : e ∈ s.executions.rows) (proposal : e.proposal = proposalId)
    (succeeded : e.status = .succeeded)
  | attempted (p q : ApprovalProposal) (e₀ : ProposalExecutionRecord) (s₁ s₂ : ProposalState rt)
    (eventType action : String) (mem : p ∈ s.proposals.rows) (pk : p.proposalId = proposalId)
    (strategy : p.strategyType = .electorate)
    (executable : p.status = .approved ∨ p.status = .executionFailed)
    (ended : q = { p with status := q.status, executedAt := q.executedAt })
    (record : e = { e₀ with
      status := e.status
      publicErrorCode := e.publicErrorCode
      resultData := e.resultData
      completedAt := e.completedAt })
    (started : startExecution env s p actor.pk = .ok (s₁, e₀))
    (tried : s₂ = s₁ ∧ e.status = .failed ∧ q.status = .executionFailed ∨
      (∃ result, executeMemberAdmission env s₁ p actor.pk = .ok (s₂, result)) ∧
        e.status = .succeeded ∧ q.status = .executed)
    (event : appendProposalEvent (saveProposal (saveExecution s₂ e) q) env.now q eventType action
      actor = .ok s')

theorem executeElectorateProposal_ok {proposalId : String} {actor : Member}
    {e : ProposalExecutionRecord}
    (h : executeElectorateProposal env s proposalId actor = .ok (s', e)) :
    Executed env s s' proposalId actor e := by
  obtain ⟨locked, hlock, h⟩ := bind_eq_ok.1 h
  obtain ⟨hmem, hid⟩ := lockProposal_ok hlock
  obtain ⟨hstrategy, h⟩ := rejectIf_bind_eq_ok.1 h
  obtain ⟨adapter, hadapter, h⟩ := bind_eq_ok.1 h
  obtain ⟨_, -, h⟩ := bind_eq_ok.1 h
  obtain ⟨-, h⟩ := rejectIf_bind_eq_ok.1 h
  split at h
  · rename_i existing hexisting
    obtain ⟨rfl, rfl⟩ := Prod.mk.inj (pure_eq_ok.1 h)
    obtain ⟨hfind, hsucceeded⟩ := Option.filter_eq_some_iff.1 hexisting
    have hproposal : existing.proposal = locked.proposalId := by
      simpa using List.find?_some hfind
    exact .before rfl (List.mem_of_find?_eq_some hfind) (hproposal.trans hid)
      (of_decide_eq_true hsucceeded)
  · obtain ⟨hstatus, h⟩ := rejectIf_bind_eq_ok.1 h
    obtain ⟨⟨s₁, e₀⟩, hstart, h⟩ := bind_eq_ok.1 h
    obtain ⟨-, rfl⟩ := proposalAdapterFor_ok hadapter
    have hexecutable : locked.status = .approved ∨ locked.status = .executionFailed := by
      by_contra hne
      exact hstatus ⟨fun heq => hne (.inl heq), fun heq => hne (.inr heq)⟩
    dsimp only at h
    split at h
    · obtain ⟨s₂, happend, h⟩ := bind_eq_ok.1 h
      obtain ⟨rfl, rfl⟩ := Prod.mk.inj (pure_eq_ok.1 h)
      exact .attempted locked _ e₀ s₁ s₁ _ _ hmem hid (not_not.1 hstrategy) hexecutable rfl rfl
        hstart (.inl ⟨rfl, rfl, rfl⟩) happend
    · cases h
    · rename_i s₂ result hexecutor
      obtain ⟨s₃, happend, h⟩ := bind_eq_ok.1 h
      obtain ⟨rfl, rfl⟩ := Prod.mk.inj (pure_eq_ok.1 h)
      exact .attempted locked _ e₀ s₁ s₂ _ _ hmem hid (not_not.1 hstrategy) hexecutable rfl rfl
        hstart (.inr ⟨⟨result, hexecutor⟩, rfl, rfl⟩) happend

theorem executeElectorateProposal_moves {proposalId : String} {actor : Member}
    {e : ProposalExecutionRecord}
    (h : executeElectorateProposal env s proposalId actor = .ok (s', e)) (hmay : may proposalId) :
    Moves may s s' := by
  cases executeElectorateProposal_ok h with
  | before same =>
    subst same
    exact .refl
  | attempted p q e₀ s₁ s₂ eventType action hmem hpk hstrategy hexecutable hq he hstart htried
      hevent =>
    obtain ⟨hs₁, hproposal, hrecord⟩ := startExecution_ok hstart
    rcases htried with ⟨rfl, hfailed, hst⟩ | ⟨⟨result, hexecutor⟩, hsucceeded, hst⟩
    · exact saveExecution_moves hs₁ hproposal hrecord ⟨rfl, rfl, rfl, rfl, rfl⟩
        (.of_same rfl rfl rfl) hmem hstrategy (hpk ▸ hmay) hexecutable (.inr hst) hq he
        (by rw [hfailed, hst]; simp) hevent
    · obtain ⟨hs₂, hkept⟩ := executeMemberAdmission_ok hexecutor
      have hsame : SameVotes s₁ s₂ := by
        rw [hs₂]
        exact ⟨rfl, rfl, rfl, rfl, rfl⟩
      exact saveExecution_moves hs₁ hproposal hrecord hsame hkept hmem hstrategy (hpk ▸ hmay) hexecutable
        (.inl hst) hq he (by rw [hsucceeded, hst]; simp) hevent

/-- The step executes the proposal. -/
def executes (proposalId : String) : ProposalStep rt → Bool
  | .call _ (.execute id _) => id = proposalId
  | _ => false

/-- **Services.** Every step of a run is a sequence of moves, and attempts the execution it is told
to attempt. -/
theorem proposalStep_moves {step : ProposalStep rt} (h : proposalStep s step = .ok s') :
    Moves (fun proposalId => executes proposalId step = true) s s' := by
  cases step with
  | change roles =>
    rw [proposalStep] at h
    split at h
    · rename_i hmembers
      obtain rfl := Except.ok.inj h
      refine .single (.idle rfl rfl rfl rfl rfl) ?_
      have hrow : ∀ m ∈ s.roles.db.members.rows, ∃ m' ∈ roles.db.members.rows, m'.pk = m.pk := by
        simpa [keepsMembers] using hmembers
      refine ⟨fun r hr => hr, hrow, fun a ha => ⟨a, ha, rfl, rfl⟩, fun hall a ha k hk => ?_⟩
      obtain ⟨m, hm, hpk⟩ := hall a ha k hk
      obtain ⟨m', hm', hpk'⟩ := hrow m hm
      exact ⟨m', hm', hpk'.trans hpk⟩
    · cases h
  | call env c =>
    cases c with
    | create args =>
      obtain ⟨⟨s₁, p⟩, hcall, h⟩ := bind_eq_ok.1 h
      obtain rfl := pure_eq_ok.1 h
      exact createElectorateProposal_moves hcall
    | attach proposalId rule =>
      obtain ⟨⟨s₁, p⟩, hcall, h⟩ := bind_eq_ok.1 h
      obtain rfl := pure_eq_ok.1 h
      exact attachRuleVersion_moves hcall
    | activate rule => exact activateWaitingProposalsForRule_moves h
    | start proposalId =>
      obtain ⟨⟨s₁, p⟩, hcall, h⟩ := bind_eq_ok.1 h
      obtain rfl := pure_eq_ok.1 h
      exact startElectorateVoting_moves hcall
    | cast proposalId voter choice reason =>
      obtain ⟨⟨s₁, p⟩, hcall, h⟩ := bind_eq_ok.1 h
      obtain rfl := pure_eq_ok.1 h
      exact castElectorateBallot_moves hcall
    | finalize proposalId actor =>
      obtain ⟨⟨s₁, p⟩, hcall, h⟩ := bind_eq_ok.1 h
      obtain rfl := pure_eq_ok.1 h
      exact finalizeElectorateProposal_moves hcall
    | execute proposalId actor =>
      obtain ⟨⟨s₁, e⟩, hcall, h⟩ := bind_eq_ok.1 h
      obtain rfl := pure_eq_ok.1 h
      exact executeElectorateProposal_moves hcall (decide_eq_true rfl)
    | publish rule =>
      obtain ⟨rules, hinsert, h⟩ := bind_eq_ok.1 h
      obtain rfl := pure_eq_ok.1 h
      refine .single (.idle rfl rfl rfl rfl rfl) ⟨fun r hr => ?_, fun m hm => ⟨m, hm, rfl⟩,
        fun a ha => ⟨a, ha, rfl, rfl⟩, id⟩
      exact (Table.insert_ok hinsert).1 ▸ List.mem_append_left _ hr
    | submitApplication application =>
      obtain ⟨hlinked, h⟩ := rejectIf_bind_eq_ok.1 h
      obtain ⟨applications, hinsert, h⟩ := bind_eq_ok.1 h
      obtain rfl := pure_eq_ok.1 h
      have hrows := (Table.insert_ok hinsert).1
      refine .single (.idle rfl rfl rfl rfl rfl) ⟨fun r hr => hr, fun m hm => ⟨m, hm, rfl⟩,
        fun a ha => ⟨a, hrows ▸ List.mem_append_left _ ha, rfl, rfl⟩, fun hall a ha => ?_⟩
      rcases List.mem_append.1 (hrows ▸ ha) with ha | ha
      · exact hall a ha
      · obtain rfl := List.mem_singleton.1 ha
        intro k hk
        rw [hk] at hlinked
        obtain ⟨m, hm⟩ : ∃ m, s.roles.db.members.get? k = some m := by
          simpa [Option.ne_none_iff_exists'] using hlinked
        exact ⟨m, Table.get?_eq_some.1 hm⟩

end LiveOs.Proposals
