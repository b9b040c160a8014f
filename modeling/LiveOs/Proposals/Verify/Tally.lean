import LiveOs.Lib.RevisionLog
import LiveOs.Proposals.Verify.Lifecycle

/-!
# Counting votes

The tally reads the append-only ballots of a proposal through the highest revision of each voter and
filters them by eligibility. It comes to one count over the electors: those who are eligible now,
each with the choice of the last ballot.
-/

namespace LiveOs.Proposals

open Lib EventLedger Roles

variable {rt : Runtime} {env : ProposalEnv} {s s' : ProposalState rt}

/-! ## Votes -/

/-- The ballots on a proposal, in the order they were cast. -/
def ballotLog (s : ProposalState rt) (proposalId : String) : List ProposalBallot :=
  s.ballots.rows.filter fun b => b.proposal = proposalId

/-- The votes on a proposal: who chose what, in the order of the ballots. -/
def votesOf (s : ProposalState rt) (proposalId : String) : List (Nat × Choice) :=
  (ballotLog s proposalId).map fun b => (b.voter, b.choice)

/-- The choices of one voter, in order. -/
def choicesOf (votes : List (Nat × Choice)) (voter : Nat) : List Choice :=
  (RevisionLog.entriesOf Prod.fst votes voter).map Prod.snd

/-- The choice of the last ballot of a voter. -/
def lastChoice (votes : List (Nat × Choice)) (voter : Nat) : Option Choice :=
  (choicesOf votes voter).getLast?

/-- The members of the elector snapshot. -/
def electorsOf (s : ProposalState rt) (proposalId : String) : List Nat :=
  (snapshotsOf s proposalId).map ProposalElectorSnapshot.member

/-- The count over the electors who are eligible, each with the choice of the last ballot. -/
def tallyOf (electors : List Nat) (eligible : Nat → Bool) (choice : Nat → Option Choice) :
    ProposalTally where
  eligibleCount := electors.length
  participationCount := electors.countP fun v => eligible v && (choice v).isSome
  approveCount := electors.countP fun v => eligible v && choice v = some .approve
  rejectCount := electors.countP fun v => eligible v && choice v = some .reject
  abstainCount := electors.countP fun v => eligible v && choice v = some .abstain

theorem tallyOf_participation (electors : List Nat) (eligible : Nat → Bool)
    (choice : Nat → Option Choice) :
    let t := tallyOf electors eligible choice
    t.participationCount = t.approveCount + t.rejectCount + t.abstainCount ∧
      t.participationCount ≤ t.eligibleCount := by
  refine ⟨?_, List.countP_le_length⟩
  simp only [tallyOf]
  induction electors with
  | nil => rfl
  | cons v electors ih =>
    simp only [List.countP_cons, ih]
    cases eligible v with
    | false => simp
    | true =>
      rcases choice v with _ | c
      · simp
      · cases c <;> simp <;> omega

/-! ## Ballots as a numbered log -/

theorem ballotsOf_eq (proposalId : String) (voter : Nat) :
    ballotsOf s.ballots.rows proposalId voter =
      RevisionLog.entriesOf ProposalBallot.voter (ballotLog s proposalId) voter := by
  rw [ballotsOf, RevisionLog.entriesOf, ballotLog, List.filter_filter]
  exact List.filter_congr fun b _ => Bool.and_comm _ _

theorem latestRevision_eq (proposalId : String) (voter : Nat) :
    latestRevision s.ballots.rows proposalId voter = RevisionLog.highest ProposalBallot.voter
      ProposalBallot.revision (ballotLog s proposalId) voter := by
  rw [latestRevision, ballotsOf_eq, RevisionLog.highest]

/-- The ballots of every voter on every proposal have the revisions 1, 2, ... -/
def RevisionsNumbered (s : ProposalState rt) : Prop := ∀ proposalId,
  RevisionLog.Numbered ProposalBallot.voter ProposalBallot.revision (ballotLog s proposalId)

theorem candidateBallots_perm (proposalId : String) :
    (candidateBallots s.ballots.rows proposalId).Perm
      ((ballotLog s proposalId).filter fun b => b.revision = RevisionLog.highest
        ProposalBallot.voter ProposalBallot.revision (ballotLog s proposalId) b.voter) := by
  refine (List.perm_insertionSort _ _).trans ?_
  rw [ballotLog, List.filter_filter]
  refine List.Perm.of_eq (List.filter_congr fun b _ => ?_)
  rw [latestRevision_eq, Bool.and_comm, ballotLog]

theorem ballotLog_nodup (proposalId : String) : (ballotLog s proposalId).Nodup :=
  (List.Nodup.of_map _ s.ballots.pkUnique).filter _

theorem electorsOf_nodup (proposalId : String) : (electorsOf s proposalId).Nodup := by
  have hrows : (snapshotsOf s proposalId).Nodup :=
    (List.Nodup.of_map _ s.snapshots.pkUnique).filter _
  refine hrows.map_on fun r hr r' hr' heq => ?_
  simp only [snapshotsOf, List.mem_filter, decide_eq_true_eq] at hr hr'
  exact s.snapshots.eq_of_pk hr.1 hr'.1 (Prod.ext (hr.2.trans hr'.2.symm) heq)

theorem choicesOf_votesOf (proposalId : String) (voter : Nat) :
    choicesOf (votesOf s proposalId) voter =
      (RevisionLog.entriesOf ProposalBallot.voter (ballotLog s proposalId) voter).map
        ProposalBallot.choice := by
  rw [choicesOf, votesOf, RevisionLog.entriesOf, List.filter_map, List.map_map]
  rfl

theorem lastChoice_votesOf (proposalId : String) (voter : Nat) :
    lastChoice (votesOf s proposalId) voter =
      (RevisionLog.last? ProposalBallot.voter (ballotLog s proposalId) voter).map
        ProposalBallot.choice := by
  rw [lastChoice, choicesOf_votesOf, RevisionLog.last?_map]

/-! ## Eligibility -/

/-- Whether a member may vote now; the evaluation of the rule may raise. -/
def eligibilityOf (s : ProposalState rt) (now : Nat) (p : ApprovalProposal) (excluded : Option Nat)
    (voter : Nat) : Except Error Bool := do
  let m ← memberRow s voter
  let eligibility ← electorateEligibilityForProposal s now p m excluded
  return eligibility.allowed

/-- The member is eligible now. -/
def isEligible (s : ProposalState rt) (now : Nat) (p : ApprovalProposal) (excluded : Option Nat)
    (voter : Nat) : Bool :=
  (eligibilityOf s now p excluded voter).toOption = some true

/-- The member whom the adapter excludes from the vote. -/
def excludedBy (s : ProposalState rt) (p : ApprovalProposal) : Except Error (Option Nat) := do
  let adapter ← (proposalAdapterFor p.proposalType : Except Error (ProposalTypeAdapter rt))
  adapter.excludedMemberId s p

theorem eligibilityOf_true {now : Nat} {p : ApprovalProposal} {excluded : Option Nat} {voter : Nat}
    (h : isEligible s now p excluded voter = true) : voter ∈ electorsOf s p.proposalId := by
  have hok : eligibilityOf s now p excluded voter = .ok true := by
    rw [isEligible, decide_eq_true_iff] at h
    cases heq : eligibilityOf s now p excluded voter with
    | error e =>
      rw [heq] at h
      cases h
    | ok a =>
      rw [heq] at h
      exact congrArg Except.ok (Option.some.inj h)
  obtain ⟨m, hm, hok⟩ := bind_eq_ok.1 hok
  obtain ⟨e, he, hok⟩ := bind_eq_ok.1 hok
  obtain ⟨r, hr, hproposal, hmember⟩ := electorateEligibility_snapshot he (pure_eq_ok.1 hok)
  obtain ⟨-, hpk⟩ := Table.get?_eq_some.1 (memberRow_ok hm)
  refine List.mem_map.2 ⟨r, ?_, hmember.trans hpk⟩
  exact List.mem_filter.2 ⟨hr, decide_eq_true hproposal⟩

/-- The ballots that count are those of the eligible voters, if every voter can be decided on. -/
theorem eligibleBallots_eq_ok {now : Nat} {p : ApprovalProposal} {excluded : Option Nat}
    {ballots counted : List ProposalBallot} :
    eligibleBallots s now p excluded ballots = .ok counted ↔
      (∀ b ∈ ballots, ∃ a, eligibilityOf s now p excluded b.voter = .ok a) ∧
        counted = ballots.filter fun b => isEligible s now p excluded b.voter := by
  induction ballots generalizing counted with
  | nil =>
    rw [eligibleBallots]
    constructor
    · intro h
      exact ⟨fun b hb => absurd hb List.not_mem_nil, (Except.ok.inj h).symm⟩
    · rintro ⟨-, rfl⟩
      rfl
  | cons b ballots ih =>
    have hhead : eligibleBallots s now p excluded (b :: ballots) = do
        let a ← eligibilityOf s now p excluded b.voter
        let rest ← eligibleBallots s now p excluded ballots
        return if a then b :: rest else rest := by
      rw [eligibleBallots, eligibilityOf, memberRow]
      cases s.roles.db.members.get? b.voter with
      | none => rfl
      | some m =>
        dsimp only
        rw [ok_bind]
        cases electorateEligibilityForProposal s now p m excluded <;> rfl
    rw [hhead, bind_eq_ok, List.forall_mem_cons]
    constructor
    · rintro ⟨a, ha, h⟩
      obtain ⟨rest, hrest, h⟩ := bind_eq_ok.1 h
      obtain ⟨hall, rfl⟩ := ih.1 hrest
      refine ⟨⟨⟨a, ha⟩, hall⟩, ?_⟩
      rw [← pure_eq_ok.1 h, List.filter_cons, isEligible, ha]
      cases a <;> rfl
    · rintro ⟨⟨⟨a, ha⟩, hall⟩, rfl⟩
      refine ⟨a, ha, bind_eq_ok.2 ⟨_, ih.2 ⟨hall, rfl⟩, pure_eq_ok.2 ?_⟩⟩
      rw [List.filter_cons, isEligible, ha]
      cases a <;> rfl

/-! ## The tally -/

/-- The tally is the count over the electors, and every voter can be decided on. -/
def Counted (s : ProposalState rt) (now : Nat) (p : ApprovalProposal) (t : ProposalTally) : Prop :=
  ∃ excluded, excludedBy s p = .ok excluded ∧
    (∀ v, (lastChoice (votesOf s p.proposalId) v).isSome →
      ∃ a, eligibilityOf s now p excluded v = .ok a) ∧
    t = tallyOf (electorsOf s p.proposalId) (isEligible s now p excluded)
      (lastChoice (votesOf s p.proposalId))

/-- The counted ballots with a choice, elector by elector. -/
theorem length_candidates (hnumbered : RevisionsNumbered s) (now : Nat) (p : ApprovalProposal)
    (excluded : Option Nat) (test : Choice → Bool) :
    (((candidateBallots s.ballots.rows p.proposalId).filter fun b =>
        isEligible s now p excluded b.voter).filter fun b => test b.choice).length =
      (electorsOf s p.proposalId).countP fun v => isEligible s now p excluded v &&
        (lastChoice (votesOf s p.proposalId) v).any test := by
  have hperm := candidateBallots_perm (s := s) p.proposalId
  rw [List.filter_filter, (hperm.filter _).length_eq,
    (hnumbered p.proposalId).length_filter (ballotLog_nodup _) (electorsOf_nodup p.proposalId)]
  · refine List.countP_congr fun v _ => ?_
    rw [lastChoice_votesOf]
    cases hlast : RevisionLog.last? ProposalBallot.voter (ballotLog s p.proposalId) v with
    | none => simp
    | some b =>
      obtain ⟨-, rfl⟩ := RevisionLog.mem_of_last? hlast
      simp [and_comm]
  · intro b _ hb
    exact eligibilityOf_true (Bool.and_eq_true_iff.1 hb).2

theorem decided_candidates (hnumbered : RevisionsNumbered s) (proposalId : String)
    (decided : Nat → Prop) : (∀ b ∈ candidateBallots s.ballots.rows proposalId, decided b.voter) ↔
      ∀ v, (lastChoice (votesOf s proposalId) v).isSome → decided v := by
  have hmem : ∀ b, b ∈ candidateBallots s.ballots.rows proposalId ↔
      RevisionLog.last? ProposalBallot.voter (ballotLog s proposalId) b.voter = some b := by
    intro b
    rw [(candidateBallots_perm proposalId).mem_iff, List.mem_filter, decide_eq_true_iff,
      (hnumbered proposalId).last?_iff]
  constructor
  · intro h v hv
    rw [lastChoice_votesOf, Option.isSome_map] at hv
    obtain ⟨b, hb⟩ := Option.isSome_iff_exists.1 hv
    obtain ⟨-, rfl⟩ := RevisionLog.mem_of_last? hb
    exact h b ((hmem b).2 hb)
  · intro h b hb
    refine h b.voter ?_
    rw [lastChoice_votesOf, (hmem b).1 hb]
    rfl

/-- **The tally.** It is the count over the electors exactly when every voter can be decided on, and
otherwise it raises. -/
theorem proposalTally_iff (hnumbered : RevisionsNumbered s) {now : Nat} {p : ApprovalProposal}
    {t : ProposalTally} : proposalTally s now p = .ok t ↔ Counted s now p t := by
  have hcount : ∀ excluded, (⟨(snapshotsOf s p.proposalId).length,
      ((candidateBallots s.ballots.rows p.proposalId).filter fun b =>
        isEligible s now p excluded b.voter).length,
      countChoice .approve ((candidateBallots s.ballots.rows p.proposalId).filter fun b =>
        isEligible s now p excluded b.voter),
      countChoice .reject ((candidateBallots s.ballots.rows p.proposalId).filter fun b =>
        isEligible s now p excluded b.voter),
      countChoice .abstain ((candidateBallots s.ballots.rows p.proposalId).filter fun b =>
        isEligible s now p excluded b.voter)⟩ : ProposalTally) =
      tallyOf (electorsOf s p.proposalId) (isEligible s now p excluded)
        (lastChoice (votesOf s p.proposalId)) := by
    intro excluded
    have hall := length_candidates hnumbered now p excluded fun _ => true
    rw [List.filter_true] at hall
    have hone : ∀ c, countChoice c ((candidateBallots s.ballots.rows p.proposalId).filter fun b =>
        isEligible s now p excluded b.voter) = (electorsOf s p.proposalId).countP fun v =>
          isEligible s now p excluded v && lastChoice (votesOf s p.proposalId) v = some c := by
      intro c
      rw [countChoice, length_candidates hnumbered now p excluded fun d => decide (d = c)]
      refine List.countP_congr fun v _ => ?_
      cases lastChoice (votesOf s p.proposalId) v <;> simp
    have hsome : ∀ choice : Option Choice, (choice.any fun _ => true) = choice.isSome := by
      intro choice
      cases choice <;> rfl
    simp only [hall, hone, hsome, tallyOf, electorsOf, List.length_map]
  have hdef : proposalTally s now p = do
      let excluded ← excludedBy s p
      let latestBallots ←
        eligibleBallots s now p excluded (candidateBallots s.ballots.rows p.proposalId)
      return ⟨(snapshotsOf s p.proposalId).length, latestBallots.length,
        countChoice .approve latestBallots, countChoice .reject latestBallots,
        countChoice .abstain latestBallots⟩ := by
    rw [proposalTally, excludedBy]
    cases (proposalAdapterFor p.proposalType : Except Error (ProposalTypeAdapter rt)) <;> rfl
  rw [hdef, bind_eq_ok, Counted]
  refine exists_congr fun excluded => and_congr_right fun _ => ?_
  rw [bind_eq_ok, ← decided_candidates hnumbered p.proposalId fun v =>
    ∃ a, eligibilityOf s now p excluded v = .ok a]
  constructor
  · rintro ⟨latestBallots, hballots, h⟩
    obtain ⟨hdecided, rfl⟩ := eligibleBallots_eq_ok.1 hballots
    exact ⟨hdecided, (pure_eq_ok.1 h).symm.trans (hcount excluded)⟩
  · rintro ⟨hdecided, rfl⟩
    exact ⟨_, eligibleBallots_eq_ok.2 ⟨hdecided, rfl⟩, pure_eq_ok.2 (hcount excluded)⟩

/-! ## Ballots of a run -/

theorem Move.revisionsNumbered {may : String → Prop} (h : RevisionsNumbered s)
    (hmove : Move may s s') : RevisionsNumbered s' := by
  have hkeep : s'.ballots = s.ballots → RevisionsNumbered s' := by
    intro hballots proposalId
    rw [ballotLog, hballots]
    exact h proposalId
  cases hmove with
  | idle _ _ hballots => exact hkeep hballots
  | created _ _ _ _ _ _ hballots => exact hkeep hballots
  | attached _ _ _ _ _ _ hballots => exact hkeep hballots
  | started _ _ _ _ _ _ _ _ _ hballots => exact hkeep hballots
  | resolved _ _ _ _ _ _ _ _ _ _ _ _ hballots => exact hkeep hballots
  | attempted _ _ _ _ _ _ _ _ _ _ _ hballots => exact hkeep hballots
  | balloted p b hmem hvoting hproposal hrevision hballots hvoter hproposals hsnapshots
      hresolutions hexecutions =>
    intro proposalId
    by_cases hid : b.proposal = proposalId
    · have hlog : ballotLog s' proposalId = ballotLog s proposalId ++ [b] := by
        simp [ballotLog, hballots, hid]
      rw [hlog]
      refine (h proposalId).append ?_
      rw [hrevision, latestRevision_eq, ← hproposal, hid]
    · have hlog : ballotLog s' proposalId = ballotLog s proposalId := by
        simp [ballotLog, hballots, hid]
      rw [hlog]
      exact h proposalId

theorem proposalStep_revisionsNumbered {step : ProposalStep rt} (h : RevisionsNumbered s)
    (hstep : proposalStep s step = .ok s') : RevisionsNumbered s' :=
  (proposalStep_moves hstep).invariant (fun _ _ h hmove _ => hmove.revisionsNumbered h) h

theorem NoElectorate.revisionsNumbered (h : NoElectorate s) : RevisionsNumbered s := by
  intro proposalId
  rw [ballotLog, h.ballots]
  exact RevisionLog.numbered_nil

theorem run_revisionsNumbered (h : RevisionsNumbered s) (steps : List (ProposalStep rt)) :
    RevisionsNumbered (runCalls proposalStep s steps) :=
  runCalls_invariant (fun _ _ _ h hstep => proposalStep_revisionsNumbered h hstep) h steps

/-! ## Voting -/

/-- A step of a vote: a ballot on the proposal, or a change of members, roles and qualifications. -/
inductive VotesOn (proposalId : String) : ProposalStep rt → Prop
  | cast (env : ProposalEnv) (voter : Member) (choice reason : String) :
    VotesOn proposalId (.call env (.cast proposalId voter choice reason))
  | change (roles : RoleState rt) : VotesOn proposalId (.change roles)

/-- The vote that a step casts. -/
def castVote : ProposalStep rt → Option (Nat × Choice)
  | .call _ (.cast _ voter choice _) => (Choice.ofValue choice).map fun c => (voter.pk, c)
  | _ => none

/-- The votes were added, and nothing else that the tally reads has changed besides the roles. -/
structure Voted (s s' : ProposalState rt) (proposalId : String) (votes : List (Nat × Choice)) :
    Prop where
  votes : votesOf s' proposalId = votesOf s proposalId ++ votes
  proposals : s'.proposals = s.proposals
  applications : s'.applications = s.applications
  rules : s'.rules = s.rules
  snapshots : s'.snapshots = s.snapshots

theorem ballotChecks_choice {locked : ApprovalProposal} {voter : Member} {choice : String}
    {c : Choice} (h : ballotChecks env s locked voter choice = .ok c) :
    Choice.ofValue choice = some c := by
  obtain ⟨-, h⟩ := rejectIf_bind_eq_ok.1 h
  obtain ⟨-, h⟩ := rejectIf_bind_eq_ok.1 h
  split at h
  · cases h
  · rename_i d hchoice
    obtain ⟨adapter, -, h⟩ := bind_eq_ok.1 h
    obtain ⟨excluded, -, h⟩ := bind_eq_ok.1 h
    obtain ⟨eligibility, -, h⟩ := bind_eq_ok.1 h
    obtain ⟨-, h⟩ := rejectIf_bind_eq_ok.1 h
    rw [hchoice, pure_eq_ok.1 h]

theorem recordResolution_closes {p q : ApprovalProposal} {tally : ProposalTally} {outcome : Outcome}
    {reasonCode : String} {atTime : Nat} {actor : Member}
    (h : recordResolution s p tally outcome reasonCode atTime actor = .ok (s', q))
    (hmem : p ∈ s.proposals.rows) :
    ∃ q ∈ s'.proposals.rows, q.proposalId = p.proposalId ∧ q.status ≠ .voting := by
  obtain ⟨resolutions, -, h⟩ := bind_eq_ok.1 h
  obtain ⟨adapter, hadapter, h⟩ := bind_eq_ok.1 h
  obtain ⟨s₁, hcallback, h⟩ := bind_eq_ok.1 h
  obtain ⟨s₂, happend, h⟩ := bind_eq_ok.1 h
  obtain ⟨rfl, -⟩ := Prod.mk.inj (pure_eq_ok.1 h)
  obtain ⟨-, rfl⟩ := proposalAdapterFor_ok hadapter
  obtain ⟨hs₁, -⟩ := syncMemberApplicationResolution_ok hcallback
  have hreplaces : Replaces { s with resolutions := resolutions }
      (saveProposal { s with resolutions := resolutions }
        { p with status := outcome.status, resolvedAt := some atTime })
      { p with status := outcome.status, resolvedAt := some atTime } :=
    saveProposal_replaces hmem rfl
  refine ⟨{ p with status := outcome.status, resolvedAt := some atTime }, ?_, rfl, ?_⟩
  · rw [(appendProposalEvent_sameVotes happend).proposals, hs₁]
    exact (hreplaces _).2 (.inl rfl)
  · cases outcome <;> simp [Outcome.status]

/-- A ballot that leaves the proposal open adds its vote; another one closes the vote. -/
theorem castElectorateBallot_voted {proposalId : String} {voter : Member} {choice reason : String}
    {q : ApprovalProposal}
    (h : castElectorateBallot env s proposalId voter choice reason = .ok (s', q)) :
    ∃ c, Choice.ofValue choice = some c ∧ (Voted s s' proposalId [(voter.pk, c)] ∨
      ∃ q ∈ s'.proposals.rows, q.proposalId = proposalId ∧ q.status ≠ .voting) := by
  obtain ⟨locked, hlock, h⟩ := bind_eq_ok.1 h
  obtain ⟨c, hchecks, h⟩ := bind_eq_ok.1 h
  obtain ⟨ballots, hinsert, h⟩ := bind_eq_ok.1 h
  obtain ⟨s₁, happend, h⟩ := bind_eq_ok.1 h
  obtain ⟨hmem, hid⟩ := lockProposal_ok hlock
  obtain ⟨events, rfl⟩ := appendProposalEvent_ok happend
  refine ⟨c, ballotChecks_choice hchecks, ?_⟩
  obtain ⟨tally, -, h⟩ := bind_eq_ok.1 h
  split at h
  · obtain ⟨rfl, -⟩ := Prod.mk.inj (pure_eq_ok.1 h)
    refine .inl ⟨?_, rfl, rfl, rfl, rfl⟩
    simp only [votesOf, ballotLog, (Table.insert_ok hinsert).1, List.filter_append,
      List.map_append]
    simp [newBallot, hid]
  · obtain ⟨q, hq, hqid, hclosed⟩ := recordResolution_closes h hmem
    exact .inr ⟨q, hq, hqid.trans hid, hclosed⟩

/-- The steps of a vote that is still open have added their votes. -/
theorem votingRun_voted {p : ApprovalProposal} {steps : List (ProposalStep rt)}
    (hsteps : ∀ step ∈ steps, VotesOn p.proposalId step)
    (hrun : steps.foldlM proposalStep s = .ok s') (hmem : p ∈ s'.proposals.rows)
    (hvoting : p.status = .voting) :
    Voted s s' p.proposalId (steps.filterMap castVote) := by
  induction steps generalizing s with
  | nil =>
    obtain rfl := pure_eq_ok.1 hrun
    exact ⟨(List.append_nil _).symm, rfl, rfl, rfl, rfl⟩
  | cons step steps ih =>
    obtain ⟨hstep, hsteps⟩ := List.forall_mem_cons.1 hsteps
    rw [List.foldlM_cons] at hrun
    obtain ⟨s₁, hfirst, hrun⟩ := bind_eq_ok.1 hrun
    have hrest := ih hsteps hrun
    cases hstep with
    | change roles =>
      rw [proposalStep] at hfirst
      split at hfirst
      · obtain rfl := Except.ok.inj hfirst
        exact ⟨hrest.votes, hrest.proposals, hrest.applications, hrest.rules, hrest.snapshots⟩
      · cases hfirst
    | cast env voter choice reason =>
      obtain ⟨⟨s₂, q⟩, hcast, hfirst⟩ := bind_eq_ok.1 hfirst
      obtain rfl := pure_eq_ok.1 hfirst
      obtain ⟨c, hchoice, hvoted⟩ := castElectorateBallot_voted hcast
      rcases hvoted with hvoted | ⟨q, hq, hid, hclosed⟩
      · have hvote : castVote (.call env (.cast p.proposalId voter choice reason) :
            ProposalStep rt) = some (voter.pk, c) := by
          rw [castVote, hchoice]
          rfl
        refine ⟨?_, hrest.proposals.trans hvoted.proposals,
          hrest.applications.trans hvoted.applications, hrest.rules.trans hvoted.rules,
          hrest.snapshots.trans hvoted.snapshots⟩
        rw [hrest.votes, hvoted.votes, List.append_assoc, List.filterMap_cons_some hvote]
        rfl
      · -- a closed vote stays closed
        have hmem₁ : p ∈ s₂.proposals.rows := hrest.proposals ▸ hmem
        obtain rfl := s₂.proposals.eq_of_pk hq hmem₁ hid
        exact absurd hvoting hclosed

/-! ## The order of the votes -/

theorem choicesOf_append (votes new : List (Nat × Choice)) (voter : Nat) :
    choicesOf (votes ++ new) voter = choicesOf votes voter ++ choicesOf new voter := by
  rw [choicesOf, RevisionLog.entriesOf_append, List.map_append, choicesOf, choicesOf]

theorem electorateEligibility_congr {now : Nat} {p : ApprovalProposal} {m : Member}
    {excluded : Option Nat} (hdb : s'.roles.db = s.roles.db) (hrules : s'.rules = s.rules)
    (hsnapshots : s'.snapshots = s.snapshots) :
    electorateEligibilityForProposal s' now p m excluded =
      electorateEligibilityForProposal s now p m excluded := by
  simp only [electorateEligibilityForProposal, hdb, hrules, hsnapshots]

/-- Two votes that started alike and hold the same choices of every voter count the same. -/
theorem Counted.congr {s₁ s₂ : ProposalState rt} {p : ApprovalProposal} {now : Nat}
    {t : ProposalTally} {votes₁ votes₂ : List (Nat × Choice)}
    (h₁ : Voted s s₁ p.proposalId votes₁) (h₂ : Voted s s₂ p.proposalId votes₂)
    (hsame : ∀ v, choicesOf votes₂ v = choicesOf votes₁ v) (hdb : s₂.roles.db = s₁.roles.db)
    (h : Counted s₁ now p t) : Counted s₂ now p t := by
  have hlast : lastChoice (votesOf s₂ p.proposalId) = lastChoice (votesOf s₁ p.proposalId) := by
    funext v
    rw [lastChoice, lastChoice, h₂.votes, h₁.votes, choicesOf_append, choicesOf_append, hsame]
  have hrules := h₂.rules.trans h₁.rules.symm
  have hsnapshots := h₂.snapshots.trans h₁.snapshots.symm
  have helectors : electorsOf s₂ p.proposalId = electorsOf s₁ p.proposalId := by
    rw [electorsOf, snapshotsOf, hsnapshots, electorsOf, snapshotsOf]
  have hexcluded : excludedBy s₂ p = excludedBy s₁ p := by
    unfold excludedBy
    cases hadapter : (proposalAdapterFor p.proposalType : Except Error (ProposalTypeAdapter rt)) with
    | error e => rfl
    | ok adapter =>
      obtain ⟨-, rfl⟩ := proposalAdapterFor_ok hadapter
      simp only [ok_bind, memberAdmissionAdapter, excludedMemberId, applicationFor,
        h₂.applications.trans h₁.applications.symm]
  have heligibility : ∀ excluded, eligibilityOf s₂ now p excluded =
      eligibilityOf s₁ now p excluded := by
    intro excluded
    funext v
    simp only [eligibilityOf, memberRow, hdb, electorateEligibility_congr hdb hrules hsnapshots]
  obtain ⟨excluded, hok, hdecided, rfl⟩ := h
  refine ⟨excluded, hexcluded.trans hok, ?_, ?_⟩
  · rw [hlast, heligibility]
    exact hdecided
  · rw [helectors, hlast]
    unfold isEligible
    rw [heligibility]

/-! ## Vote counting -/

/-- What holds of an open vote: numbered ballots, the votes that were cast, and the tally. -/
structure VoteCounted (s s₁ : ProposalState rt) (p : ApprovalProposal)
    (votes : List (Nat × Choice)) : Prop where
  /-- The revisions of each voter are 1, 2, ... without gaps. -/
  revisions : ∀ voter, (ballotsOf s₁.ballots.rows p.proposalId voter).map ProposalBallot.revision =
    List.range' 1 (ballotsOf s₁.ballots.rows p.proposalId voter).length
  /-- The ballots are the earlier ones and those of the calls, in order. -/
  votes : votesOf s₁ p.proposalId = votesOf s p.proposalId ++ votes
  /-- The tally counts the last choice of every elector who is eligible now. -/
  tally : ∀ now t, proposalTally s₁ now p = .ok t ↔ Counted s₁ now p t
  /-- Every counted voter made one choice and is an elector. -/
  participation : ∀ now t, proposalTally s₁ now p = .ok t →
    t.participationCount = t.approveCount + t.rejectCount + t.abstainCount ∧
      t.participationCount ≤ t.eligibleCount

/-- **Vote counting.** At any point of a run, ballots on a proposal that leave it open are numbered
and counted by the last choice of every eligible elector, and another order of the calls that keeps
those of each voter in order gives the same tally. -/
theorem electorateVote_counted {s₀ : ProposalState rt} (h₀ : NoElectorate s₀)
    (steps : List (ProposalStep rt)) {p : ApprovalProposal} (hvoting : p.status = .voting)
    {casts : List (ProposalStep rt)} {s₁ : ProposalState rt}
    (hcasts : ∀ step ∈ casts, VotesOn p.proposalId step)
    (hrun : casts.foldlM proposalStep (runCalls proposalStep s₀ steps) = .ok s₁)
    (hmem : p ∈ s₁.proposals.rows) :
    VoteCounted (runCalls proposalStep s₀ steps) s₁ p (casts.filterMap castVote) ∧
    ∀ (reordered : List (ProposalStep rt)) (s₂ : ProposalState rt),
      (∀ step ∈ reordered, VotesOn p.proposalId step) →
      reordered.foldlM proposalStep (runCalls proposalStep s₀ steps) = .ok s₂ →
      p ∈ s₂.proposals.rows → s₂.roles.db = s₁.roles.db →
      (∀ voter, choicesOf (reordered.filterMap castVote) voter =
        choicesOf (casts.filterMap castVote) voter) →
      ∀ now t, proposalTally s₂ now p = .ok t ↔ proposalTally s₁ now p = .ok t := by
  have hnumbered := run_revisionsNumbered h₀.revisionsNumbered steps
  have hend : ∀ (cs : List (ProposalStep rt)) (s' : ProposalState rt),
      cs.foldlM proposalStep (runCalls proposalStep s₀ steps) = .ok s' → RevisionsNumbered s' := by
    intro cs s' h
    rw [← runCalls_of_foldlM h]
    exact run_revisionsNumbered hnumbered cs
  have hnumbered₁ := hend casts s₁ hrun
  have hvoted₁ := votingRun_voted hcasts hrun hmem hvoting
  refine ⟨⟨fun voter => ?_, hvoted₁.votes, fun now t => proposalTally_iff hnumbered₁,
    fun now t ht => ?_⟩, ?_⟩
  · rw [ballotsOf_eq]
    exact hnumbered₁ p.proposalId voter
  · obtain ⟨excluded, -, -, rfl⟩ := (proposalTally_iff hnumbered₁).1 ht
    exact tallyOf_participation _ _ _
  · intro reordered s₂ hreordered hrun₂ hmem₂ hdb hsame now t
    have hvoted₂ := votingRun_voted hreordered hrun₂ hmem₂ hvoting
    rw [proposalTally_iff (hend reordered s₂ hrun₂), proposalTally_iff hnumbered₁]
    constructor
    · exact Counted.congr hvoted₂ hvoted₁ (fun v => (hsame v).symm) hdb.symm
    · exact Counted.congr hvoted₁ hvoted₂ hsame hdb

/-! ## A vote that stays open -/

/-- The vote on the application has opened. -/
def openingSteps : List (ProposalStep textRuntime) := admissionVote.take 2

/-- The elector abstains and keeps to it. -/
def abstentions : List (ProposalStep textRuntime) := [
  .call (envAt 3 "c") (.cast "proposal-a" neighbour "abstain" ""),
  .change villageState.roles,
  .call (envAt 4 "d") (.cast "proposal-a" neighbour "abstain" "仍未决定")]

theorem abstentions_votesOn : ∀ step ∈ abstentions, VotesOn "proposal-a" step := by
  intro step hstep
  simp only [abstentions, List.mem_cons, List.not_mem_nil, or_false] at hstep
  rcases hstep with rfl | rfl | rfl
  · exact .cast _ _ _ _
  · exact .change _
  · exact .cast _ _ _ _

/-- Both abstentions are kept and the last one counts, once. -/
theorem abstentions_counted : ∃ p,
    VoteCounted (runCalls proposalStep villageState openingSteps)
      (runCalls proposalStep villageState (openingSteps ++ abstentions)) p
      [(32, .abstain), (32, .abstain)] ∧
    (proposalTally (runCalls proposalStep villageState (openingSteps ++ abstentions)) 5
      p).toOption = some ⟨1, 1, 0, 0, 1⟩ := by
  have hopen : ∃ p ∈ (runCalls proposalStep villageState (openingSteps ++ abstentions)).proposals.rows,
      p.proposalId = "proposal-a" ∧ p.status = .voting ∧
        (proposalTally (runCalls proposalStep villageState (openingSteps ++ abstentions)) 5
          p).toOption = some ⟨1, 1, 0, 0, 1⟩ := by
    decide +kernel
  have hok : (abstentions.foldlM proposalStep
      (runCalls proposalStep villageState openingSteps)).isOk = true := by
    decide +kernel
  obtain ⟨p, hmem, hid, hvoting, htally⟩ := hopen
  refine ⟨p, ?_, htally⟩
  cases hrun : abstentions.foldlM proposalStep
      (runCalls proposalStep villageState openingSteps) with
  | error e =>
    rw [hrun] at hok
    cases hok
  | ok s₁ =>
    have hs₁ := runCalls_of_foldlM hrun
    rw [← runCalls_append] at hs₁
    rw [hs₁] at hmem ⊢
    exact (electorateVote_counted villageState_noElectorate openingSteps hvoting
      (hid ▸ abstentions_votesOn) hrun hmem).1

end LiveOs.Proposals
