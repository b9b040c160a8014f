import LiveOs.Proposals.Payloads

/-!
# The life cycle of electorate proposals

The services of `core/unified_proposal_services.py`. A call is one transaction, so a call that
raises leaves the state as it was; a broken constraint inside a nested transaction raises
`IntegrityError` in the service.
-/

namespace LiveOs.Proposals

open Lib EventLedger Roles Electorate

variable {rt : Runtime}

/-! ## Shared steps -/

/-- `_require_permission(member, permission_code, message)` with the local authorization backend. -/
def requirePermission (s : ProposalState rt) (now : Nat) (m : Member) (code message : String) :
    Except Error Unit :=
  if code = "" then .ok ()
  else rejectIf (!legacyMemberHasPermission s.roles.db now m code none) (.domain message)

/-- `ApprovalProposal.objects.select_for_update().get(pk=proposal.pk)`. -/
def lockProposal (s : ProposalState rt) (proposalId : String) : Except Error ApprovalProposal :=
  match s.proposals.get? proposalId with
  | none => .error (.doesNotExist "ApprovalProposal")
  | some p => .ok p

/-- `locked.save(update_fields=[...])`: the row becomes what the object says in the fields that a
service may change. -/
def saveProposal (s : ProposalState rt) (p : ApprovalProposal) : ProposalState rt :=
  { s with proposals := s.proposals.modify p.proposalId (fun q => { q with
      status := p.status
      votingStartedAt := p.votingStartedAt
      votingDeadline := p.votingDeadline
      frozenApproveThreshold := p.frozenApproveThreshold
      frozenRejectThreshold := p.frozenRejectThreshold
      frozenMinimumParticipation := p.frozenMinimumParticipation
      frozenUnresolvedOutcome := p.frozenUnresolvedOutcome
      resolvedAt := p.resolvedAt
      executedAt := p.executedAt
      electorateRuleVersion := p.electorateRuleVersion }) (fun _ => rfl) fun _ => rfl }

/-- `append_event(...)` for a proposal. -/
def appendProposalEvent (s : ProposalState rt) (now : Nat) (p : ApprovalProposal)
    (eventType action : String) (actor : Member) : Except Error (ProposalState rt) := do
  let payload ← approvalProposalPayload s now p action (some actor)
  let events ← s.roles.events.append {
    eventType := eventType
    aggregateType := "ApprovalProposal"
    aggregateId := p.proposalId
    actorMember := some actor.pk
    payloadJson := payload
    occurredAt := some now
    now := now }
  return { s with roles := { s.roles with events := events } }

/-! ## Before the vote -/

/-- The foreign key to a rule version, checked when the transaction ends. -/
def checkRule (s : ProposalState rt) (rule : Option ElectorateRuleVersion) : Except Error Unit :=
  rejectIf (rule.any fun r => (s.rules.get? r.ruleVersionId).isNone) .integrity

/-- The arguments of `create_electorate_proposal`; the rule version is a row of its table. -/
structure CreateElectorateArgs where
  proposalType : ProposalType
  title : String
  submittedBy : Member
  dedupeKey : String
  targetType : String
  targetId : String
  ruleVersion : Option ElectorateRuleVersion
  summary : String
  publicReason : String
  metadata : List (String × Json)

/-- The existing proposal with the type and the deduplication key. -/
def existingProposal (s : ProposalState rt) (proposalType : ProposalType) (dedupeKey : String) :
    Option ApprovalProposal :=
  s.proposals.rows.find? fun p => p.proposalType = proposalType && p.dedupeKey = dedupeKey

/-- The row that `create_electorate_proposal` inserts. -/
def newElectorateProposal (env : ProposalEnv) (args : CreateElectorateArgs) : ApprovalProposal where
  proposalId := "proposal-" ++ env.uuid
  proposalType := args.proposalType
  title := args.title
  summary := args.summary
  publicReason := args.publicReason
  status := if args.ruleVersion.isSome then .draft else .awaitingPolicy
  strategyType := .electorate
  targetType := args.targetType
  targetId := args.targetId
  dedupeKey := args.dedupeKey
  submittedBy := args.submittedBy.pk
  submittedAt := env.now
  electorateRuleVersion := args.ruleVersion.map ElectorateRuleVersion.ruleVersionId
  metadata := args.metadata

/-- `create_electorate_proposal(...)`. -/
def createElectorateProposal (env : ProposalEnv) (s : ProposalState rt)
    (args : CreateElectorateArgs) : Except Error (ProposalState rt × ApprovalProposal) := do
  let adapter ← (proposalAdapterFor args.proposalType : Except Error (ProposalTypeAdapter rt))
  rejectIf (adapter.strategyType ≠ .electorate) (.domain "该提案类型没有登记选民策略适配器。")
  requirePermission s env.now args.submittedBy adapter.initiationPermission "你无权发起该提案。"
  rejectIf (args.dedupeKey = "") (.domain "提案幂等键不能为空。")
  match existingProposal s args.proposalType args.dedupeKey with
  | some existing => return (s, existing)
  | none => do
    rejectIf (args.ruleVersion.any fun r => r.template.proposalType ≠ args.proposalType.value)
      (.domain "选民规则版本不适用于该提案类型。")
    let p := newElectorateProposal env args
    checkRule s args.ruleVersion
    let proposals ← s.proposals.insert p Error.integrity
    let s ← appendProposalEvent { s with proposals := proposals } env.now p
      "approval_proposal_submitted" "submitted" args.submittedBy
    return (s, p)

/-- `attach_rule_version(...)`. -/
def attachRuleVersion (s : ProposalState rt) (proposalId : String) (rule : ElectorateRuleVersion) :
    Except Error (ProposalState rt × ApprovalProposal) := do
  let locked ← lockProposal s proposalId
  rejectIf (locked.status ≠ .awaitingPolicy ∧ locked.status ≠ .draft)
    (.domain "只有尚未开始表决的提案可以绑定选民规则。")
  rejectIf (rule.template.proposalType ≠ locked.proposalType.value)
    (.domain "选民规则版本不适用于该提案类型。")
  let locked := { locked with
    electorateRuleVersion := some rule.ruleVersionId
    status := .draft }
  checkRule s (some rule)
  return (saveProposal s locked, locked)

/-! ## The vote -/

/-- The snapshot rows for the members that the rule allows, in the order of the members. -/
def snapshotRows (s : ProposalState rt) (now : Nat) (p : ApprovalProposal)
    (rule : ElectorateRuleVersion) (excluded : Option Nat) (moment : Nat) :
    List Member → Except Error (List ProposalElectorSnapshot)
  | [] => .ok []
  | m :: ms => do
    let decision ← evaluateRuleForMember s.roles.db now rule.selectorConfig m (some moment) excluded
    let rest ← snapshotRows s now p rule excluded moment ms
    return if decision.allowed
      then ⟨p.proposalId, m.pk, rule.ruleVersionId, decision.evidence, moment⟩ :: rest else rest

/-- `ProposalElectorSnapshot.objects.bulk_create(...)`. -/
def createSnapshots (snapshots : SnapshotTable) (rows : List ProposalElectorSnapshot) :
    Except Error SnapshotTable :=
  rows.foldlM (fun t r => t.insert r Error.integrity) snapshots

/-- `generate_elector_snapshot(...)`. -/
def generateElectorSnapshot (s : ProposalState rt) (now : Nat) (proposalId : String)
    (excluded : Option Nat) : Except Error (ProposalState rt) := do
  let locked ← lockProposal s proposalId
  match locked.electorateRuleVersion with
  | none => .error (.domain "提案没有已发布的选民规则版本。")
  | some ruleId =>
    match s.rules.get? ruleId with
    | none => .error (.doesNotExist "ElectorateRuleVersion")
    | some rule =>
      if s.snapshots.rows.any fun r => r.proposal = locked.proposalId then .ok s
      else do
        let members := s.roles.db.members.rows.insertionSort fun a b => a.pk ≤ b.pk
        let rows ← snapshotRows s now locked rule excluded (locked.votingStartedAt.getD now) members
        let snapshots ← createSnapshots s.snapshots rows
        return { s with snapshots := snapshots }

/-- `timedelta(hours=n)` in microseconds. -/
def hours (n : Nat) : Nat := n * 3600 * 1000000

/-- The proposal once its parameters are frozen. -/
def openVoting (p : ApprovalProposal) (rule : ElectorateRuleVersion) (now : Nat) :
    ApprovalProposal :=
  { p with
    frozenApproveThreshold := some rule.approveThreshold
    frozenRejectThreshold := some rule.rejectThreshold
    frozenMinimumParticipation := some rule.minimumParticipation
    frozenUnresolvedOutcome := some rule.unresolvedOutcome
    votingStartedAt := some now
    votingDeadline := some (now + hours rule.votingDurationHours)
    status := .voting }

/-- The row of the member with the given key. -/
def memberRow (s : ProposalState rt) (pk : Nat) : Except Error Member :=
  match s.roles.db.members.get? pk with
  | none => .error (.doesNotExist "Member")
  | some m => .ok m

/-- The rule version of a proposal that is about to be voted on. -/
def ruleOf (s : ProposalState rt) (p : ApprovalProposal) : Except Error ElectorateRuleVersion :=
  match p.electorateRuleVersion with
  | none => .error (.domain "提案尚未绑定已发布选民规则。")
  | some ruleId =>
    match s.rules.get? ruleId with
    | none => .error (.doesNotExist "ElectorateRuleVersion")
    | some rule => .ok rule

/-- `start_electorate_voting(...)` on a draft. -/
def startDraft (env : ProposalEnv) (s : ProposalState rt) (locked : ApprovalProposal) :
    Except Error (ProposalState rt × ApprovalProposal) := do
  let rule ← ruleOf s locked
  rejectIf (rule.template.proposalType ≠ locked.proposalType.value)
    (.domain "选民规则版本与提案类型不一致。")
  let locked := openVoting locked rule env.now
  let s := saveProposal s locked
  let adapter ← proposalAdapterFor locked.proposalType
  let excluded ← adapter.excludedMemberId s locked
  let s ← generateElectorSnapshot s env.now locked.proposalId excluded
  let submittedBy ← memberRow s locked.submittedBy
  let s ← appendProposalEvent s env.now locked "proposal_voting_started" "voting_started"
    submittedBy
  return (s, locked)

/-- `start_electorate_voting(...)`. -/
def startElectorateVoting (env : ProposalEnv) (s : ProposalState rt) (proposalId : String) :
    Except Error (ProposalState rt × ApprovalProposal) := do
  let locked ← lockProposal s proposalId
  rejectIf (locked.strategyType ≠ .electorate) (.domain "该提案不使用选民表决策略。")
  if locked.status = .voting then return (s, locked)
  else do
    rejectIf (locked.status ≠ .draft) (.domain "只有草拟提案可以开始表决。")
    startDraft env s locked

/-- `activate_waiting_proposals_for_rule(...)`. -/
def activateWaitingProposalsForRule (env : ProposalEnv) (s : ProposalState rt)
    (rule : ElectorateRuleVersion) : Except Error (ProposalState rt) :=
  let waiting := s.proposals.rows.filter fun p =>
    p.proposalType.value = rule.template.proposalType && p.strategyType = .electorate &&
      p.status = .awaitingPolicy
  let proposalIds := (waiting.insertionSort fun a b => b.submittedAt ≤ a.submittedAt).map
    ApprovalProposal.proposalId
  proposalIds.foldlM (fun s proposalId => do
    let (s, p) ← attachRuleVersion s proposalId rule
    let (s, _) ← startElectorateVoting env s p.proposalId
    return s) s

/-- `_resolution_outcome(proposal, tally, at_time=...)`. A threshold of 0 counts as 1. -/
def resolutionOutcome (p : ApprovalProposal) (tally : ProposalTally) (atTime : Nat) :
    Option (Outcome × String) :=
  let minimum := p.frozenMinimumParticipation.getD 0
  let approveThreshold := max 1 (p.frozenApproveThreshold.getD 1)
  let rejectThreshold := max 1 (p.frozenRejectThreshold.getD 1)
  if minimum ≤ tally.participationCount ∧ approveThreshold ≤ tally.approveCount then
    some (.approved, "approve_threshold_reached")
  else if minimum ≤ tally.participationCount ∧ rejectThreshold ≤ tally.rejectCount then
    some (.rejected, "reject_threshold_reached")
  else if p.votingDeadline.any fun deadline => deadline ≤ atTime then
    if p.frozenUnresolvedOutcome = some .rejected then some (.rejected, "deadline_unresolved_rejected")
    else some (.expired, "deadline_unresolved_expired")
  else none

/-- The evidence that a resolution keeps. -/
def resolutionEvidence (p : ApprovalProposal) (tally : ProposalTally) : ResolutionEvidence where
  eligibleCount := tally.eligibleCount
  participationCount := tally.participationCount
  approveCount := tally.approveCount
  rejectCount := tally.rejectCount
  abstainCount := tally.abstainCount
  approveThreshold := p.frozenApproveThreshold
  rejectThreshold := p.frozenRejectThreshold
  minimumParticipation := p.frozenMinimumParticipation

/-- The status that an outcome gives a proposal. -/
def Outcome.status : Outcome → ProposalStatus
  | approved => .approved
  | rejected => .rejected
  | expired => .expired

/-- The type of the event that announces an outcome. -/
def Outcome.eventType : Outcome → String
  | approved => "approval_proposal_approved"
  | rejected => "approval_proposal_rejected"
  | expired => "proposal_expired"

/-- `_resolve_locked_proposal` once the outcome is known. -/
def recordResolution (s : ProposalState rt) (p : ApprovalProposal) (tally : ProposalTally)
    (outcome : Outcome) (reasonCode : String) (atTime : Nat) (actor : Member) :
    Except Error (ProposalState rt × ApprovalProposal) := do
  let resolutions ← s.resolutions.insert {
    proposal := p.proposalId
    outcome := outcome
    reasonCode := reasonCode
    evidence := resolutionEvidence p tally
    decidedBy := some actor.pk
    decidedAt := atTime } Error.integrity
  let p := { p with status := outcome.status, resolvedAt := some atTime }
  let s := saveProposal { s with resolutions := resolutions } p
  let adapter ← proposalAdapterFor p.proposalType
  let s ← adapter.resolutionCallback s p actor.pk
  let s ← appendProposalEvent s atTime p outcome.eventType outcome.value actor
  return (s, p)

/-- `_resolve_locked_proposal(proposal, at_time=..., actor=...)`. -/
def resolveLockedProposal (s : ProposalState rt) (p : ApprovalProposal) (atTime : Nat)
    (actor : Member) : Except Error (ProposalState rt × ApprovalProposal) := do
  let tally ← proposalTally s atTime p
  match resolutionOutcome p tally atTime with
  | none => return (s, p)
  | some (outcome, reasonCode) => recordResolution s p tally outcome reasonCode atTime actor

/-- The checks of `cast_electorate_ballot`, with the choice they let through. -/
def ballotChecks (env : ProposalEnv) (s : ProposalState rt) (locked : ApprovalProposal)
    (voter : Member) (choice : String) : Except Error Choice := do
  rejectIf (locked.status ≠ .voting) (.domain "当前提案不接受投票。")
  rejectIf (locked.votingDeadline.any fun deadline => deadline ≤ env.now)
    (.domain "提案已到截止时间，需由有权人员完成结果判定。")
  match Choice.ofValue choice with
  | none => .error (.domain "投票选项无效。")
  | some c => do
    let adapter ← proposalAdapterFor locked.proposalType
    let excluded ← adapter.excludedMemberId s locked
    let eligibility ← electorateEligibilityForProposal s env.now locked voter excluded
    rejectIf (!eligibility.allowed) (.domain eligibility.message)
    return c

/-- The row that `cast_electorate_ballot` inserts. -/
def newBallot (env : ProposalEnv) (s : ProposalState rt) (proposalId : String) (voter : Nat)
    (choice : Choice) (reason : String) : ProposalBallot where
  ballotId := "ballot-" ++ env.uuid
  proposal := proposalId
  voter := voter
  revision := latestRevision s.ballots.rows proposalId voter + 1
  choice := choice
  reason := reason
  submittedAt := env.now

/-- `cast_electorate_ballot(...)`. -/
def castElectorateBallot (env : ProposalEnv) (s : ProposalState rt) (proposalId : String)
    (voter : Member) (choice reason : String) :
    Except Error (ProposalState rt × ApprovalProposal) := do
  let locked ← lockProposal s proposalId
  let choice ← ballotChecks env s locked voter choice
  let ballots ← s.ballots.insert
    (newBallot env s locked.proposalId voter.pk choice reason) Error.integrity
  let s ← appendProposalEvent { s with ballots := ballots } env.now locked "proposal_ballot_cast"
    "ballot_cast" voter
  resolveLockedProposal s locked env.now voter

/-- `finalize_electorate_proposal(...)`. -/
def finalizeElectorateProposal (env : ProposalEnv) (s : ProposalState rt) (proposalId : String)
    (actor : Member) : Except Error (ProposalState rt × ApprovalProposal) := do
  let locked ← lockProposal s proposalId
  let adapter ← (proposalAdapterFor locked.proposalType : Except Error (ProposalTypeAdapter rt))
  requirePermission s env.now actor adapter.resolutionPermission "你无权完成该提案的截止判定。"
  if locked.status ≠ .voting then return (s, locked)
  else do
    rejectIf (locked.votingDeadline.all fun deadline => env.now < deadline)
      (.domain "提案尚未到达截止时间。")
    resolveLockedProposal s locked env.now actor

end LiveOs.Proposals
