import LiveOs.Proposals.Admission

/-!
# Eligibility, tallies, approval slots and proposal payloads

What the public event of a proposal reports: for an electorate proposal the tally over the last
ballots of the members who are still eligible, for the other proposals the approval slots and the
roles that have approved.
-/

namespace LiveOs.Proposals

open Lib EventLedger Roles Electorate

variable {rt : Runtime}

/-! ## Eligibility -/

/-- `electorate_eligibility_for_proposal(...)`. -/
def electorateEligibilityForProposal (s : ProposalState rt) (now : Nat) (p : ApprovalProposal)
    (m : Member) (excludedMemberId : Option Nat) : Except Error ElectorateEligibility :=
  match p.electorateRuleVersion with
  | none => .ok ⟨false, "policy_missing", "该提案尚未配置可用选民政策。", .obj []⟩
  | some ruleId =>
    if !(s.snapshots.rows.any fun r => r.proposal = p.proposalId && r.member = m.pk) then
      .ok ⟨false, "not_in_snapshot", "你不在本次表决开始时冻结的选民范围内。", .obj []⟩
    else
      match s.rules.get? ruleId with
      | none => .error (.doesNotExist "ElectorateRuleVersion")
      | some rule =>
        evaluateRuleForMember s.roles.db now rule.selectorConfig m none excludedMemberId

/-! ## Tallies -/

structure ProposalTally where
  eligibleCount : Nat
  participationCount : Nat
  approveCount : Nat
  rejectCount : Nat
  abstainCount : Nat
deriving DecidableEq

/-- The ballots of a voter on a proposal. -/
def ballotsOf (ballots : List ProposalBallot) (proposalId : String) (voter : Nat) :
    List ProposalBallot :=
  ballots.filter fun b => b.proposal = proposalId && b.voter = voter

/-- `Max("revision")` over the ballots of a voter, or 0. -/
def latestRevision (ballots : List ProposalBallot) (proposalId : String) (voter : Nat) : Nat :=
  ((ballotsOf ballots proposalId voter).map ProposalBallot.revision).foldr max 0

/-- The ballots with the highest revision of their voter, in the order of the voters. -/
def candidateBallots (ballots : List ProposalBallot) (proposalId : String) : List ProposalBallot :=
  (ballots.filter fun b => b.proposal = proposalId &&
    b.revision = latestRevision ballots proposalId b.voter).insertionSort fun a b =>
      a.voter ≤ b.voter

/-- The ballots whose voters are eligible now. -/
def eligibleBallots (s : ProposalState rt) (now : Nat) (p : ApprovalProposal)
    (excluded : Option Nat) : List ProposalBallot → Except Error (List ProposalBallot)
  | [] => .ok []
  | b :: bs => do
    match s.roles.db.members.get? b.voter with
    | none => .error (.doesNotExist "Member")
    | some voter => do
      let eligibility ← electorateEligibilityForProposal s now p voter excluded
      let rest ← eligibleBallots s now p excluded bs
      return if eligibility.allowed then b :: rest else rest

/-- How many ballots make the given choice. -/
def countChoice (choice : Choice) (ballots : List ProposalBallot) : Nat :=
  (ballots.filter fun b => b.choice = choice).length

/-- `proposal_tally(proposal)`. -/
def proposalTally (s : ProposalState rt) (now : Nat) (p : ApprovalProposal) :
    Except Error ProposalTally := do
  let adapter ← proposalAdapterFor p.proposalType
  let excluded ← adapter.excludedMemberId s p
  let latestBallots ←
    eligibleBallots s now p excluded (candidateBallots s.ballots.rows p.proposalId)
  return {
    eligibleCount := (s.snapshots.rows.filter fun r => r.proposal = p.proposalId).length
    participationCount := latestBallots.length
    approveCount := countChoice .approve latestBallots
    rejectCount := countChoice .reject latestBallots
    abstainCount := countChoice .abstain latestBallots }

/-! ## Approval slots -/

/-- `proposal_required_role_groups(proposal)`, each group sorted. -/
def proposalRequiredRoleGroups (p : ApprovalProposal) : List (List String) :=
  match p.proposalType with
  | .procurementAcceptance =>
    match p.approvalTier with
    | .single => [["finance", "governance"]]
    | .standard => [["governance"], ["finance"]]
    | .major => [["governance"], ["finance"], ["second_governance"]]
  | .procurementPayment => [["finance"]]
  | .memberApplication | .inventoryAdjustment | .disputeResolution => [["governance"]]

/-- `_valid_approval_roles(proposal)`. -/
def validApprovalRoles (p : ApprovalProposal) : List String :=
  (proposalRequiredRoleGroups p).flatten

/-- `sorted(...)` of the roles that proposals know. -/
def sortedRoles (roles : List String) : List String :=
  ["finance", "governance", "second_governance"].filter fun role => roles.contains role

/-- `proposal_required_roles(proposal)`. -/
def proposalRequiredRoles (p : ApprovalProposal) : List String := sortedRoles (validApprovalRoles p)

/-- `proposal_approved_roles(proposal)`. -/
def proposalApprovedRoles (decisions : List ApprovalDecision) (p : ApprovalProposal) :
    List String :=
  (decisions.filter fun d => d.proposal = p.proposalId && d.decision = .approved).map
    ApprovalDecision.role

/-- The groups that no approved role belongs to. -/
def missingGroups (decisions : List ApprovalDecision) (p : ApprovalProposal) :
    List (List String) :=
  (proposalRequiredRoleGroups p).filter fun g =>
    !(g.any fun role => (proposalApprovedRoles decisions p).contains role)

/-- `proposal_missing_roles(proposal)`. -/
def proposalMissingRoles (decisions : List ApprovalDecision) (p : ApprovalProposal) :
    List String :=
  (missingGroups decisions p).map (join "/")

/-- `proposal_is_approved(proposal)`. -/
def proposalIsApproved (decisions : List ApprovalDecision) (p : ApprovalProposal) : Bool :=
  (missingGroups decisions p).isEmpty

/-! ## Payloads -/

/-- `application.linked_member.member_no if application.linked_member_id else ""`. -/
def linkedMemberNo (db : Directory) (application : MemberApplication) : Except Error String :=
  match application.linkedMember with
  | none => .ok ""
  | some pk =>
    match db.members.get? pk with
    | none => .error (.doesNotExist "Member")
    | some m => .ok m.memberNo

/-- The title and the summary under which a proposal is public. -/
def publicTexts (p : ApprovalProposal) : String × String :=
  if p.proposalType = .memberApplication
  then ("守约者准入提案", "社区正在按已发布政策决定一项守约者报名。")
  else (p.title, p.summary)

/-- The facts on the application of a member application proposal. -/
def applicationFacts (s : ProposalState rt) (p : ApprovalProposal) :
    Except Error (List (String × Json)) :=
  if p.proposalType = .memberApplication then
    match s.applications.get? p.targetId with
    | none => .ok []
    | some application => do
      let memberNo ← linkedMemberNo s.roles.db application
      return [("application_id", .str application.applicationId),
        ("public_applicant_label",
          .str (publicMemberLabel application.applicantName memberNo)),
        ("role_gap", .str application.roleGap)]
  else .ok []

/-- `_iso(value)` as a fact. -/
def isoFact (value : Option Nat) : Json :=
  match value with
  | none => .scalar .none
  | some t => .str (isoFormat t)

/-- The code and the version of the rule of a proposal. -/
def ruleFacts (s : ProposalState rt) (p : ApprovalProposal) :
    Except Error (List (String × Json)) :=
  match p.electorateRuleVersion with
  | none => .ok [("ap_rule_code", .str ""), ("ap_rule_version", .scalar .none)]
  | some ruleId =>
    match s.rules.get? ruleId with
    | none => .error (.doesNotExist "ElectorateRuleVersion")
    | some rule => .ok [("ap_rule_code", .str rule.template.ruleCode),
        ("ap_rule_version", .scalar (.int rule.version))]

/-- The facts that depend on the strategy. -/
def strategyFacts (s : ProposalState rt) (now : Nat) (p : ApprovalProposal) :
    Except Error (List (String × Json)) :=
  if p.strategyType = .electorate then do
    let tally ← proposalTally s now p
    let rule ← ruleFacts s p
    return rule ++ [
      ("ap_voting_deadline", isoFact p.votingDeadline),
      ("ap_eligible_count", .scalar (.int tally.eligibleCount)),
      ("ap_participation_count", .scalar (.int tally.participationCount)),
      ("ap_approve_count", .scalar (.int tally.approveCount)),
      ("ap_reject_count", .scalar (.int tally.rejectCount)),
      ("ap_abstain_count", .scalar (.int tally.abstainCount))]
  else
    let decisions := s.decisions.rows
    .ok [("ap_approval_tier", .str p.approvalTier.value),
      ("ap_required_roles", .arr ((proposalRequiredRoles p).map .str)),
      ("ap_approved_roles", .arr ((proposalApprovedRoles decisions p).map .str)),
      ("ap_missing_roles", .arr ((proposalMissingRoles decisions p).map .str))]

/-- The label of a member by display name and number, from the row of the member. -/
def memberLabel (db : Directory) (pk : Nat) : Except Error String :=
  match db.members.get? pk with
  | none => .error (.doesNotExist "Member")
  | some m => .ok m.publicLabel

/-- `approval_proposal_payload(proposal, action=..., actor=...)`. -/
def approvalProposalPayload (s : ProposalState rt) (now : Nat) (p : ApprovalProposal)
    (action : String) (actor : Option Member) : Except Error PyVal := do
  let submittedLabel ← memberLabel s.roles.db p.submittedBy
  let application ← applicationFacts s p
  let strategy ← strategyFacts s now p
  let (title, summary) := publicTexts p
  return publicEventPayload "approval_proposal" (publicRef ["approval-proposal", p.proposalId])
    title action p.status.value
    ("提案 " ++ p.proposalId ++ "（" ++ title ++ "）" ++ action ++ "。")
    ([("approval_proposal_id", .str p.proposalId),
      ("ap_type", .str p.proposalType.value),
      ("ap_title", .str title),
      ("ap_summary", .str summary),
      ("ap_status", .str p.status.value),
      ("ap_strategy_type", .str p.strategyType.value),
      ("ap_target_type", .str p.targetType),
      ("ap_submitted_by_display", .str submittedLabel),
      ("ap_actor_display", .str ((actor.map Member.publicLabel).getD ""))] ++ application ++ strategy)
    [commitment "metadata" (!p.metadata.isEmpty) "元数据"]

end LiveOs.Proposals
