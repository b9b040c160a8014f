import LiveOs.Electorate.Selectors
import LiveOs.Roles.Credentials

/-!
# Proposals, electorate rules and ballots

The rows of `core/models/approval_workflow.py`, the member applications that proposals decide, and
the state that the proposal services read and write.
-/

namespace LiveOs.Proposals

open Lib EventLedger Roles Electorate

/-! ## Proposals -/

/-- `ApprovalProposal.ProposalType`. -/
inductive ProposalType where
  | procurementAcceptance
  | procurementPayment
  | memberApplication
  | inventoryAdjustment
  | disputeResolution
deriving DecidableEq

def ProposalType.value : ProposalType → String
  | procurementAcceptance => "procurement_acceptance"
  | procurementPayment => "procurement_payment"
  | memberApplication => "member_application"
  | inventoryAdjustment => "inventory_adjustment"
  | disputeResolution => "dispute_resolution"

/-- `ApprovalProposal.Status`. -/
inductive ProposalStatus where
  | draft
  | awaitingPolicy
  | submitted
  | voting
  | approved
  | rejected
  | expired
  | cancelled
  | executed
  | executionFailed
deriving DecidableEq

def ProposalStatus.value : ProposalStatus → String
  | draft => "draft"
  | awaitingPolicy => "awaiting_policy"
  | submitted => "submitted"
  | voting => "voting"
  | approved => "approved"
  | rejected => "rejected"
  | expired => "expired"
  | cancelled => "cancelled"
  | executed => "executed"
  | executionFailed => "execution_failed"

/-- `ApprovalProposal.StrategyType`. -/
inductive StrategyType where
  | approvalSlots
  | electorate
deriving DecidableEq

def StrategyType.value : StrategyType → String
  | approvalSlots => "approval_slots"
  | electorate => "electorate"

/-- `ApprovalProposal.Tier`. -/
inductive Tier where
  | single
  | standard
  | major
deriving DecidableEq

def Tier.value : Tier → String
  | single => "single"
  | standard => "standard"
  | major => "major"

/-- `ElectorateRuleVersion.UnresolvedOutcome`. -/
inductive UnresolvedOutcome where
  | rejected
  | expired
deriving DecidableEq

structure ApprovalProposal where
  proposalId : String
  proposalType : ProposalType
  title : String
  summary : String := ""
  publicReason : String := ""
  status : ProposalStatus := .submitted
  strategyType : StrategyType := .approvalSlots
  approvalTier : Tier := .single
  targetType : String := ""
  targetId : String := ""
  dedupeKey : String
  submittedBy : Nat
  submittedAt : Nat
  votingStartedAt : Option Nat := none
  votingDeadline : Option Nat := none
  frozenApproveThreshold : Option Nat := none
  frozenRejectThreshold : Option Nat := none
  frozenMinimumParticipation : Option Nat := none
  frozenUnresolvedOutcome : Option UnresolvedOutcome := none
  resolvedAt : Option Nat := none
  executedAt : Option Nat := none
  metadata : List (String × Json) := []
  electorateRuleVersion : Option String := none

/-- `ApprovalDecision.Decision`. -/
inductive SlotDecision where
  | approved
  | rejected
deriving DecidableEq

structure ApprovalDecision where
  approvalId : String
  proposal : String
  approver : Nat
  role : String
  decision : SlotDecision
  reason : String
deriving DecidableEq

/-! ## Rules and votes -/

structure ElectorateRuleTemplate where
  ruleCode : String
  proposalType : String
  name : String
deriving DecidableEq

/-- A published rule version; publishing has validated it and the row never changes. -/
structure ElectorateRuleVersion where
  ruleVersionId : String
  template : ElectorateRuleTemplate
  version : Nat
  selectorConfig : Json
  approveThreshold : Nat
  rejectThreshold : Nat
  minimumParticipation : Nat
  votingDurationHours : Nat
  unresolvedOutcome : UnresolvedOutcome
  validated : ∃ db : Directory, validateSelectorNode db 0 selectorConfig = .ok ()
  positive : 1 ≤ approveThreshold ∧ 1 ≤ rejectThreshold ∧ 1 ≤ votingDurationHours

structure ProposalElectorSnapshot where
  proposal : String
  member : Nat
  ruleVersion : String
  qualificationEvidence : Json
  snapshottedAt : Nat

/-- `ProposalBallot.Choice`. -/
inductive Choice where
  | approve
  | reject
  | abstain
deriving DecidableEq

/-- The choice with the given value. -/
def Choice.ofValue (value : String) : Option Choice :=
  if value = "approve" then some .approve
  else if value = "reject" then some .reject
  else if value = "abstain" then some .abstain
  else none

structure ProposalBallot where
  ballotId : String
  proposal : String
  voter : Nat
  revision : Nat
  choice : Choice
  reason : String
  submittedAt : Nat
deriving DecidableEq

/-- `ProposalResolution.Outcome`. -/
inductive Outcome where
  | approved
  | rejected
  | expired
deriving DecidableEq

def Outcome.value : Outcome → String
  | approved => "approved"
  | rejected => "rejected"
  | expired => "expired"

/-- The entries of `ProposalResolution.evidence`. -/
structure ResolutionEvidence where
  eligibleCount : Nat
  participationCount : Nat
  approveCount : Nat
  rejectCount : Nat
  abstainCount : Nat
  approveThreshold : Option Nat
  rejectThreshold : Option Nat
  minimumParticipation : Option Nat
deriving DecidableEq

structure ProposalResolution where
  proposal : String
  outcome : Outcome
  reasonCode : String
  evidence : ResolutionEvidence
  decidedBy : Option Nat
  decidedAt : Nat
deriving DecidableEq

/-- `ProposalExecutionRecord.Status`. -/
inductive ExecutionStatus where
  | running
  | succeeded
  | failed
deriving DecidableEq

structure ProposalExecutionRecord where
  executionId : String
  proposal : String
  idempotencyKey : String
  executedBy : Nat
  status : ExecutionStatus
  publicErrorCode : String := ""
  resultData : List (String × Json) := []
  startedAt : Nat
  completedAt : Option Nat := none

/-! ## Applications -/

/-- `MemberApplication.Status`. -/
inductive ApplicationStatus where
  | submitted
  | admitted
  | rejected
  | withdrew
deriving DecidableEq

structure MemberApplication where
  applicationId : String
  applicantName : String
  roleGap : String
  status : ApplicationStatus
  linkedMember : Option Nat
  decidedBy : Option Nat
  decidedAt : Option Nat
  metadata : List (String × Json)

/-! ## The state -/

abbrev ProposalTable := Table ApprovalProposal String (ProposalType × String)
  ApprovalProposal.proposalId fun p => some (p.proposalType, p.dedupeKey)

abbrev DecisionTable := Table ApprovalDecision String (String × Nat × String)
  ApprovalDecision.approvalId fun d => some (d.proposal, d.approver, d.role)

abbrev RuleTable := Table ElectorateRuleVersion String (String × Nat)
  ElectorateRuleVersion.ruleVersionId fun r => some (r.template.ruleCode, r.version)

abbrev SnapshotTable := Table ProposalElectorSnapshot (String × Nat) Unit
  (fun s => (s.proposal, s.member)) fun _ => none

abbrev BallotTable := Table ProposalBallot String (String × Nat × Nat)
  ProposalBallot.ballotId fun b => some (b.proposal, b.voter, b.revision)

abbrev ResolutionTable := Table ProposalResolution String Unit
  ProposalResolution.proposal fun _ => none

abbrev ExecutionTable := Table ProposalExecutionRecord String String
  ProposalExecutionRecord.executionId fun e => some e.proposal

abbrev ApplicationTable := Table MemberApplication String Unit
  MemberApplication.applicationId fun _ => none

/-- The tables of the proposal services; the ledger is in `roles.events`. -/
structure ProposalState (rt : Runtime) where
  roles : RoleState rt
  applications : ApplicationTable
  rules : RuleTable
  proposals : ProposalTable
  decisions : DecisionTable
  snapshots : SnapshotTable
  ballots : BallotTable
  resolutions : ResolutionTable
  executions : ExecutionTable

/-- What one call takes from its surroundings: the clock, the random part of the id it creates and
that of a credential grant. -/
structure ProposalEnv where
  now : Nat
  uuid : String
  grantUuid : String

end LiveOs.Proposals
