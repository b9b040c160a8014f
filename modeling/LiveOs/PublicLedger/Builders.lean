import LiveOs.Finance.Model
import LiveOs.Procurement.Model
import LiveOs.Proposals.Payloads
import LiveOs.Tasks.Payloads

/-!
# The payload builders that read members

The builders of `core/event_payloads.py` whose record refers to members, over one database: each
takes its related rows from the database, and members by their primary keys.
-/

namespace LiveOs.PublicLedger

open Lib EventLedger Roles Electorate Proposals Procurement Finance Tasks

variable {rt : Runtime}

/-- The tables that the builders read. -/
structure LedgerDb (rt : Runtime) where
  proposals : ProposalState rt
  claims : ClaimTable
  resources : ResourceTable

/-- The members and what is known of them. -/
def LedgerDb.directory (s : LedgerDb rt) : Directory := s.proposals.roles.db

/-- A record that the ledger announces, with the other arguments of its builder. -/
inductive PublicRecord where
  | roleAssignment (assignment : RoleAssignment)
  | ledgerEntry (entry : LedgerEntry)
  | task (task : Task) (args : TaskEventArgs)
  | credentialGrant (grant : CredentialGrant)
  | expenseClaim (claim : ExpenseClaim)
  | financeReview (review : FinanceReview)
  | financeTransaction (txn : FinanceTransaction)
  | supplierOffer (quote : SupplierQuote) (action : String) (actor : Option Nat)
  | approvalProposal (p : ApprovalProposal) (action : String) (actor : Option Nat)
  | electorateRule (rule : ElectorateRuleVersion) (publishedAt : Option Nat) (actor : Nat)

/-- `electorate_rule_payload(rule_version, actor=...)`; the time of publication is a column that no
other modelled function reads. -/
def electorateRulePayload (rule : ElectorateRuleVersion) (publishedAt : Option Nat)
    (actor : Member) : PyVal :=
  publicEventPayload "electorate_rule_version" (publicRef ["electorate-rule", rule.ruleVersionId])
    rule.template.name "published" "published"
    ("选民规则 " ++ rule.template.name ++ " 已发布新版本。")
    [("rule_code", .str rule.template.ruleCode), ("rule_version", .scalar (.int rule.version)),
      ("proposal_type", .str rule.template.proposalType),
      ("published_by_display", .str actor.publicLabel), ("published_at", isoFact publishedAt)]
    [commitment "selector_config" true "内部选民选择器配置"]

/-- A member that a row may refer to. -/
def optionalMember (db : Directory) (pk : Option Nat) : Except Error (Option Member) :=
  match pk with
  | none => .ok none
  | some pk => do
    let member ← related db.members pk "Member"
    return some member

/-- The claim that a transaction may refer to. -/
def optionalClaim (claims : ClaimTable) (pk : Option Nat) : Except Error (Option ExpenseClaim) :=
  match pk with
  | none => .ok none
  | some pk => do
    let claim ← related claims pk "ExpenseClaim"
    return some claim

/-- The payload that the builder of a record returns. -/
def payloadOf (s : LedgerDb rt) (now : Nat) : PublicRecord → Except Error PyVal
  | .roleAssignment assignment => roleAssignmentPayload rt s.directory assignment
  | .ledgerEntry entry => ledgerEntryPayload rt s.directory entry
  | .task task args => taskEventPayload rt s.directory task args
  | .credentialGrant grant => do
    let template ← related s.proposals.roles.templates grant.template "CredentialTemplate"
    let member ← related s.directory.members grant.member "Member"
    return credentialGrantPayload template grant member
  | .expenseClaim claim => do
    let claimant ← related s.directory.members claim.claimantMember "Member"
    return expenseClaimPayload claim claimant
  | .financeReview review => do
    let claim ← related s.claims review.claim "ExpenseClaim"
    let reviewer ← related s.directory.members review.reviewerMember "Member"
    return financeReviewPayload review claim reviewer
  | .financeTransaction txn => do
    let claim ← optionalClaim s.claims txn.claim
    let recordedBy ← optionalMember s.directory txn.recordedBy
    return financeTransactionPayload txn claim recordedBy
  | .supplierOffer quote action actor =>
    supplierOfferPayload s.directory s.resources quote action actor
  | .approvalProposal p action actor => do
    let actor ← optionalMember s.directory actor
    approvalProposalPayload s.proposals now p action actor
  | .electorateRule rule publishedAt actor => do
    let actor ← related s.directory.members actor "Member"
    return electorateRulePayload rule publishedAt actor

end LiveOs.PublicLedger
