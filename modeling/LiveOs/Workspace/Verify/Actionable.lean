import LiveOs.Workspace.WorkItems

/-!
# The dashboard's filter and the rule of the service

The query for actionable proposals lists its cases by type and tier; the service computes with the
groups of roles that a proposal needs. Both come to one test on a group: nobody has approved in it,
and the member has one of its roles in which they have not decided.
-/

namespace LiveOs.Workspace

open Lib Roles Proposals

variable {rt : Runtime}

/-! ## The rule of the service -/

/-- The group waits for the member. -/
def GroupWaits (approved memberRoles already : List String) (group : List String) : Prop :=
  (∀ role ∈ group, role ∉ approved) ∧ ∃ role ∈ group, role ∈ memberRoles ∧ role ∉ already

/-- The roles that groups are made of. -/
def slotRoles : List String := ["finance", "governance", "second_governance"]

theorem sortedRoles_ne_nil {roles : List String} (h : ∀ role ∈ roles, role ∈ slotRoles) :
    sortedRoles roles ≠ [] ↔ ∃ role, role ∈ roles := by
  unfold sortedRoles
  rw [← List.length_pos_iff, List.length_pos_iff_exists_mem]
  simp only [List.mem_filter, List.contains_iff_mem]
  constructor
  · rintro ⟨role, -, hrole⟩
    exact ⟨role, hrole⟩
  · rintro ⟨role, hrole⟩
    exact ⟨role, h role hrole, hrole⟩

/-- Every group of a proposal is made of the slot roles. -/
theorem proposalRequiredRoleGroups_roles (p : ApprovalProposal) :
    ∀ group ∈ proposalRequiredRoleGroups p, ∀ role ∈ group, role ∈ slotRoles := by
  unfold proposalRequiredRoleGroups slotRoles
  cases p.proposalType <;> cases p.approvalTier <;> decide

/-- The roles in which a member has decided on a proposal. -/
def decidedRoles (s : ProposalState rt) (m : Member) (p : ApprovalProposal) : List String :=
  (s.decisions.rows.filter fun d => d.proposal = p.proposalId && d.approver = m.pk).map
    ApprovalDecision.role

/-- **The service rule**: some group waits for the member. -/
theorem proposalIsActionableBy_iff {s : ProposalState rt} {now : Nat} {m : Member}
    {p : ApprovalProposal} : proposalIsActionableBy s now m p = true ↔
      ∃ group ∈ proposalRequiredRoleGroups p,
        GroupWaits (proposalApprovedRoles s.decisions.rows p) (memberRoleForProposal s now m)
          (decidedRoles s m p) group := by
  unfold proposalIsActionableBy memberAvailableApprovalRoles
  rw [decide_eq_true_eq, List.length_pos_iff_exists_mem]
  simp only [List.mem_flatMap]
  rw [exists_comm]
  refine exists_congr fun group => ?_
  rw [exists_and_left]
  refine and_congr_right fun hgroup => ?_
  unfold GroupWaits
  by_cases happroved : (group.any fun role =>
      (proposalApprovedRoles s.decisions.rows p).contains role) = true
  · rw [if_pos happroved]
    simp only [List.any_eq_true, List.contains_iff_mem] at happroved
    obtain ⟨role, hrole, hmem⟩ := happroved
    simp only [List.not_mem_nil, exists_false, false_iff]
    exact fun h => h.1 role hrole hmem
  · rw [if_neg happroved, ← List.length_pos_iff_exists_mem, List.length_pos_iff,
      sortedRoles_ne_nil]
    · simp only [List.any_eq_true, List.contains_iff_mem, not_exists, not_and] at happroved
      simp only [List.mem_filter, Bool.and_eq_true, Bool.not_eq_true', List.contains_iff_mem,
        ← Bool.not_eq_true]
      exact ⟨fun ⟨role, hrole, hhas, hnot⟩ => ⟨happroved, role, hrole, hhas, hnot⟩,
        fun ⟨_, role, hrole, hhas, hnot⟩ => ⟨role, hrole, hhas, hnot⟩⟩
    · intro role hrole
      exact proposalRequiredRoleGroups_roles p group hgroup role (List.mem_filter.1 hrole).1

/-! ## The annotations of the query -/

section

variable {s : ProposalState rt} {now : Nat} {m : Member} {p : ApprovalProposal} {role : String}

theorem approvalExists_approved : approvalExists s.decisions.rows p role (some .approved) none =
    true ↔ role ∈ proposalApprovedRoles s.decisions.rows p := by
  unfold approvalExists proposalApprovedRoles
  simp only [List.any_eq_true, List.mem_map, List.mem_filter, Bool.and_eq_true, decide_eq_true_eq,
    Option.all_some, Option.all_none, and_true]
  exact ⟨fun ⟨d, hd, ⟨hp, hrole⟩, happroved⟩ => ⟨d, ⟨hd, hp, happroved⟩, hrole⟩,
    fun ⟨d, ⟨hd, hp, happroved⟩, hrole⟩ => ⟨d, hd, ⟨hp, hrole⟩, happroved⟩⟩

theorem approvalExists_acted : approvalExists s.decisions.rows p role none (some m.pk) = true ↔
    role ∈ decidedRoles s m p := by
  unfold approvalExists decidedRoles
  simp only [List.any_eq_true, List.mem_map, List.mem_filter, Bool.and_eq_true, decide_eq_true_eq,
    Option.all_some, Option.all_none, and_true]
  exact ⟨fun ⟨d, hd, ⟨hp, hrole⟩, happrover⟩ => ⟨d, ⟨hd, hp, happrover⟩, hrole⟩,
    fun ⟨d, ⟨hd, hp, happrover⟩, hrole⟩ => ⟨d, hd, ⟨hp, hrole⟩, happrover⟩⟩

theorem mem_memberRoles_governance : "governance" ∈ memberRoleForProposal s now m ↔
    memberCanAdminister s.roles.db now m = true := by
  unfold memberRoleForProposal
  cases memberCanAdminister s.roles.db now m <;> cases isFinanceReviewer s.roles.db now m <;> simp

theorem mem_memberRoles_secondGovernance : "second_governance" ∈ memberRoleForProposal s now m ↔
    memberCanAdminister s.roles.db now m = true := by
  unfold memberRoleForProposal
  cases memberCanAdminister s.roles.db now m <;> cases isFinanceReviewer s.roles.db now m <;> simp

theorem mem_memberRoles_finance : "finance" ∈ memberRoleForProposal s now m ↔
    isFinanceReviewer s.roles.db now m = true := by
  unfold memberRoleForProposal
  cases memberCanAdminister s.roles.db now m <;> cases isFinanceReviewer s.roles.db now m <;> simp

end

/-! ## Both together -/

/-- The clauses of the query and the groups of the rule, for one proposal. -/
theorem eligible_iff {s : ProposalState rt} {now : Nat} {m : Member} {p : ApprovalProposal} :
    ((memberCanAdminister s.roles.db now m &&
        eligibleForGovernance p (slotAnnotations s.decisions.rows m p)) ||
      (isFinanceReviewer s.roles.db now m &&
        eligibleForFinance p (slotAnnotations s.decisions.rows m p))) = true ↔
      proposalIsActionableBy s now m p = true := by
  rw [proposalIsActionableBy_iff]
  unfold GroupWaits eligibleForGovernance eligibleForFinance slotAnnotations
    proposalRequiredRoleGroups
  cases htype : p.proposalType <;> cases htier : p.approvalTier <;>
    simp [approvalExists_approved, approvalExists_acted, mem_memberRoles_governance,
      mem_memberRoles_secondGovernance, mem_memberRoles_finance, ← Bool.not_eq_true] <;> grind

theorem newestFirst_perm {α : Type} (keys : α → List Nat) (id : α → String) (rows : List α) :
    (newestFirst keys id rows).Perm rows := List.perm_insertionSort _ _

/-- The submitted proposals that the rule gives to a member. -/
def actionableProposals (db : WorkDb rt) (now : Nat) (m : Member) : List ApprovalProposal :=
  db.state.proposals.rows.filter fun p =>
    p.status = .submitted && proposalIsActionableBy db.state now m p

/-- The query returns what the rule gives. -/
theorem actionableProposalQueryset_perm (db : WorkDb rt) (now : Nat) (m : Member) :
    (actionableProposalQueryset db m (memberCanAdminister db.state.roles.db now m)
      (isFinanceReviewer db.state.roles.db now m)).Perm (actionableProposals db now m) := by
  unfold actionableProposalQueryset actionableProposals
  refine (newestFirst_perm _ _ _).trans (List.Perm.of_eq (List.filter_congr fun p _ => ?_))
  have heq := Bool.eq_iff_iff.2 (@eligible_iff rt db.state now m p)
  exact congrArg (decide (p.status = .submitted) && ·) heq

/-- **The query equals the rule**, and the count of the dashboard is the number of the submitted
proposals that the member can act on. -/
theorem actionableProposalQueryset_eq_rule (db : WorkDb rt) (now : Nat) (m : Member) :
    (∀ p ∈ db.state.proposals.rows, p.status = .submitted →
      (p ∈ actionableProposalQueryset db m (memberCanAdminister db.state.roles.db now m)
          (isFinanceReviewer db.state.roles.db now m) ↔
        proposalIsActionableBy db.state now m p = true)) ∧
    approvalPendingCount db now m = (db.state.proposals.rows.filter fun p =>
      p.status = .submitted && proposalIsActionableBy db.state now m p).length := by
  have hperm := actionableProposalQueryset_perm db now m
  constructor
  · intro p hp hstatus
    rw [hperm.mem_iff]
    unfold actionableProposals
    rw [List.mem_filter, Bool.and_eq_true, decide_eq_true_eq]
    exact ⟨fun h => h.2.2, fun h => ⟨hp, hstatus, h⟩⟩
  · unfold approvalPendingCount
    by_cases hmay : (memberCanAdminister db.state.roles.db now m ||
        isFinanceReviewer db.state.roles.db now m) = true
    · rw [if_pos hmay]
      exact hperm.length_eq
    · -- a member without either permission can act on nothing
      rw [if_neg hmay]
      symm
      rw [List.length_eq_zero_iff, List.filter_eq_nil_iff]
      intro p _ h
      rw [Bool.and_eq_true, ← eligible_iff] at h
      rw [Bool.or_eq_true, not_or, Bool.not_eq_true, Bool.not_eq_true] at hmay
      rw [hmay.1, hmay.2] at h
      simp at h

end LiveOs.Workspace
