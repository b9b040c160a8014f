import LiveOs.Electorate.Verify.Selectors
import LiveOs.Proposals.Verify.Tally

/-!
# Votes do not depend on what members are called

The members of one state under other names, numbers and profiles: every role, every selector and
every tally stays as it was. Primary keys, accounts and statuses are all the queries read of a
member.
-/

namespace LiveOs.Proposals

open Lib EventLedger Roles Electorate

/-- The same member, whatever the name, the number and the profile. -/
structure SamePerson (m m' : Member) : Prop where
  pk : m'.pk = m.pk
  user : m'.user = m.user
  status : m'.status = m.status

/-- The directory with other member rows. -/
def withMembers (db : Directory) (members : MemberTable) : Directory :=
  { db with members := members }

section Rows

variable {rows rows' : List Member}

theorem any_relabelled (h : List.Forall₂ SamePerson rows rows') {p p' : Member → Bool}
    (hp : ∀ m m', SamePerson m m' → p' m' = p m) : rows'.any p' = rows.any p := by
  induction h with
  | nil => rfl
  | cons hm _ ih => rw [List.any_cons, List.any_cons, hp _ _ hm, ih]

theorem filter_relabelled (h : List.Forall₂ SamePerson rows rows') {p p' : Member → Bool}
    (hp : ∀ m m', SamePerson m m' → p' m' = p m) :
    (rows'.filter p').map Member.pk = (rows.filter p).map Member.pk := by
  induction h with
  | nil => rfl
  | @cons m m' ms ms' hm _ ih =>
    rw [List.filter_cons, List.filter_cons, hp m m' hm]
    cases p m with
    | true =>
      simp only [if_true, List.map_cons, hm.pk, ih]
    | false => exact ih

theorem find?_relabelled {R : Member → Member → Prop} (hR : ∀ m m', R m m' → m'.pk = m.pk)
    (h : List.Forall₂ R rows rows') {pk : Nat} {m : Member}
    (hfind : rows.find? (fun m => m.pk = pk) = some m) :
    ∃ m', rows'.find? (fun m => m.pk = pk) = some m' ∧ R m m' := by
  induction h with
  | nil => cases hfind
  | @cons x x' xs xs' hx _ ih =>
    rw [List.find?_cons] at hfind ⊢
    rw [hR x x' hx]
    cases hpk : decide (x.pk = pk) with
    | true =>
      rw [hpk] at hfind
      obtain rfl := Option.some.inj hfind
      exact ⟨x', rfl, hx⟩
    | false =>
      rw [hpk] at hfind
      exact ih hfind

end Rows

/-! ## Roles -/

section Roles

variable {db : Directory} {members : MemberTable} {m m' : Member}

theorem memberAllowsRoleFacts_relabelled (hm : SamePerson m m') :
    memberAllowsRoleFacts m' = memberAllowsRoleFacts m := by
  rw [memberAllowsRoleFacts, memberAllowsRoleFacts, hm.status, hm.user]

theorem currentCatalogRoleFilter_relabelled (hm : SamePerson m m') (names : List String)
    (moment : Nat) : currentCatalogRoleFilter (withMembers db members) names moment m' =
      currentCatalogRoleFilter db names moment m := by
  rw [currentCatalogRoleFilter, currentCatalogRoleFilter, Member.accountActive,
    Member.accountActive, hm.pk, hm.status, hm.user]
  rfl

theorem memberRoleFilter_relabelled (h : List.Forall₂ SamePerson db.members.rows members.rows)
    (hm : SamePerson m m') (now : Nat) (names : List String) (checkedAt : Option Nat) :
    memberRoleFilter (withMembers db members) now names checkedAt m' =
      memberRoleFilter db now names checkedAt m := by
  have hcovenanters : ∀ moment,
      (((withMembers db members).members.rows.filter (currentCatalogRoleFilter
        (withMembers db members) [roleCovenanter] moment)).map Member.pk) =
      ((db.members.rows.filter (currentCatalogRoleFilter db [roleCovenanter] moment)).map
        Member.pk) := by
    intro moment
    exact filter_relabelled h fun m m' hm => currentCatalogRoleFilter_relabelled hm _ moment
  unfold memberRoleFilter
  simp only [currentCatalogRoleFilter_relabelled hm, hcovenanters, hm.pk]

theorem activeMemberRoleNames_relabelled
    (h : List.Forall₂ SamePerson db.members.rows members.rows) (hm : SamePerson m m') (now : Nat)
    (checkedAt : Option Nat) :
    activeMemberRoleNames (withMembers db members) now m' checkedAt =
      activeMemberRoleNames db now m checkedAt := by
  have hany : ∀ name, ((withMembers db members).members.rows.any fun row => row.pk = m.pk &&
      memberRoleFilter (withMembers db members) now [name] checkedAt row) =
      db.members.rows.any fun row => row.pk = m.pk &&
        memberRoleFilter db now [name] checkedAt row := by
    intro name
    apply any_relabelled h
    intro row row' hrow
    rw [hrow.pk, memberRoleFilter_relabelled h hrow]
  unfold activeMemberRoleNames
  simp only [memberAllowsRoleFacts_relabelled hm, hm.pk, hany]

theorem memberHasRole_relabelled (h : List.Forall₂ SamePerson db.members.rows members.rows)
    (hm : SamePerson m m') (now : Nat) (names : List String) (checkedAt : Option Nat) :
    memberHasRole (withMembers db members) now m' names checkedAt =
      memberHasRole db now m names checkedAt := by
  rw [memberHasRole, memberHasRole, activeMemberRoleNames_relabelled h hm]

end Roles

/-! ## Selectors -/

section Selectors

variable {db : Directory} {members : MemberTable} {m m' : Member}

theorem matched_relabelled (h : List.Forall₂ SamePerson db.members.rows members.rows)
    (hm : SamePerson m m') (now t : Nat) (c : Condition) :
    c.matched (withMembers db members) now t m' = c.matched db now t m := by
  cases c with
  | roleCode code =>
    simp only [Condition.matched, memberHasPlatformRole, activeMemberRoleNames_relabelled h hm]
  | participationStatus status =>
    have hstatus : Roles.participationStatus (withMembers db members) now m' (some t) =
        Roles.participationStatus db now m (some t) := by
      rw [Roles.participationStatus, Roles.participationStatus,
        memberAllowsRoleFacts_relabelled hm, memberHasRole_relabelled h hm]
    rw [Condition.matched, Condition.matched, hstatus]
  | professionalDomain code =>
    rw [Condition.matched, Condition.matched, activeProfessionalDomainCodes,
      activeProfessionalDomainCodes, hm.pk]
    rfl

theorem validateSelectorNode_relabelled {config : Json}
    (h : validateSelectorNode db 0 config = .ok ()) :
    validateSelectorNode (withMembers db members) 0 config = .ok () := by
  obtain ⟨f, hf, rfl⟩ := admissible_of_validateSelectorNode h
  have hleaves : f.Leaves (Condition.Known (withMembers db members)) := hf.leaves
  exact validateSelectorNode_of_admissible (hf.of_leaves hleaves)

/-- An evaluation that succeeds gives the same answer under other names. -/
theorem evaluateRuleForMember_relabelled
    (h : List.Forall₂ SamePerson db.members.rows members.rows) (hm : SamePerson m m')
    {now : Nat} {config : Json} {excluded : Option Nat} {e : ElectorateEligibility}
    (hok : evaluateRuleForMember db now config m none excluded = .ok e) :
    ∃ e', evaluateRuleForMember (withMembers db members) now config m' none excluded = .ok e' ∧
      e'.allowed = e.allowed := by
  unfold evaluateRuleForMember at hok ⊢
  rw [hm.pk, memberAllowsRoleFacts_relabelled hm]
  by_cases hexcluded : excluded = some m.pk
  · rw [if_pos hexcluded] at hok ⊢
    exact ⟨e, hok, rfl⟩
  rw [if_neg hexcluded] at hok ⊢
  by_cases hallows : (!memberAllowsRoleFacts m) = true
  · rw [if_pos hallows] at hok ⊢
    exact ⟨e, hok, rfl⟩
  rw [if_neg hallows] at hok ⊢
  obtain ⟨⟨⟩, hvalid, hok⟩ := bind_eq_ok.1 hok
  obtain ⟨f, -, rfl⟩ := admissible_of_validateSelectorNode hvalid
  obtain ⟨evidence, heval⟩ := @evaluateSelectorNode_toJson db now now m f []
  obtain ⟨evidence', heval'⟩ :=
    @evaluateSelectorNode_toJson (withMembers db members) now now m' f []
  have hsame : f.eval (Condition.matched (withMembers db members) now now m') =
      f.eval (Condition.matched db now now m) := by
    have hmatched : Condition.matched (withMembers db members) now now m' =
        Condition.matched db now now m := funext (matched_relabelled h hm now now)
    rw [hmatched]
  have hvalid' : validateSelectorNode (withMembers db members) 0 f.toJson = .ok () :=
    validateSelectorNode_relabelled hvalid
  rw [hsame] at heval'
  simp only [Option.getD_none, heval, heval', hvalid', ok_bind] at hok ⊢
  cases hvalue : f.eval (Condition.matched db now now m) with
  | true =>
    rw [hvalue, if_neg (by decide)] at hok
    obtain rfl := pure_eq_ok.1 hok
    exact ⟨_, rfl, rfl⟩
  | false =>
    rw [hvalue, if_pos (by decide)] at hok
    obtain rfl := pure_eq_ok.1 hok
    exact ⟨_, rfl, rfl⟩

end Selectors

/-! ## Tallies -/

section Tallies

variable {rt : Runtime} {s : ProposalState rt} {members : MemberTable}

/-- The state with other member rows. -/
def ProposalState.withMembers (s : ProposalState rt) (members : MemberTable) : ProposalState rt :=
  { s with roles := { s.roles with db := Proposals.withMembers s.roles.db members } }

theorem memberRow_relabelled (h : List.Forall₂ SamePerson s.roles.db.members.rows members.rows)
    {pk : Nat} {m : Member} (hok : memberRow s pk = .ok m) :
    ∃ m', memberRow (s.withMembers members) pk = .ok m' ∧ SamePerson m m' := by
  have hm : s.roles.db.members.rows.find? (fun m => m.pk = pk) = some m := memberRow_ok hok
  obtain ⟨m', hm', hsame⟩ := find?_relabelled (fun _ _ hm => SamePerson.pk hm) h hm
  refine ⟨m', ?_, hsame⟩
  have hget : (s.withMembers members).roles.db.members.get? pk = some m' := hm'
  rw [memberRow, hget]

theorem eligibilityOf_relabelled
    (h : List.Forall₂ SamePerson s.roles.db.members.rows members.rows) {now : Nat}
    {p : ApprovalProposal} {excluded : Option Nat} {voter : Nat} {a : Bool}
    (hok : eligibilityOf s now p excluded voter = .ok a) :
    eligibilityOf (s.withMembers members) now p excluded voter = .ok a := by
  obtain ⟨m, hm, hok⟩ := bind_eq_ok.1 hok
  obtain ⟨e, he, hok⟩ := bind_eq_ok.1 hok
  obtain rfl := pure_eq_ok.1 hok
  obtain ⟨m', hm', hsame⟩ := memberRow_relabelled h hm
  refine bind_eq_ok.2 ⟨m', hm', ?_⟩
  suffices he' : ∃ e', electorateEligibilityForProposal (s.withMembers members) now p m' excluded =
      .ok e' ∧ e'.allowed = e.allowed by
    obtain ⟨e', he', hallowed⟩ := he'
    exact bind_eq_ok.2 ⟨e', he', pure_eq_ok.2 hallowed⟩
  unfold electorateEligibilityForProposal at he ⊢
  cases hrule : p.electorateRuleVersion with
  | none =>
    rw [hrule] at he
    exact ⟨e, he, rfl⟩
  | some ruleId =>
    simp only [hrule, hsame.pk] at he ⊢
    by_cases hsnapshot : (!(s.snapshots.rows.any fun r =>
        r.proposal = p.proposalId && r.member = m.pk)) = true
    · rw [if_pos hsnapshot] at he
      rw [ProposalState.withMembers, if_pos hsnapshot]
      exact ⟨e, he, rfl⟩
    · rw [if_neg hsnapshot] at he
      rw [ProposalState.withMembers, if_neg hsnapshot]
      cases hget : s.rules.get? ruleId with
      | none =>
        rw [hget] at he
        cases he
      | some rule =>
        rw [hget] at he
        exact evaluateRuleForMember_relabelled h hsame he

/-- **Tallies.** A tally that is counted is the same under other names. -/
theorem proposalTally_relabelled
    (h : List.Forall₂ SamePerson s.roles.db.members.rows members.rows) {now : Nat}
    {p : ApprovalProposal} {t : ProposalTally} (hok : proposalTally s now p = .ok t) :
    proposalTally (s.withMembers members) now p = .ok t := by
  unfold proposalTally at hok ⊢
  obtain ⟨adapter, hadapter, hcount⟩ := bind_eq_ok.1 hok
  obtain ⟨-, rfl⟩ := proposalAdapterFor_ok hadapter
  obtain ⟨excluded, hexcluded, hcount⟩ := bind_eq_ok.1 hcount
  obtain ⟨ballots, hballots, hcount⟩ := bind_eq_ok.1 hcount
  refine bind_eq_ok.2 ⟨_, hadapter, bind_eq_ok.2 ⟨excluded, hexcluded, ?_⟩⟩
  refine bind_eq_ok.2 ⟨ballots, ?_, hcount⟩
  obtain ⟨hdecided, rfl⟩ := eligibleBallots_eq_ok.1 hballots
  refine eligibleBallots_eq_ok.2 ⟨fun b hb => ?_, List.filter_congr fun b hb => ?_⟩
  · obtain ⟨a, ha⟩ := hdecided b hb
    exact ⟨a, eligibilityOf_relabelled h ha⟩
  · obtain ⟨a, ha⟩ := hdecided b hb
    rw [isEligible, isEligible, ha, eligibilityOf_relabelled h ha]

end Tallies

end LiveOs.Proposals
