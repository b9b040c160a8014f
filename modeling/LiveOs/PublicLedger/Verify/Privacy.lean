import LiveOs.Proposals.Verify.Relabelling
import LiveOs.PublicLedger.Builders

/-!
# What the public ledger says of members

Two databases that differ in the names, numbers and profiles of members, but not in their public
labels, announce every record alike, except where a builder publishes something else of a member:
the finance builders publish the name itself, and the label of an applicant without a name is that
of the bare number.
-/

namespace LiveOs.PublicLedger

open Lib EventLedger Roles Electorate Proposals Procurement Finance Tasks

variable {rt : Runtime}

/-! ## Relabelled databases -/

/-- The same member under another name and number, with the same public labels. -/
structure Relabelled (rt : Runtime) (m m' : Member) : Prop extends SamePerson m m' where
  label : m'.publicLabel = m.publicLabel
  profileLabel : m'.publicProfileLabel rt = m.publicProfileLabel rt

/-- The database with other member rows. -/
def LedgerDb.withMembers (s : LedgerDb rt) (members : MemberTable) : LedgerDb rt :=
  { s with proposals := s.proposals.withMembers members }

/-- The two databases give the member the same value. -/
def SameOf {α : Type} (s : LedgerDb rt) (members : MemberTable) (f : Member → α) (pk : Nat) : Prop :=
  (members.get? pk).map f = (s.directory.members.get? pk).map f

instance {α : Type} [DecidableEq α] (s : LedgerDb rt) (members : MemberTable) (f : Member → α)
    (pk : Nat) : Decidable (SameOf s members f pk) :=
  inferInstanceAs (Decidable (_ = _))

/-- What the builder of a record publishes of members besides their labels is the same. -/
def NamesKept (s : LedgerDb rt) (members : MemberTable) : PublicRecord → Prop
  | .expenseClaim claim => SameOf s members publicName claim.claimantMember
  | .financeReview review => SameOf s members publicName review.reviewerMember
  | .financeTransaction txn => ∀ pk ∈ txn.recordedBy, SameOf s members publicName pk
  | .approvalProposal p _ _ => p.proposalType = .memberApplication →
      ∀ application ∈ s.proposals.applications.get? p.targetId,
        strip application.applicantName = "" → ∀ pk ∈ application.linkedMember,
          SameOf s members (fun m => publicMemberLabel "" m.memberNo) pk
  | _ => True

section Builders

variable {s : LedgerDb rt} {members : MemberTable}

theorem related_relabelled
    (h : List.Forall₂ (Relabelled rt) s.directory.members.rows members.rows) {pk : Nat}
    {model : String} {m : Member} (hok : related s.directory.members pk model = .ok m) :
    ∃ m', related members pk model = .ok m' ∧ Relabelled rt m m' := by
  obtain ⟨m', hm', hm⟩ := find?_relabelled (fun _ _ hm => hm.pk) h (related_eq_ok.1 hok)
  exact ⟨m', related_eq_ok.2 hm', hm⟩

theorem optionalMember_relabelled
    (h : List.Forall₂ (Relabelled rt) s.directory.members.rows members.rows) {pk : Option Nat}
    {m : Option Member} (hok : optionalMember s.directory pk = .ok m) :
    ∃ m', optionalMember (s.withMembers members).directory pk = .ok m' ∧
      m'.map Member.publicLabel = m.map Member.publicLabel := by
  cases pk with
  | none => exact ⟨none, rfl, congrArg _ (Except.ok.inj hok)⟩
  | some pk =>
    obtain ⟨x, hx, hok⟩ := bind_eq_ok.1 hok
    obtain rfl := pure_eq_ok.1 hok
    obtain ⟨x', hx', hsame⟩ := related_relabelled h hx
    exact ⟨some x', bind_eq_ok.2 ⟨x', hx', rfl⟩, congrArg some hsame.label⟩

/-! ## Builders that publish labels -/

theorem roleAssignmentPayload_relabelled
    (h : List.Forall₂ (Relabelled rt) s.directory.members.rows members.rows)
    {assignment : RoleAssignment} {payload : PyVal}
    (hok : roleAssignmentPayload rt s.directory assignment = .ok payload) :
    roleAssignmentPayload rt (s.withMembers members).directory assignment = .ok payload := by
  obtain ⟨role, hrole, hok⟩ := bind_eq_ok.1 hok
  obtain ⟨m, hm, hok⟩ := bind_eq_ok.1 hok
  obtain ⟨organization, horganization, hok⟩ := bind_eq_ok.1 hok
  obtain ⟨m', hm', hsame⟩ := related_relabelled h hm
  refine bind_eq_ok.2 ⟨role, hrole, bind_eq_ok.2 ⟨m', hm', bind_eq_ok.2 ⟨organization, ?_⟩⟩⟩
  rw [hsame.profileLabel]
  exact ⟨horganization, hok⟩

theorem ledgerEntryPayload_relabelled
    (h : List.Forall₂ (Relabelled rt) s.directory.members.rows members.rows)
    {entry : LedgerEntry} {payload : PyVal}
    (hok : ledgerEntryPayload rt s.directory entry = .ok payload) :
    ledgerEntryPayload rt (s.withMembers members).directory entry = .ok payload := by
  obtain ⟨m, hm, hok⟩ := bind_eq_ok.1 hok
  obtain ⟨m', hm', hsame⟩ := related_relabelled h hm
  refine bind_eq_ok.2 ⟨m', hm', ?_⟩
  rw [hsame.profileLabel]
  exact hok

theorem taskEventPayload_relabelled
    (h : List.Forall₂ (Relabelled rt) s.directory.members.rows members.rows) {task : Task}
    {args : TaskEventArgs} {payload : PyVal}
    (hok : taskEventPayload rt s.directory task args = .ok payload) :
    taskEventPayload rt (s.withMembers members).directory task args = .ok payload := by
  obtain ⟨label, hlabel, hok⟩ := bind_eq_ok.1 hok
  refine bind_eq_ok.2 ⟨label, ?_, hok⟩
  unfold assigneeLabel at hlabel ⊢
  cases hassignee : task.assigneeMember with
  | none =>
    rw [hassignee] at hlabel
    exact hlabel
  | some pk =>
    rw [hassignee] at hlabel
    obtain ⟨m, hm, hlabel⟩ := bind_eq_ok.1 hlabel
    obtain ⟨m', hm', hsame⟩ := related_relabelled h hm
    refine bind_eq_ok.2 ⟨m', hm', ?_⟩
    rw [hsame.profileLabel]
    exact hlabel

theorem credentialGrantPayload_relabelled {template : CredentialTemplate} {grant : CredentialGrant}
    {m m' : Member} (hsame : Relabelled rt m m') :
    credentialGrantPayload template grant m' = credentialGrantPayload template grant m := by
  rw [credentialGrantPayload, credentialGrantPayload, hsame.label]

theorem optionalLabel_relabelled
    (h : List.Forall₂ (Relabelled rt) s.directory.members.rows members.rows) {pk : Option Nat}
    {label : String} (hok : optionalLabel s.directory pk = .ok label) :
    optionalLabel (s.withMembers members).directory pk = .ok label := by
  cases pk with
  | none => exact hok
  | some pk =>
    obtain ⟨m, hm, hok⟩ := bind_eq_ok.1 hok
    obtain ⟨m', hm', hsame⟩ := related_relabelled h hm
    refine bind_eq_ok.2 ⟨m', hm', ?_⟩
    rw [hsame.label]
    exact hok

theorem supplierOfferPayload_relabelled
    (h : List.Forall₂ (Relabelled rt) s.directory.members.rows members.rows)
    {quote : SupplierQuote} {action : String} {actor : Option Nat} {payload : PyVal}
    (hok : supplierOfferPayload s.directory s.resources quote action actor = .ok payload) :
    supplierOfferPayload (s.withMembers members).directory s.resources quote action actor =
      .ok payload := by
  obtain ⟨resource, hresource, hok⟩ := bind_eq_ok.1 hok
  obtain ⟨submittedByLabel, hsubmitted, hok⟩ := bind_eq_ok.1 hok
  obtain ⟨actorLabel, hactor, hok⟩ := bind_eq_ok.1 hok
  exact bind_eq_ok.2 ⟨resource, hresource, bind_eq_ok.2 ⟨submittedByLabel,
    optionalLabel_relabelled h hsubmitted, bind_eq_ok.2 ⟨actorLabel,
      optionalLabel_relabelled h hactor, hok⟩⟩⟩

theorem electorateRulePayload_relabelled {rule : ElectorateRuleVersion} {publishedAt : Option Nat}
    {m m' : Member} (hsame : Relabelled rt m m') :
    electorateRulePayload rule publishedAt m' = electorateRulePayload rule publishedAt m := by
  rw [electorateRulePayload, electorateRulePayload, hsame.label]

/-! ## Builders that publish names -/

/-- Payloads of one subject are equal if their facts are. -/
theorem publicEventPayload_inj {subjectType ref label action stage summary : String}
    {facts facts' : List (String × Json)} {commitments : List Json} :
    publicEventPayload subjectType ref label action stage summary facts' commitments =
        publicEventPayload subjectType ref label action stage summary facts commitments ↔
      (Json.obj facts').toPy = (Json.obj facts).toPy := by
  simp [publicEventPayload, Json.toPy]

theorem sameOf_iff {α : Type} {f : Member → α} {pk : Nat} {model : String} {m m' : Member}
    (hm : related s.directory.members pk model = .ok m)
    (hm' : related members pk model = .ok m') : SameOf s members f pk ↔ f m' = f m := by
  rw [SameOf, related_eq_ok.1 hm, related_eq_ok.1 hm', Option.map_some, Option.map_some,
    Option.some.injEq]

theorem expenseClaimPayload_inj {claim : ExpenseClaim} {m m' : Member} :
    expenseClaimPayload claim m' = expenseClaimPayload claim m ↔ publicName m' = publicName m := by
  rw [expenseClaimPayload, expenseClaimPayload, publicEventPayload_inj]
  simp [expenseClaimFacts, Json.toPy]

theorem financeReviewPayload_inj {review : FinanceReview} {claim : ExpenseClaim} {m m' : Member} :
    financeReviewPayload review claim m' = financeReviewPayload review claim m ↔
      publicName m' = publicName m := by
  rw [financeReviewPayload, financeReviewPayload, publicEventPayload_inj]
  simp [financeReviewFacts, Json.toPy]

theorem financeTransactionPayload_inj {txn : FinanceTransaction} {claim : Option ExpenseClaim}
    {m m' : Member} : financeTransactionPayload txn claim (some m') =
      financeTransactionPayload txn claim (some m) ↔ publicName m' = publicName m := by
  rw [financeTransactionPayload, financeTransactionPayload, publicEventPayload_inj]
  simp [financeTransactionFacts, Json.toPy]

/-! ## Proposals -/

/-- The label of an applicant depends on the number only without a name. -/
theorem publicMemberLabel_number {name no no' : String} :
    publicMemberLabel name no' = publicMemberLabel name no ↔
      (strip name = "" → publicMemberLabel "" no' = publicMemberLabel "" no) := by
  have hempty : strip "" = "" := by decide
  by_cases hname : strip name = ""
  · simp only [publicMemberLabel, hname, hempty, true_imp_iff]
  · simp [publicMemberLabel, orText, hname]

theorem memberLabel_relabelled
    (h : List.Forall₂ (Relabelled rt) s.directory.members.rows members.rows) {pk : Nat}
    {label : String} (hok : memberLabel s.directory pk = .ok label) :
    memberLabel (s.withMembers members).directory pk = .ok label := by
  unfold memberLabel at hok
  cases hget : s.directory.members.get? pk with
  | none =>
    rw [hget] at hok
    cases hok
  | some m =>
    rw [hget] at hok
    obtain ⟨m', hm', hsame⟩ := find?_relabelled (fun _ _ hm => hm.pk) h hget
    have hget' : (s.withMembers members).directory.members.get? pk = some m' := hm'
    rw [memberLabel, hget', ← Except.ok.inj hok]
    exact congrArg Except.ok hsame.label

theorem strategyFacts_relabelled
    (h : List.Forall₂ (Relabelled rt) s.directory.members.rows members.rows) {now : Nat}
    {p : ApprovalProposal} {facts : List (String × Json)}
    (hok : strategyFacts s.proposals now p = .ok facts) :
    strategyFacts (s.withMembers members).proposals now p = .ok facts := by
  unfold strategyFacts at hok ⊢
  by_cases hstrategy : p.strategyType = .electorate
  · rw [if_pos hstrategy] at hok ⊢
    obtain ⟨tally, htally, hok⟩ := bind_eq_ok.1 hok
    have hsame : List.Forall₂ SamePerson s.proposals.roles.db.members.rows members.rows :=
      h.imp fun _ _ hm => hm.toSamePerson
    exact bind_eq_ok.2 ⟨tally, proposalTally_relabelled hsame htally, hok⟩
  · rw [if_neg hstrategy] at hok ⊢
    exact hok

/-- The facts on the application are the same if the applicant has a name or the label of the
number is the same. -/
theorem applicationFacts_relabelled
    (h : List.Forall₂ (Relabelled rt) s.directory.members.rows members.rows)
    {p : ApprovalProposal} {facts : List (String × Json)}
    (hok : applicationFacts s.proposals p = .ok facts) (action : String) (actor : Option Nat) :
    ∃ facts', applicationFacts (s.withMembers members).proposals p = .ok facts' ∧
      ((Json.obj facts').toPy = (Json.obj facts).toPy ↔
        NamesKept s members (.approvalProposal p action actor)) := by
  unfold applicationFacts at hok ⊢
  by_cases htype : p.proposalType = .memberApplication
  · rw [if_pos htype] at hok ⊢
    have happlications : (s.withMembers members).proposals.applications =
      s.proposals.applications := rfl
    rw [happlications]
    cases happlication : s.proposals.applications.get? p.targetId with
    | none =>
      rw [happlication] at hok
      obtain rfl := Except.ok.inj hok
      refine ⟨[], rfl, iff_of_true rfl fun _ application happ => ?_⟩
      rw [happlication] at happ
      cases happ
    | some application =>
      rw [happlication] at hok
      obtain ⟨no, hno, hok⟩ := bind_eq_ok.1 hok
      obtain rfl := pure_eq_ok.1 hok
      cases hlinked : application.linkedMember with
      | none =>
        rw [linkedMemberNo, hlinked] at hno
        have hno' : linkedMemberNo (s.withMembers members).proposals.roles.db application =
            .ok no := by
          rw [linkedMemberNo, hlinked]
          exact hno
        refine ⟨_, bind_eq_ok.2 ⟨no, hno', rfl⟩, iff_of_true rfl ?_⟩
        intro _ a ha _ pk hpk
        rw [happlication] at ha
        obtain rfl := Option.some.inj ha
        rw [hlinked] at hpk
        cases hpk
      | some pk =>
        obtain ⟨m, hm, rfl⟩ : ∃ m, related s.directory.members pk "Member" = .ok m ∧
            m.memberNo = no := by
          rw [linkedMemberNo, hlinked] at hno
          dsimp only at hno
          cases hget : s.proposals.roles.db.members.get? pk with
          | none =>
            rw [hget] at hno
            cases hno
          | some m =>
            rw [hget] at hno
            exact ⟨m, related_eq_ok.2 hget, Except.ok.inj hno⟩
        obtain ⟨m', hm', -⟩ := related_relabelled h hm
        have hno' : linkedMemberNo (s.withMembers members).proposals.roles.db application =
            .ok m'.memberNo := by
          have hget' : (s.withMembers members).proposals.roles.db.members.get? pk = some m' :=
            related_eq_ok.1 hm'
          rw [linkedMemberNo, hlinked]
          dsimp only
          rw [hget']
        refine ⟨_, bind_eq_ok.2 ⟨m'.memberNo, hno', rfl⟩, ?_⟩
        have hlabels : (Json.obj [("application_id", .str application.applicationId),
              ("public_applicant_label",
                .str (publicMemberLabel application.applicantName m'.memberNo)),
              ("role_gap", .str application.roleGap)]).toPy =
            (Json.obj [("application_id", .str application.applicationId),
              ("public_applicant_label",
                .str (publicMemberLabel application.applicantName m.memberNo)),
              ("role_gap", .str application.roleGap)]).toPy ↔
            publicMemberLabel application.applicantName m'.memberNo =
              publicMemberLabel application.applicantName m.memberNo := by
          simp [Json.toPy]
        rw [hlabels, publicMemberLabel_number]
        constructor
        · intro hnumber _ a ha hblank key hkey
          rw [happlication] at ha
          obtain rfl := Option.some.inj ha
          rw [hlinked] at hkey
          obtain rfl := Option.some.inj hkey
          exact (sameOf_iff hm hm').2 (hnumber hblank)
        · intro hkept hblank
          exact (sameOf_iff hm hm').1 (hkept htype application happlication hblank pk hlinked)
  · rw [if_neg htype] at hok ⊢
    exact ⟨facts, hok, iff_of_true rfl fun hmember => absurd hmember htype⟩

theorem approvalProposalPayload_relabelled
    (h : List.Forall₂ (Relabelled rt) s.directory.members.rows members.rows) {now : Nat}
    {p : ApprovalProposal} {action : String} {actor : Option Nat} {m m' : Option Member}
    {payload : PyVal} (hactor : m'.map Member.publicLabel = m.map Member.publicLabel)
    (hok : approvalProposalPayload s.proposals now p action m = .ok payload) :
    approvalProposalPayload (s.withMembers members).proposals now p action m' = .ok payload ↔
      NamesKept s members (.approvalProposal p action actor) := by
  obtain ⟨submittedLabel, hsubmitted, hok⟩ := bind_eq_ok.1 hok
  obtain ⟨application, happlication, hok⟩ := bind_eq_ok.1 hok
  obtain ⟨strategy, hstrategy, hok⟩ := bind_eq_ok.1 hok
  obtain ⟨application', happlication', hiff⟩ :=
    applicationFacts_relabelled h happlication action actor
  rw [← hiff, ← hok, approvalProposalPayload, hactor]
  have hsubmitted' : memberLabel (s.withMembers members).proposals.roles.db p.submittedBy =
      .ok submittedLabel := memberLabel_relabelled h hsubmitted
  simp only [hsubmitted', happlication', strategyFacts_relabelled h hstrategy, ok_bind]
  simp only [pure, Except.pure, Except.ok.injEq, publicEventPayload_inj]
  simp only [Json.toPy, Json.toPy_entries, List.map_append, PyVal.dict.injEq,
    List.append_cancel_left_eq, List.append_cancel_right_eq]

end Builders

/-! ## All builders -/

/-- **Privacy.** The payload of a record is the same under other names, numbers and profiles that
leave the public labels as they are, exactly if the names the builder publishes are kept. -/
theorem payloadOf_relabelled_iff (s : LedgerDb rt) (members : MemberTable)
    (h : List.Forall₂ (Relabelled rt) s.directory.members.rows members.rows) (now : Nat)
    (r : PublicRecord) (payload : PyVal) (hok : payloadOf s now r = .ok payload) :
    payloadOf (s.withMembers members) now r = .ok payload ↔ NamesKept s members r := by
  cases r with
  | roleAssignment assignment =>
    exact iff_of_true (roleAssignmentPayload_relabelled h hok) trivial
  | ledgerEntry entry => exact iff_of_true (ledgerEntryPayload_relabelled h hok) trivial
  | task task args => exact iff_of_true (taskEventPayload_relabelled h hok) trivial
  | credentialGrant grant =>
    obtain ⟨template, htemplate, hok⟩ := bind_eq_ok.1 hok
    obtain ⟨m, hm, hok⟩ := bind_eq_ok.1 hok
    obtain ⟨m', hm', hsame⟩ := related_relabelled h hm
    refine iff_of_true (bind_eq_ok.2 ⟨template, htemplate, bind_eq_ok.2 ⟨m', hm', ?_⟩⟩) trivial
    rw [credentialGrantPayload_relabelled hsame]
    exact hok
  | expenseClaim claim =>
    obtain ⟨m, hm, hok⟩ := bind_eq_ok.1 hok
    obtain ⟨m', hm', -⟩ := related_relabelled h hm
    obtain rfl := pure_eq_ok.1 hok
    rw [NamesKept, sameOf_iff hm hm', ← expenseClaimPayload_inj, payloadOf]
    rw [show related (s.withMembers members).directory.members claim.claimantMember "Member" =
      .ok m' from hm', ok_bind, pure_eq_ok]
  | financeReview review =>
    obtain ⟨claim, hclaim, hok⟩ := bind_eq_ok.1 hok
    obtain ⟨m, hm, hok⟩ := bind_eq_ok.1 hok
    obtain ⟨m', hm', -⟩ := related_relabelled h hm
    obtain rfl := pure_eq_ok.1 hok
    rw [NamesKept, sameOf_iff hm hm', ← financeReviewPayload_inj, payloadOf]
    rw [show related (s.withMembers members).claims review.claim "ExpenseClaim" = .ok claim from
      hclaim, ok_bind, show related (s.withMembers members).directory.members
        review.reviewerMember "Member" = .ok m' from hm', ok_bind, pure_eq_ok]
  | financeTransaction txn =>
    obtain ⟨claim, hclaim, hok⟩ := bind_eq_ok.1 hok
    obtain ⟨recordedBy, hrecordedBy, hok⟩ := bind_eq_ok.1 hok
    obtain rfl := pure_eq_ok.1 hok
    cases hby : txn.recordedBy with
    | none =>
      rw [hby] at hrecordedBy
      obtain rfl := Except.ok.inj hrecordedBy
      refine iff_of_true (bind_eq_ok.2 ⟨claim, hclaim, bind_eq_ok.2 ⟨none, ?_, rfl⟩⟩) ?_
      · rw [hby]
        rfl
      · intro pk hpk
        rw [hby] at hpk
        cases hpk
    | some pk =>
      rw [hby] at hrecordedBy
      obtain ⟨m, hm, hsome⟩ := bind_eq_ok.1 hrecordedBy
      obtain rfl := pure_eq_ok.1 hsome
      obtain ⟨m', hm', -⟩ := related_relabelled h hm
      have hby' : optionalMember (s.withMembers members).directory txn.recordedBy =
          .ok (some m') := by
        rw [hby]
        exact bind_eq_ok.2 ⟨m', hm', rfl⟩
      rw [payloadOf, show optionalClaim (s.withMembers members).claims txn.claim = .ok claim from
        hclaim, ok_bind, hby', ok_bind, pure_eq_ok, financeTransactionPayload_inj]
      constructor
      · intro hname key hkey
        rw [hby] at hkey
        obtain rfl := Option.some.inj hkey
        exact (sameOf_iff hm hm').2 hname
      · intro hkept
        exact (sameOf_iff hm hm').1 (hkept pk hby)
  | supplierOffer quote action actor =>
    exact iff_of_true (supplierOfferPayload_relabelled h hok) trivial
  | approvalProposal p action actor =>
    obtain ⟨m, hm, hok⟩ := bind_eq_ok.1 hok
    obtain ⟨m', hm', hlabel⟩ := optionalMember_relabelled h hm
    rw [payloadOf, hm', ok_bind]
    exact approvalProposalPayload_relabelled h hlabel hok
  | electorateRule rule publishedAt actor =>
    obtain ⟨m, hm, hok⟩ := bind_eq_ok.1 hok
    obtain ⟨m', hm', hsame⟩ := related_relabelled h hm
    refine iff_of_true (bind_eq_ok.2 ⟨m', hm', ?_⟩) trivial
    rw [electorateRulePayload_relabelled hsame]
    exact hok

/-! ## A claimant under another name -/

/-- A member with the given name; names of two characters that start alike have one label. -/
def claimant (name : String) : Member := ⟨71, "mem-0071", none, name, .active, []⟩

def claimantRow (name : String) : MemberTable :=
  ⟨[claimant name], List.nodup_singleton _, List.nodup_singleton _⟩

/-- A database with the claimant alone. -/
def claimantDb : LedgerDb textRuntime where
  proposals := {
    roles := {
      db := ⟨claimantRow "张三", Table.empty, Table.empty, Table.empty, [], Table.empty, Table.empty⟩
      templates := Table.empty
      grants := Table.empty
      events := Journal.empty }
    applications := Table.empty
    rules := Table.empty
    proposals := Table.empty
    decisions := Table.empty
    snapshots := Table.empty
    ballots := Table.empty
    resolutions := Table.empty
    executions := Table.empty }
  claims := Table.empty
  resources := Table.empty

def hostingClaim : ExpenseClaim := ⟨1, "claim-1", 71, "托管费", 12000, "CNY", .server, .submitted⟩

def contribution : LedgerEntry :=
  ⟨"ledger-1", 71, 5, .contribution, "打扫", "v1", .posted⟩

theorem claimant_relabelled : List.Forall₂ (Relabelled textRuntime)
    claimantDb.directory.members.rows (claimantRow "张四").rows :=
  .cons ⟨⟨rfl, rfl, rfl⟩, by decide, by decide⟩ .nil

/-- The contribution is announced alike. -/
theorem contribution_relabelled : ∃ payload,
    payloadOf claimantDb 0 (.ledgerEntry contribution) = .ok payload ∧
    payloadOf (claimantDb.withMembers (claimantRow "张四")) 0 (.ledgerEntry contribution) =
      .ok payload :=
  ⟨_, rfl, (payloadOf_relabelled_iff claimantDb (claimantRow "张四") claimant_relabelled 0
    (.ledgerEntry contribution) _ rfl).2 trivial⟩

/-- The expense claim is not: its event contains the name. -/
theorem claimantName_published : ¬ ∀ (s : LedgerDb textRuntime) (members : MemberTable),
    List.Forall₂ (Relabelled textRuntime) s.directory.members.rows members.rows →
    ∀ now r payload, payloadOf s now r = .ok payload →
      payloadOf (s.withMembers members) now r = .ok payload := by
  intro hprivate
  have hsame := hprivate claimantDb (claimantRow "张四") claimant_relabelled 0
    (.expenseClaim hostingClaim) _ rfl
  have hpayload : expenseClaimPayload hostingClaim (claimant "张四") =
      expenseClaimPayload hostingClaim (claimant "张三") := Except.ok.inj hsame
  have hname : publicName (claimant "张四") ≠ publicName (claimant "张三") := by decide
  exact hname (expenseClaimPayload_inj.1 hpayload)

end LiveOs.PublicLedger
