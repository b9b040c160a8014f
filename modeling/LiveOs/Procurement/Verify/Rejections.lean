import LiveOs.Procurement.Services
import LiveOs.Proposals.Verify.Closing

/-!
# Rejections of acceptance proposals

`reject_proposal` makes the checks of an approval up to the order of the slots, and then writes a
decision of its own and rejects the offer. The decision table has one row for a proposal, a member
and a role, whatever was decided, and the offer has to be open still.
-/

namespace LiveOs.Procurement

open Lib EventLedger Roles Proposals

variable {rt : Runtime} {env : ProcurementEnv} {s s' : ProcurementState rt} {p : ApprovalProposal}
  {quote : SupplierQuote} {m : Member}

/-! ## Events -/

/-- The state with another ledger. -/
def ProcurementState.withEvents (s : ProcurementState rt) (events : Journal rt) :
    ProcurementState rt :=
  { s with proposals := { s.proposals with roles := { s.proposals.roles with events := events } } }

theorem supplierOfferFacts_factOk (quote : SupplierQuote) (resource : Resource)
    (submittedByLabel actorLabel : String) :
    ∀ f ∈ supplierOfferFacts quote resource submittedByLabel actorLabel, FactOk f := by
  have hkeys : ∀ key ∈ ["quote_id", "resource_id", "resource_name", "submitted_by_display",
      "actor_display", "offer_type", "available_quantity", "unit_price", "currency",
      "decision_status", "receipt_status", "payment_status", "approval_tier",
      "estimated_total_amount", "credential_id"], FreeKey key := by
    decide
  simp only [List.forall_mem_cons, List.not_mem_nil, false_imp_iff, implies_true, and_true]
    at hkeys
  simp only [supplierOfferFacts, List.forall_mem_cons, List.not_mem_nil, false_imp_iff,
    implies_true, and_true]
  obtain ⟨h₁, h₂, h₃, h₄, h₅, h₆, h₇, h₈, h₉, h₁₀, h₁₁, h₁₂, h₁₃, h₁₄, h₁₅⟩ := hkeys
  exact ⟨factOk_str h₁ _, factOk_str h₂ _, factOk_str h₃ _, factOk_str h₄ _, factOk_str h₅ _,
    factOk_str h₆ _, factOk_str h₇ _, factOk_str h₈ _, factOk_str h₉ _, factOk_str h₁₀ _,
    factOk_str h₁₁ _, factOk_str h₁₂ _, factOk_str h₁₃ _, factOk_str h₁₄ _, factOk_str h₁₅ _⟩

/-- The payload of an offer is accepted by the ledger. -/
theorem supplierOfferPayload_accepted {db : Directory} {resources : ResourceTable}
    {action : String} {actor : Option Nat} {payload : PyVal} {req : AppendRequest}
    (h : supplierOfferPayload db resources quote action actor = .ok payload)
    (haction : ¬ blank action) (hreq : req.payloadJson = payload) :
    checkRequest rt req = .ok () := by
  obtain ⟨resource, -, h⟩ := bind_eq_ok.1 h
  obtain ⟨submittedByLabel, -, h⟩ := bind_eq_ok.1 h
  obtain ⟨actorLabel, -, h⟩ := bind_eq_ok.1 h
  have hpayload := hreq.trans (pure_eq_ok.1 h).symm
  refine checkRequest_publicEventPayload hpayload (by decide)
    (not_blank_publicRef (c := 's') (by decide) (by decide) (by decide) _)
    (not_blank_append (c := '报') (by decide) (by decide) _) haction ?_ ?_
    (supplierOfferFacts_factOk _ _ _ _) ?_
  · cases quote.decisionStatus <;> decide
  · simp only [String.append_assoc]
    exact not_blank_append (c := '报') (by decide) (by decide) _
  · simp only [List.forall_mem_cons, List.not_mem_nil, false_imp_iff, implies_true, and_true]
    exact ⟨commitmentOk _ _ _, commitmentOk _ _ _, commitmentOk _ _ _, commitmentOk _ _ _⟩

/-- The rows an offer refers to are there. -/
structure OfferRows (db : Directory) (resources : ResourceTable) (quote : SupplierQuote) :
    Prop where
  resource : ∃ r ∈ resources.rows, r.resourceId = quote.resource
  offerer : ∀ pk, quote.submittedBy = some pk → ∃ m ∈ db.members.rows, m.pk = pk

theorem optionalLabel_of_row {db : Directory} {pk : Option Nat}
    (h : ∀ k, pk = some k → ∃ m ∈ db.members.rows, m.pk = k) :
    ∃ label, optionalLabel db pk = .ok label := by
  cases pk with
  | none => exact ⟨_, rfl⟩
  | some k =>
    obtain ⟨m, hm, hpk⟩ := h k rfl
    exact ⟨_, bind_eq_ok.2 ⟨m, related_eq_ok.2 (Table.get?_eq_some.2 ⟨hm, hpk⟩), rfl⟩⟩

/-- The event of an offer can be written. -/
theorem appendOfferEvent_of_rows {now : Nat} {eventType action : String} {occurredAt : Option Nat}
    (h : OfferRows s.directory s.resources quote) (hm : m ∈ s.directory.members.rows)
    (haction : ¬ blank action) : ∃ events,
      appendOfferEvent s now quote eventType action m occurredAt = .ok (s.withEvents events) := by
  obtain ⟨r, hr, hid⟩ := h.resource
  obtain ⟨submittedByLabel, hsubmitted⟩ := optionalLabel_of_row h.offerer
  obtain ⟨actorLabel, hactor⟩ : ∃ label, optionalLabel s.directory (some m.pk) = .ok label := by
    refine optionalLabel_of_row fun k hk => ⟨m, hm, ?_⟩
    exact Option.some.inj hk
  obtain ⟨payload, hpayload⟩ : ∃ payload,
      supplierOfferPayload s.directory s.resources quote action (some m.pk) = .ok payload :=
    ⟨_, bind_eq_ok.2 ⟨r, related_eq_ok.2 (Table.get?_eq_some.2 ⟨hr, hid⟩),
      bind_eq_ok.2 ⟨_, hsubmitted, bind_eq_ok.2 ⟨_, hactor, rfl⟩⟩⟩⟩
  have hcheck : checkRequest rt {
      eventType := eventType
      aggregateType := "SupplierQuote"
      aggregateId := quote.quoteId
      actorMember := some m.pk
      payloadJson := payload
      occurredAt := occurredAt
      now := now } = .ok () := supplierOfferPayload_accepted hpayload haction rfl
  obtain ⟨events, hevents, -⟩ := s.proposals.roles.events.append_of_checkRequest hcheck
  exact ⟨events, bind_eq_ok.2 ⟨payload, hpayload, bind_eq_ok.2 ⟨events, hevents, rfl⟩⟩⟩

/-- So can that of an acceptance proposal with slots. -/
theorem appendDecisionEvent_of_rows {now : Nat} {eventType action : String}
    (htype : p.proposalType = .procurementAcceptance) (hstrategy : p.strategyType = .approvalSlots)
    (htitle : ¬ blank p.title) (hsubmitter : ∃ m ∈ s.directory.members.rows, m.pk = p.submittedBy)
    (haction : ¬ blank action) : ∃ events,
      appendDecisionEvent s now p eventType action m = .ok (s.withEvents events) := by
  obtain ⟨submitter, hmem, hpk⟩ := hsubmitter
  have hlabel : memberLabel s.proposals.roles.db p.submittedBy = .ok submitter.publicLabel := by
    rw [memberLabel]
    have hget := Table.get?_eq_some.2 ⟨hmem, hpk⟩
    simp only [ProcurementState.directory] at hget
    rw [hget]
  have happlication : applicationFacts s.proposals p = .ok [] := by
    rw [applicationFacts, if_neg (by rw [htype]; decide)]
  obtain ⟨strategy, hfacts⟩ : ∃ facts, strategyFacts s.proposals now p = .ok facts := by
    unfold strategyFacts
    rw [if_neg (by rw [hstrategy]; decide)]
    exact ⟨_, rfl⟩
  obtain ⟨payload, hpayload⟩ : ∃ payload,
      approvalProposalPayload s.proposals now p action (some m) = .ok payload :=
    ⟨_, bind_eq_ok.2 ⟨_, hlabel, bind_eq_ok.2 ⟨_, happlication, bind_eq_ok.2 ⟨_, hfacts, rfl⟩⟩⟩⟩
  have htexts : ¬ blank (publicTexts p).1 := by
    rw [publicTexts, if_neg (by rw [htype]; decide)]
    exact htitle
  have hcheck : checkRequest rt {
      eventType := eventType
      aggregateType := "ApprovalProposal"
      aggregateId := p.proposalId
      actorMember := some m.pk
      payloadJson := payload
      occurredAt := some now
      now := now } = .ok () := approvalProposalPayload_accepted hpayload htexts haction rfl
  obtain ⟨events, hevents, -⟩ := s.proposals.roles.events.append_of_checkRequest hcheck
  refine ⟨events, bind_eq_ok.2 ⟨{ s.proposals with roles := { s.proposals.roles with
    events := events } }, ?_, rfl⟩⟩
  exact bind_eq_ok.2 ⟨payload, hpayload, bind_eq_ok.2 ⟨events, hevents, rfl⟩⟩

/-! ## The offer -/

/-- The row of an offer after its rejection. -/
theorem mem_saveQuote (hquote : quote ∈ s.quotes.rows) {changed : SupplierQuote}
    (hid : changed.quoteId = quote.quoteId) :
    ∃ q ∈ (saveQuote s changed).quotes.rows, q.quoteId = quote.quoteId ∧
      q.decisionStatus = changed.decisionStatus := by
  refine ⟨_, List.mem_map.2 ⟨quote, hquote, rfl⟩, ?_⟩
  rw [if_pos hid.symm]
  exact ⟨rfl, rfl⟩

/-- The offer as a rejection saves it. -/
def rejectedOffer (env : ProcurementEnv) (quote : SupplierQuote) (m : Member) (reason : String) :
    SupplierQuote :=
  { quote with
    decisionStatus := .rejected
    rejectedBy := some m.pk
    rejectedAt := some env.now
    decisionReason := reason }

/-- An open offer whose rows are there can be rejected. -/
theorem rejectResourceOffer_of_rows {reason : String} (hquote : quote ∈ s.quotes.rows)
    (hopen : quote.decisionStatus = .submitted) (h : OfferRows s.directory s.resources quote)
    (hm : m ∈ s.directory.members.rows) : ∃ events,
      rejectResourceOffer env s quote.quoteId m reason =
        .ok ((saveQuote s (rejectedOffer env quote m reason)).withEvents events) := by
  have hlock : lockQuote s quote.quoteId = .ok quote := by
    rw [lockQuote, Table.get?_eq_some.2 ⟨hquote, rfl⟩]
  have hcheck : rejectIf (quote.decisionStatus ≠ .submitted)
      (Error.domain "只能拒绝状态为'已提交'的报价。") = .ok () :=
    rejectIf_neg fun hne => hne hopen
  obtain ⟨events, hevent⟩ := @appendOfferEvent_of_rows rt
    (saveQuote s (rejectedOffer env quote m reason)) (rejectedOffer env quote m reason) m env.now
    "supplier_offer_rejected" "rejected" (some env.now) ⟨h.resource, h.offerer⟩ hm (by decide)
  exact ⟨events, bind_eq_ok.2 ⟨quote, hlock, bind_eq_ok.2 ⟨(), hcheck, hevent⟩⟩⟩

/-- A decided offer cannot. -/
theorem rejectResourceOffer_open {quoteId reason : String}
    (h : rejectResourceOffer env s quoteId m reason = .ok s') :
    ∃ q ∈ s.quotes.rows, q.quoteId = quoteId ∧ q.decisionStatus = .submitted := by
  obtain ⟨q, hlock, h⟩ := bind_eq_ok.1 h
  obtain ⟨hopen, -⟩ := rejectIf_bind_eq_ok.1 h
  unfold lockQuote at hlock
  split at hlock
  · cases hlock
  · rename_i q' hget
    obtain rfl := Except.ok.inj hlock
    obtain ⟨hq, hid⟩ := Table.get?_eq_some.1 hget
    exact ⟨_, hq, hid, not_not.1 hopen⟩

/-! ## The proposal -/

/-- An acceptance proposal with approval slots, its offer, and the rows both refer to. The title was
accepted by the ledger when the proposal was submitted. -/
structure AcceptanceRows (s : ProcurementState rt) (p : ApprovalProposal) (quote : SupplierQuote) :
    Prop where
  proposal : p ∈ s.proposals.proposals.rows
  proposalType : p.proposalType = .procurementAcceptance
  strategy : p.strategyType = .approvalSlots
  title : ¬ blank p.title
  target : p.targetType = "supplier_quote" ∧ p.targetId = quote.quoteId
  submitter : ∃ m ∈ s.directory.members.rows, m.pk = p.submittedBy
  offer : quote ∈ s.quotes.rows
  rows : OfferRows s.directory s.resources quote

/-- The member may decide in the slot, as far as proposal and permissions go. -/
structure MayDecide (env : ProcurementEnv) (s : ProcurementState rt) (p : ApprovalProposal)
    (m : Member) (role : String) : Prop where
  member : m ∈ s.directory.members.rows
  submitted : p.status = .submitted
  required : role ∈ validApprovalRoles p
  held : role ∈ memberRoleForProposal s.proposals env.now m

/-- Both the proposal and the offer are rejected. -/
structure BothRejected (s' : ProcurementState rt) (p : ApprovalProposal) (quote : SupplierQuote) :
    Prop where
  proposal : ∃ p' ∈ s'.proposals.proposals.rows, p'.proposalId = p.proposalId ∧
    p'.status = .rejected
  quote : ∃ q ∈ s'.quotes.rows, q.quoteId = quote.quoteId ∧ q.decisionStatus = .rejected

theorem slotChecks_of_mayDecide {role statusMessage roleMessage : String}
    (h : MayDecide env s p m role) (htype : p.proposalType = .procurementAcceptance) :
    slotChecks env.proposal s.proposals p m role statusMessage roleMessage = .ok () := by
  refine rejectIf_bind_eq_ok.2 ⟨by rw [htype]; decide, ?_⟩
  refine rejectIf_bind_eq_ok.2 ⟨fun hne => hne h.submitted, ?_⟩
  refine rejectIf_bind_eq_ok.2 ⟨by simpa using h.required, ?_⟩
  exact rejectIf_neg (by simpa [ProcurementEnv.proposal] using h.held)

/-- The decision can be recorded. -/
structure SlotFree (env : ProcurementEnv) (s : ProcurementState rt) (p : ApprovalProposal)
    (m : Member) (role : String) : Prop where
  undecided : ∀ d ∈ s.proposals.decisions.rows,
    ¬ (d.proposal = p.proposalId ∧ d.approver = m.pk ∧ d.role = role)
  freshId : ∀ d ∈ s.proposals.decisions.rows, d.approvalId ≠ "approval-" ++ env.uuid

theorem insert_decision_iff {role reason : String} {decision : SlotDecision} :
    (∃ decisions, s.proposals.decisions.insert
        (newDecision env.proposal p.proposalId m.pk role decision reason) Error.integrity =
          .ok decisions) ↔ SlotFree env s p m role := by
  constructor
  · rintro ⟨decisions, h⟩
    obtain ⟨-, hid, hslot⟩ := Table.insert_ok h
    refine ⟨fun d hd heq => hslot (p.proposalId, m.pk, role) rfl d hd ?_, hid⟩
    rw [heq.1, heq.2.1, heq.2.2]
  · intro h
    obtain ⟨decisions, hinsert, -⟩ := @Table.insert_of_fresh _ _ _ _ _ _ _ _ s.proposals.decisions
      (newDecision env.proposal p.proposalId m.pk role decision reason) Error.integrity h.freshId
      (by
        intro a ha d hd heq
        obtain rfl := Option.some.inj ha
        simp only [Option.some.injEq, Prod.mk.injEq] at heq
        exact h.undecided d hd heq)
    exact ⟨decisions, hinsert⟩

/-- The proposal as a rejection saves it. -/
def rejectedRow (env : ProcurementEnv) (p : ApprovalProposal) : ApprovalProposal :=
  { p with status := .rejected, resolvedAt := some env.now }

/-- The state in which the offer is rejected. -/
def rejectedStart (env : ProcurementEnv) (s : ProcurementState rt) (p : ApprovalProposal)
    (decisions : DecisionTable) : ProcurementState rt :=
  { s with proposals :=
    saveProposal { s.proposals with decisions := decisions } (rejectedRow env p) }

theorem mem_rejectedStart {decisions : DecisionTable} (hp : p ∈ s.proposals.proposals.rows) :
    ∃ p' ∈ (rejectedStart env s p decisions).proposals.proposals.rows,
      p'.proposalId = p.proposalId ∧ p'.status = .rejected := by
  refine ⟨_, List.mem_map.2 ⟨p, hp, rfl⟩, ?_⟩
  rw [if_pos (show p.proposalId = (rejectedRow env p).proposalId from rfl)]
  exact ⟨rfl, rfl⟩

theorem syncRejection_eq (h : AcceptanceRows s p quote) {decisions : DecisionTable}
    {reason : String} :
    syncRejection env (rejectedStart env s p decisions) (rejectedRow env p) m reason =
      rejectResourceOffer env (rejectedStart env s p decisions) quote.quoteId m reason := by
  have hget : (rejectedStart env s p decisions).quotes.get? quote.quoteId = some quote :=
    Table.get?_eq_some.2 ⟨h.offer, rfl⟩
  unfold syncRejection
  rw [if_pos ⟨h.proposalType, h.target.1⟩]
  simp only [rejectedRow, h.target.2, hget, Option.isNone_some, Bool.false_eq_true, if_false]

/-- A rejection that goes through found the slot free and the offer open. -/
theorem rejectProposal_free {role reason : String} (h : AcceptanceRows s p quote)
    (hreject : rejectProposal env s p.proposalId m role reason = .ok s') :
    SlotFree env s p m role ∧ quote.decisionStatus = .submitted := by
  have hlock : lockProposal s.proposals p.proposalId = .ok p := by
    rw [lockProposal, Table.get?_eq_some.2 ⟨h.proposal, rfl⟩]
  obtain ⟨locked, hlocked, hreject⟩ := bind_eq_ok.1 hreject
  obtain rfl := Except.ok.inj (hlock.symm.trans hlocked)
  obtain ⟨⟨⟩, -, hreject⟩ := bind_eq_ok.1 hreject
  obtain ⟨decisions, hinsert, hreject⟩ := bind_eq_ok.1 hreject
  obtain ⟨s₁, hsync, -⟩ := bind_eq_ok.1 hreject
  refine ⟨insert_decision_iff.1 ⟨decisions, hinsert⟩, ?_⟩
  obtain ⟨q, hq, hid, hopen⟩ := rejectResourceOffer_open ((syncRejection_eq h).symm.trans hsync)
  rwa [Table.eq_of_pk _ hq h.offer hid] at hopen

/-- A free slot and an open offer are enough. -/
theorem rejectProposal_of_free {role reason : String} (h : AcceptanceRows s p quote)
    (hmay : MayDecide env s p m role) (hfree : SlotFree env s p m role)
    (hopen : quote.decisionStatus = .submitted) :
    ∃ s', rejectProposal env s p.proposalId m role reason = .ok s' ∧ BothRejected s' p quote := by
  have hlock : lockProposal s.proposals p.proposalId = .ok p := by
    rw [lockProposal, Table.get?_eq_some.2 ⟨h.proposal, rfl⟩]
  obtain ⟨decisions, hinsert⟩ := (@insert_decision_iff rt env s p m role reason .rejected).2 hfree
  obtain ⟨events, hoffer⟩ :=
    @rejectResourceOffer_of_rows rt env (rejectedStart env s p decisions) quote m reason h.offer
      hopen h.rows hmay.member
  have hsync := (@syncRejection_eq rt env s p quote m h decisions reason).trans hoffer
  obtain ⟨events', hevent⟩ := @appendDecisionEvent_of_rows rt
    ((saveQuote (rejectedStart env s p decisions) (rejectedOffer env quote m reason)).withEvents
      events) (rejectedRow env p) m env.now "approval_proposal_rejected" "rejected" h.proposalType h.strategy
    h.title h.submitter (by decide)
  refine ⟨_, bind_eq_ok.2 ⟨p, hlock, bind_eq_ok.2 ⟨(), slotChecks_of_mayDecide hmay h.proposalType,
    bind_eq_ok.2 ⟨decisions, hinsert, bind_eq_ok.2 ⟨_, hsync, hevent⟩⟩⟩⟩, ?_, ?_⟩
  · exact mem_rejectedStart h.proposal
  · exact @mem_saveQuote rt (rejectedStart env s p decisions) quote h.offer
      (rejectedOffer env quote m reason) rfl

/-- **When a reviewer can reject.** -/
theorem rejectProposal_bothRejected_iff (env : ProcurementEnv) (s : ProcurementState rt)
    (p : ApprovalProposal) (quote : SupplierQuote) (m : Member) (role reason : String)
    (hrows : AcceptanceRows s p quote) (hmay : MayDecide env s p m role) :
    (∃ s', rejectProposal env s p.proposalId m role reason = .ok s' ∧ BothRejected s' p quote) ↔
      SlotFree env s p m role ∧ quote.decisionStatus = .submitted := by
  constructor
  · rintro ⟨s', h, -⟩
    exact rejectProposal_free hrows h
  · rintro ⟨hfree, hopen⟩
    exact rejectProposal_of_free hrows hmay hfree hopen

/-! ## A change of mind -/

def chair : Member := ⟨0, "m", none, "m", .active, []⟩

/-- The chair is a covenanter with an administrative role. -/
def office : Directory where
  members := ⟨[chair], List.nodup_singleton _, List.nodup_singleton _⟩
  organizations := lapsedReviewer.organizations
  roles := lapsedReviewer.roles
  assignments := lapsedReviewer.assignments
  rolePermissions := [⟨1, "governance.view_admin"⟩]
  domains := Table.empty
  qualifications := Table.empty

/-- A resource that accepts offers, and nothing offered yet. -/
def openStore : ProcurementState textRuntime where
  proposals := {
    roles := ⟨office, Table.empty, Table.empty, Journal.empty⟩
    applications := Table.empty
    rules := Table.empty
    proposals := Table.empty
    decisions := Table.empty
    snapshots := Table.empty
    ballots := Table.empty
    resolutions := Table.empty
    executions := Table.empty }
  resources := ⟨[⟨"r", "r", "material", "kg", ⟨0, -3⟩, ⟨0, -3⟩, "purchase", true, []⟩],
    List.nodup_singleton _, List.nodup_nil⟩
  quotes := Table.empty
  stock := Table.empty
  resourceEvents := Table.empty

def officeEnv (now : Nat) (uuid : String) : ProcurementEnv :=
  ⟨now, id, uuid, uuid, uuid, [uuid], [uuid]⟩

/-- An offer of 10 kg at 100, which needs two slots. -/
def standardOffer : ProcurementEnv × ProcurementCall :=
  (officeEnv 1 "a", .submit ⟨"r", chair, "quote", ⟨10, 0⟩, ⟨100, 0⟩, "rmb", "", "", "public"⟩)

/-- The state in which the offer waits. -/
def offered : ProcurementState textRuntime := runCalls procurementStep openStore [standardOffer]

/-- The state in which the chair has approved it for governance. -/
def halfApproved : ProcurementState textRuntime :=
  runCalls procurementStep openStore
    [standardOffer, (officeEnv 2 "b", .approve "proposal-a" chair "governance" "")]

/-- The first rows of a state, which the acceptance of an offer connects. -/
def FirstRows (s : ProcurementState textRuntime) : Prop :=
  s.directory.members.rows ≠ [] ∧ s.resources.rows ≠ [] ∧ s.quotes.rows ≠ [] ∧
    s.proposals.proposals.rows ≠ []

instance (s : ProcurementState textRuntime) : Decidable (FirstRows s) :=
  inferInstanceAs (Decidable (_ ∧ _))

namespace FirstRows

variable {s : ProcurementState textRuntime} (rows : FirstRows s)

def member : Member := s.directory.members.rows.head rows.1

def resource : Resource := s.resources.rows.head rows.2.1

def offer : SupplierQuote := s.quotes.rows.head rows.2.2.1

def proposal : ApprovalProposal := s.proposals.proposals.rows.head rows.2.2.2

/-- The proposal is about the offer, and both are of the member and of the resource. -/
def Connected : Prop :=
  rows.proposal.proposalType = .procurementAcceptance ∧
  rows.proposal.strategyType = .approvalSlots ∧ ¬ blank rows.proposal.title ∧
  rows.proposal.targetType = "supplier_quote" ∧
  rows.proposal.targetId = rows.offer.quoteId ∧ rows.member.pk = rows.proposal.submittedBy ∧
  rows.resource.resourceId = rows.offer.resource ∧ rows.offer.submittedBy = some rows.member.pk

/-- The proposal waits for the member to fill the slot for governance at 3. -/
def Waiting : Prop :=
  rows.proposal.status = .submitted ∧ "governance" ∈ validApprovalRoles rows.proposal ∧
    "governance" ∈ memberRoleForProposal s.proposals 3 rows.member

/-- A decision of the member for governance. -/
def Decided : Prop :=
  ∃ d ∈ s.proposals.decisions.rows, d.proposal = rows.proposal.proposalId ∧
    d.approver = rows.member.pk ∧ d.role = "governance"

instance : Decidable rows.Connected := inferInstanceAs (Decidable (_ ∧ _))

instance : Decidable rows.Waiting := inferInstanceAs (Decidable (_ ∧ _))

instance : Decidable rows.Decided := inferInstanceAs (Decidable (∃ d ∈ _, _))

theorem acceptanceRows (h : rows.Connected) : AcceptanceRows s rows.proposal rows.offer := by
  obtain ⟨htype, hstrategy, htitle, htarget, hid, hsubmitter, hresource, hofferer⟩ := h
  refine ⟨List.head_mem _, htype, hstrategy, htitle, ⟨htarget, hid⟩,
    ⟨_, List.head_mem rows.1, hsubmitter⟩, List.head_mem _, ⟨_, List.head_mem _, hresource⟩, ?_⟩
  intro pk hpk
  exact ⟨_, List.head_mem rows.1, Option.some.inj (hofferer.symm.trans hpk)⟩

theorem mayDecide (h : rows.Waiting) :
    MayDecide (officeEnv 3 "c") s rows.proposal rows.member "governance" :=
  ⟨List.head_mem _, h.1, h.2.1, h.2.2⟩

end FirstRows

theorem offered_rows : FirstRows offered := by decide +kernel

theorem offered_waiting : offered_rows.Connected ∧ offered_rows.Waiting ∧
    offered.proposals.decisions.rows.isEmpty = true ∧
    offered_rows.offer.decisionStatus = .submitted := by
  decide +kernel

theorem halfApproved_rows : FirstRows halfApproved := by decide +kernel

theorem halfApproved_waiting : halfApproved_rows.Connected ∧ halfApproved_rows.Waiting ∧
    halfApproved_rows.Decided := by
  decide +kernel

/-- The chair, who has approved for governance, cannot reject for governance any more. -/
theorem rejectProposal_afterApproval : ¬ ∀ (env : ProcurementEnv) (s : ProcurementState textRuntime)
    (p : ApprovalProposal) (quote : SupplierQuote) (m : Member) (role reason : String),
    AcceptanceRows s p quote → MayDecide env s p m role →
    ∃ s', rejectProposal env s p.proposalId m role reason = .ok s' ∧ BothRejected s' p quote := by
  intro hclaim
  obtain ⟨hconnected, hwaiting, d, hd, hsame⟩ := halfApproved_waiting
  have hrows := halfApproved_rows.acceptanceRows hconnected
  obtain ⟨s', h, -⟩ := hclaim _ _ _ _ _ _ "" hrows (halfApproved_rows.mayDecide hwaiting)
  obtain ⟨hfree, -⟩ := rejectProposal_free hrows h
  exact hfree.undecided d hd hsame

/-- As long as nothing is approved, the chair can. -/
theorem rejectProposal_bothRejected_offered : ∃ s',
    rejectProposal (officeEnv 3 "c") offered offered_rows.proposal.proposalId offered_rows.member
      "governance" "" = .ok s' ∧ BothRejected s' offered_rows.proposal offered_rows.offer := by
  obtain ⟨hconnected, hwaiting, hnone, hopen⟩ := offered_waiting
  refine (rejectProposal_bothRejected_iff _ _ _ _ _ _ ""
    (offered_rows.acceptanceRows hconnected) (offered_rows.mayDecide hwaiting)).2 ⟨⟨?_, ?_⟩, hopen⟩
  · rw [List.isEmpty_iff.1 hnone]
    exact fun d hd => absurd hd List.not_mem_nil
  · rw [List.isEmpty_iff.1 hnone]
    exact fun d hd => absurd hd List.not_mem_nil

end LiveOs.Procurement
