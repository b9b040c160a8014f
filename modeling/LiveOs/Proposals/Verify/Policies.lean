import LiveOs.Lib.RevisionLog
import LiveOs.Proposals.Verify.CaseFiles
import LiveOs.Proposals.Verify.Lifecycle

/-!
# Policies

What a call of the members who keep the policies does to the book of rules, said once: it adds a
template under a new code, adds a version with the next number of its template, or leaves the book.
Hence over every run the versions of a template are numbered as they are published and no row ever
changes, and the rule that a new proposal gets is the one published last. Activating a rule opens
the vote on exactly the proposals that wait for it.
-/

namespace LiveOs.Proposals

open Lib EventLedger Roles

variable {rt : Runtime} {env : ProposalEnv} {s s' s₁ s₂ : ProposalState rt} {u u' : PolicyState rt}
  {rule : ElectorateRuleVersion} {p : ApprovalProposal}

/-! ## The book of rules -/

def PolicyState.rules (u : PolicyState rt) : List ElectorateRuleVersion :=
  u.applications.proposals.rules.rows

/-- What a call does to the book. -/
inductive BookStep (now : Nat) (u u' : PolicyState rt) : Prop
  | same (rules : u'.rules = u.rules) (templates : u'.templates = u.templates)
    (times : u'.applications.publishedAt = u.applications.publishedAt)
  | template (t : ElectorateRuleTemplate)
    (fresh : ∀ t' ∈ u.templates.rows, t'.ruleCode ≠ t.ruleCode)
    (named : t.ruleCode ≠ "" ∧ t.proposalType ≠ "")
    (templates : u'.templates.rows = u.templates.rows ++ [t]) (rules : u'.rules = u.rules)
    (times : u'.applications.publishedAt = u.applications.publishedAt)
  | published (r : ElectorateRuleVersion) (mem : r.template ∈ u.templates.rows)
    (fresh : ∀ r' ∈ u.rules, r'.ruleVersionId ≠ r.ruleVersionId)
    (next : r.version = (versionsOf u.rules r.template.ruleCode).foldr max 0 + 1)
    (active : r.template.ruleCode ∉ u.applications.retiredRules)
    (valid : Electorate.validateSelectorNode u.applications.proposals.roles.db 0 r.selectorConfig =
      .ok ())
    (rules : u'.rules = u.rules ++ [r]) (templates : u'.templates = u.templates)
    (times : u'.applications.publishedAt = u.applications.publishedAt ++ [(r.ruleVersionId, now)])

theorem createElectorateRuleTemplate_book {proposalType ruleCode name : String}
    {createdBy : Member} {t : ElectorateRuleTemplate} {now : Nat}
    (h : createElectorateRuleTemplate env u proposalType ruleCode name createdBy = .ok (u', t)) :
    BookStep now u u' ∧ t.proposalType = proposalType := by
  obtain ⟨-, -, h⟩ := bind_eq_ok.1 h
  obtain ⟨hnamed, h⟩ := rejectIf_bind_eq_ok.1 h
  cases hget : u.templates.get? ruleCode with
  | some template =>
    rw [hget] at h
    obtain ⟨htype, h⟩ := rejectIf_bind_eq_ok.1 h
    obtain ⟨rfl, rfl⟩ := Prod.mk.inj (pure_eq_ok.1 h)
    exact ⟨.same rfl rfl rfl, not_not.1 htype⟩
  | none =>
    rw [hget] at h
    obtain ⟨templates, hinsert, h⟩ := bind_eq_ok.1 h
    obtain ⟨rfl, rfl⟩ := Prod.mk.inj (pure_eq_ok.1 h)
    exact ⟨.template ⟨ruleCode, proposalType, name⟩ (Table.get?_eq_none.1 hget) (not_or.1 hnamed)
      (Table.insert_ok hinsert).1 rfl rfl, rfl⟩

theorem storeRuleVersion_ok {r : ElectorateRuleVersion} {publishedBy : Member}
    (h : storeRuleVersion env u r publishedBy = .ok u') :
    u'.rules = u.rules ++ [r] ∧ (∀ r' ∈ u.rules, r'.ruleVersionId ≠ r.ruleVersionId) ∧
      u'.templates = u.templates ∧
      u'.applications.publishedAt = u.applications.publishedAt ++ [(r.ruleVersionId, env.now)] := by
  obtain ⟨rules, hinsert, h⟩ := bind_eq_ok.1 h
  obtain ⟨applications, happend, h⟩ := bind_eq_ok.1 h
  obtain rfl := pure_eq_ok.1 h
  obtain ⟨events, -, happend⟩ := bind_eq_ok.1 happend
  obtain rfl := pure_eq_ok.1 happend
  obtain ⟨hrows, hfresh, -⟩ := Table.insert_ok hinsert
  exact ⟨hrows, hfresh, rfl, rfl⟩

theorem publishElectorateRuleVersion_book {args : PublishArgs}
    (h : publishElectorateRuleVersion env u args = .ok (u', rule)) : BookStep env.now u u' := by
  obtain ⟨-, -, h⟩ := bind_eq_ok.1 h
  cases hget : u.templates.get? args.ruleCode with
  | none =>
    rw [hget] at h
    cases h
  | some locked =>
    rw [hget] at h
    obtain ⟨hretired, h⟩ := rejectIf_bind_eq_ok.1 h
    dsimp only at h
    split at h
    · cases h
    · next hvalid =>
      split at h
      · next hpositive =>
        split at h
        · cases h
        · obtain ⟨u₁, hstore, h⟩ := bind_eq_ok.1 h
          obtain ⟨rfl, rfl⟩ := Prod.mk.inj (pure_eq_ok.1 h)
          obtain ⟨hrules, hfresh, htemplates, htimes⟩ := storeRuleVersion_ok hstore
          exact .published _ (Table.get?_eq_some.1 hget).1 hfresh rfl
            (fun hmem => hretired (List.contains_iff_mem.2 hmem)) hvalid hrules htemplates htimes
      · cases h

/-! ## Activation -/

/-- The proposals that a rule is activated for. -/
def WaitsFor (rule : ElectorateRuleVersion) (p : ApprovalProposal) : Prop :=
  p.proposalType.value = rule.template.proposalType ∧ p.strategyType = .electorate ∧
    p.status = .awaitingPolicy

/-- A waiting proposal once its vote is open under the rule. -/
def wokenUp (rule : ElectorateRuleVersion) (now : Nat) (p : ApprovalProposal) : ApprovalProposal :=
  openVoting { p with electorateRuleVersion := some rule.ruleVersionId, status := .draft } rule now

theorem attachRuleVersion_ok {proposalId : String} {q : ApprovalProposal}
    (h : attachRuleVersion s proposalId rule = .ok (s', q)) :
    ∃ p ∈ s.proposals.rows, p.proposalId = proposalId ∧
      q = { p with electorateRuleVersion := some rule.ruleVersionId, status := .draft } ∧
      Replaces s s' q ∧ s'.rules = s.rules := by
  obtain ⟨locked, hlock, h⟩ := bind_eq_ok.1 h
  obtain ⟨hmem, hid⟩ := lockProposal_ok hlock
  obtain ⟨-, h⟩ := rejectIf_bind_eq_ok.1 h
  obtain ⟨-, h⟩ := rejectIf_bind_eq_ok.1 h
  obtain ⟨_, -, h⟩ := bind_eq_ok.1 h
  obtain ⟨rfl, rfl⟩ := Prod.mk.inj (pure_eq_ok.1 h)
  exact ⟨locked, hmem, hid, rfl, saveProposal_replaces hmem rfl, rfl⟩

/-- Opening the vote on a draft. -/
theorem startElectorateVoting_draft {q q' : ApprovalProposal} (hq : q ∈ s.proposals.rows)
    (hdraft : q.status = .draft) (hrule : rule ∈ s.rules.rows)
    (hruleId : q.electorateRuleVersion = some rule.ruleVersionId)
    (h : startElectorateVoting env s q.proposalId = .ok (s', q')) :
    Replaces s s' (openVoting q rule env.now) ∧ s'.rules = s.rules := by
  obtain ⟨locked, hlock, hrun⟩ := bind_eq_ok.1 h
  obtain ⟨hmem, hid⟩ := lockProposal_ok hlock
  obtain rfl := s.proposals.eq_of_pk hmem hq hid
  obtain ⟨-, hrun⟩ := rejectIf_bind_eq_ok.1 hrun
  rw [if_neg (by simp [hdraft])] at hrun
  obtain ⟨-, hrun⟩ := rejectIf_bind_eq_ok.1 hrun
  obtain ⟨rule', hrule', hrun⟩ := bind_eq_ok.1 hrun
  obtain ⟨hmem', hruleId'⟩ := ruleOf_ok hrule'
  have hsame : rule' = rule := by
    rw [hruleId] at hruleId'
    exact s.rules.eq_of_pk hmem' hrule (Option.some.inj hruleId').symm
  rw [hsame] at hrun
  obtain ⟨-, hrun⟩ := rejectIf_bind_eq_ok.1 hrun
  obtain ⟨adapter, -, hrun⟩ := bind_eq_ok.1 hrun
  obtain ⟨excluded, -, hrun⟩ := bind_eq_ok.1 hrun
  obtain ⟨s₁, hgenerate, hrun⟩ := bind_eq_ok.1 hrun
  obtain ⟨submittedBy, -, hrun⟩ := bind_eq_ok.1 hrun
  obtain ⟨s₂, happend, hrun⟩ := bind_eq_ok.1 hrun
  obtain ⟨rfl, -⟩ := Prod.mk.inj (pure_eq_ok.1 hrun)
  obtain ⟨hs₁, -⟩ := generateElectorSnapshot_ok hgenerate
  obtain ⟨events, rfl⟩ := appendProposalEvent_ok happend
  have hreplaces : Replaces s (saveProposal s (openVoting locked rule env.now))
      (openVoting locked rule env.now) := saveProposal_replaces hmem rfl
  rw [hs₁]
  exact ⟨hreplaces, rfl⟩

/-- The rows once the listed proposals are woken up. -/
def WokenRows (rule : ElectorateRuleVersion) (now : Nat) (ids : List String)
    (s s' : ProposalState rt) : Prop :=
  ∀ q, q ∈ s'.proposals.rows ↔ (q ∈ s.proposals.rows ∧ q.proposalId ∉ ids) ∨
    ∃ p ∈ s.proposals.rows, p.proposalId ∈ ids ∧ q = wokenUp rule now p

/-- One turn of the loop. -/
theorem activate_turn {proposalId : String} {q q' : ApprovalProposal}
    (hrule : rule ∈ s.rules.rows) (hattach : attachRuleVersion s proposalId rule = .ok (s₁, q))
    (hstart : startElectorateVoting env s₁ q.proposalId = .ok (s₂, q')) :
    WokenRows rule env.now [proposalId] s s₂ ∧ s₂.rules = s.rules := by
  obtain ⟨p, hp, hid, rfl, hreplaces, hrules⟩ := attachRuleVersion_ok hattach
  obtain ⟨hreplaces', hrules'⟩ := startElectorateVoting_draft ((hreplaces _).2 (.inl rfl)) rfl
    (hrules ▸ hrule) rfl hstart
  refine ⟨fun r => ?_, hrules'.trans hrules⟩
  rw [hreplaces' r]
  show r = wokenUp rule env.now p ∨ r ∈ s₁.proposals.rows ∧ r.proposalId ≠ p.proposalId ↔ _
  rw [hreplaces r]
  constructor
  · rintro (rfl | ⟨rfl | ⟨hr, hne⟩, hne'⟩)
    · exact .inr ⟨p, hp, by simp [hid], rfl⟩
    · exact absurd rfl hne'
    · exact .inl ⟨hr, by simpa [← hid] using hne'⟩
  · rintro (⟨hr, hne⟩ | ⟨p', hp', hid', rfl⟩)
    · have hne' : r.proposalId ≠ p.proposalId := by simpa [← hid] using hne
      exact .inr ⟨.inr ⟨hr, hne'⟩, hne'⟩
    · rw [List.mem_singleton, ← hid] at hid'
      rw [s.proposals.eq_of_pk hp' hp hid']
      exact .inl rfl

theorem WokenRows.cons {now : Nat} {proposalId : String} {ids : List String}
    (h : WokenRows rule now [proposalId] s s₁) (h' : WokenRows rule now ids s₁ s')
    (hfresh : proposalId ∉ ids) : WokenRows rule now (proposalId :: ids) s s' := by
  intro q
  have hwoken : ∀ p : ApprovalProposal, (wokenUp rule now p).proposalId = p.proposalId :=
    fun _ => rfl
  simp only [h' q, h q, List.mem_cons, not_or, List.not_mem_nil, or_false]
  constructor
  · rintro (⟨⟨hq, hne⟩ | ⟨p, hp, hid, rfl⟩, hids⟩ | ⟨p, hp, hids, rfl⟩)
    · exact .inl ⟨hq, hne, hids⟩
    · exact .inr ⟨p, hp, .inl hid, rfl⟩
    · rcases (h p).1 hp with ⟨hp, hne⟩ | ⟨p', hp', hid, rfl⟩
      · exact .inr ⟨p, hp, .inr hids, rfl⟩
      · rw [hwoken, List.mem_singleton.1 hid] at hids
        exact absurd hids hfresh
  · rintro (⟨hq, hne, hids⟩ | ⟨p, hp, hid | hid, rfl⟩)
    · exact .inl ⟨.inl ⟨hq, hne⟩, hids⟩
    · exact .inl ⟨.inr ⟨p, hp, hid, rfl⟩, by rw [hwoken, hid]; exact hfresh⟩
    · refine .inr ⟨p, (h p).2 (.inl ⟨hp, fun hmem => hfresh ?_⟩), hid, rfl⟩
      rw [← List.mem_singleton.1 hmem]
      exact hid

theorem activate_loop {ids : List String} (hids : ids.Nodup) (hrule : rule ∈ s.rules.rows)
    (h : ids.foldlM (fun s proposalId => do
      let (s, p) ← attachRuleVersion s proposalId rule
      let (s, _) ← startElectorateVoting env s p.proposalId
      return s) s = .ok s') :
    WokenRows rule env.now ids s s' ∧ s'.rules = s.rules := by
  induction ids generalizing s with
  | nil =>
    obtain rfl := pure_eq_ok.1 h
    exact ⟨fun q => by simp, rfl⟩
  | cons proposalId ids ih =>
    rw [List.foldlM_cons] at h
    obtain ⟨s₂, hstep, h⟩ := bind_eq_ok.1 h
    obtain ⟨⟨s₁, q⟩, hattach, hstep⟩ := bind_eq_ok.1 hstep
    obtain ⟨⟨s₂', q'⟩, hstart, hstep⟩ := bind_eq_ok.1 hstep
    obtain rfl := pure_eq_ok.1 hstep
    obtain ⟨hrows, hrules⟩ := activate_turn hrule hattach hstart
    obtain ⟨hrest, hrules'⟩ := ih (List.nodup_cons.1 hids).2 (hrules ▸ hrule) h
    exact ⟨hrows.cons hrest (List.nodup_cons.1 hids).1, hrules'.trans hrules⟩

/-- The rows that are activated, the one submitted last first. -/
def waitingProposals (s : ProposalState rt) (rule : ElectorateRuleVersion) :
    List ApprovalProposal :=
  (s.proposals.rows.filter fun p => p.proposalType.value = rule.template.proposalType &&
    p.strategyType = .electorate && p.status = .awaitingPolicy).insertionSort
      fun a b => b.submittedAt ≤ a.submittedAt

theorem mem_waitingProposals :
    p ∈ waitingProposals s rule ↔ p ∈ s.proposals.rows ∧ WaitsFor rule p := by
  rw [waitingProposals, (List.perm_insertionSort _ _).mem_iff, List.mem_filter]
  simp [WaitsFor, and_assoc]

theorem waitingProposals_nodup :
    ((waitingProposals s rule).map ApprovalProposal.proposalId).Nodup :=
  (((List.perm_insertionSort _ _).map ApprovalProposal.proposalId).nodup_iff).2
    (s.proposals.pkUnique.sublist (List.filter_sublist.map ApprovalProposal.proposalId))

theorem mem_waitingProposals_ids (hp : p ∈ s.proposals.rows) :
    p.proposalId ∈ (waitingProposals s rule).map ApprovalProposal.proposalId ↔
      WaitsFor rule p := by
  rw [List.mem_map]
  constructor
  · rintro ⟨p', hp', hid⟩
    obtain ⟨hp', hwaits⟩ := mem_waitingProposals.1 hp'
    obtain rfl := s.proposals.eq_of_pk hp' hp hid
    exact hwaits
  · intro hwaits
    exact ⟨p, mem_waitingProposals.2 ⟨hp, hwaits⟩, rfl⟩

/-- Activating a rule that succeeds opens the vote on every proposal that waits for it, under the
thresholds and the deadline of the rule, and leaves every other proposal and all rules as they
are. -/
theorem activation_wakes (env : ProposalEnv) (s s' : ProposalState rt)
    (rule : ElectorateRuleVersion) (hrule : rule ∈ s.rules.rows)
    (h : activateWaitingProposalsForRule env s rule = .ok s') :
    s'.rules = s.rules ∧ ∀ q, q ∈ s'.proposals.rows ↔
      (q ∈ s.proposals.rows ∧ ¬ WaitsFor rule q) ∨
        ∃ p ∈ s.proposals.rows, WaitsFor rule p ∧ q = wokenUp rule env.now p := by
  obtain ⟨hrows, hrules⟩ := activate_loop waitingProposals_nodup hrule h
  refine ⟨hrules, fun q => (hrows q).trans (or_congr ?_ ?_)⟩
  · exact and_congr_right fun hq => not_congr (mem_waitingProposals_ids hq)
  · exact exists_congr fun p => and_congr_right fun hp =>
      and_congr_left fun _ => mem_waitingProposals_ids hp

/-- The admission is proposed before there is a rule for it. -/
def waitingState : ProposalState textRuntime :=
  afterCall proposalStep villageState
    (.call (envAt 1 "a") (.create { admissionArgs with ruleVersion := none }))

def activatedState : ProposalState textRuntime :=
  (activateWaitingProposalsForRule (envAt 2 "b") waitingState contributorRule).toOption.getD
    waitingState

theorem eq_ok_toOption {x : Except Error (ProposalState rt)} (h : x.toOption.isSome = true) :
    x = .ok (x.toOption.getD s) := by
  cases x with
  | error e => cases h
  | ok s' => rfl

theorem activation_wakes_village :
    activatedState.proposals.rows.map ApprovalProposal.status = [.voting] ∧
      activatedState.rules = waitingState.rules := by
  refine ⟨by decide +kernel, ?_⟩
  exact (activation_wakes (envAt 2 "b") waitingState activatedState contributorRule
    (List.mem_singleton_self _) (eq_ok_toOption (by decide +kernel))).1

/-! ## Runs -/

theorem startElectorateVoting_rules {proposalId : String}
    (h : startElectorateVoting env s proposalId = .ok (s', p)) : s'.rules = s.rules := by
  obtain ⟨locked, -, h⟩ := bind_eq_ok.1 h
  obtain ⟨-, h⟩ := rejectIf_bind_eq_ok.1 h
  split at h
  · obtain ⟨rfl, -⟩ := Prod.mk.inj (pure_eq_ok.1 h)
    rfl
  · obtain ⟨-, h⟩ := rejectIf_bind_eq_ok.1 h
    obtain ⟨rule, -, h⟩ := bind_eq_ok.1 h
    obtain ⟨-, h⟩ := rejectIf_bind_eq_ok.1 h
    obtain ⟨adapter, -, h⟩ := bind_eq_ok.1 h
    obtain ⟨excluded, -, h⟩ := bind_eq_ok.1 h
    obtain ⟨s₁, hgenerate, h⟩ := bind_eq_ok.1 h
    obtain ⟨submittedBy, -, h⟩ := bind_eq_ok.1 h
    obtain ⟨s₂, happend, h⟩ := bind_eq_ok.1 h
    obtain ⟨rfl, -⟩ := Prod.mk.inj (pure_eq_ok.1 h)
    obtain ⟨hs₁, -⟩ := generateElectorSnapshot_ok hgenerate
    obtain ⟨events, rfl⟩ := appendProposalEvent_ok happend
    rw [hs₁]
    rfl

theorem activate_rules (h : activateWaitingProposalsForRule env s rule = .ok s') :
    s'.rules = s.rules := by
  unfold activateWaitingProposalsForRule at h
  dsimp only at h
  generalize List.map ApprovalProposal.proposalId _ = ids at h
  induction ids generalizing s with
  | nil =>
    obtain rfl := pure_eq_ok.1 h
    rfl
  | cons proposalId ids ih =>
    rw [List.foldlM_cons] at h
    obtain ⟨s₂, hstep, h⟩ := bind_eq_ok.1 h
    obtain ⟨⟨s₁, q⟩, hattach, hstep⟩ := bind_eq_ok.1 hstep
    obtain ⟨⟨s₂', q'⟩, hstart, hstep⟩ := bind_eq_ok.1 hstep
    obtain rfl := pure_eq_ok.1 hstep
    obtain ⟨-, -, -, -, -, hrules⟩ := attachRuleVersion_ok hattach
    exact (ih h).trans ((startElectorateVoting_rules hstart).trans hrules)

/-- **Calls.** What a call that succeeds does to the book. -/
theorem policyStep_book {c : ProposalEnv × PolicyCall} (h : policyStep u c = .ok u') :
    BookStep c.1.now u u' := by
  obtain ⟨env, c⟩ := c
  unfold policyStep policyCall at h
  cases c with
  | template proposalType ruleCode name createdBy =>
    obtain ⟨⟨u₁, t⟩, hcall, h⟩ := bind_eq_ok.1 h
    obtain rfl := pure_eq_ok.1 h
    exact (createElectorateRuleTemplate_book hcall).1
  | publish args =>
    obtain ⟨⟨u₁, r⟩, hcall, h⟩ := bind_eq_ok.1 h
    obtain rfl := pure_eq_ok.1 h
    exact publishElectorateRuleVersion_book hcall
  | activate rule =>
    obtain ⟨proposals, hcall, h⟩ := bind_eq_ok.1 h
    obtain rfl := pure_eq_ok.1 h
    exact .same (congrArg Table.rows (activate_rules hcall)) rfl rfl
  | retire ruleCodes =>
    obtain rfl := Except.ok.inj h
    exact .same rfl rfl rfl

/-- The book is in order. -/
structure Book (u : PolicyState rt) : Prop where
  /-- every version belongs to a template that is there, under its type and name -/
  templates : ∀ r ∈ u.rules, r.template ∈ u.templates.rows
  /-- the versions of a template are numbered as they were published -/
  numbered : ∀ code, versionsOf u.rules code = List.range' 1 (versionsOf u.rules code).length
  /-- every version has its time -/
  times : u.applications.publishedAt.map Prod.fst = u.rules.map ElectorateRuleVersion.ruleVersionId

theorem versionsOf_append (rules : List ElectorateRuleVersion) (r : ElectorateRuleVersion)
    (code : String) : versionsOf (rules ++ [r]) code =
      versionsOf rules code ++ if r.template.ruleCode = code then [r.version] else [] := by
  unfold versionsOf
  rw [List.filter_append, List.map_append]
  congr 1
  by_cases h : r.template.ruleCode = code <;> simp [h]

theorem BookStep.book {now : Nat} (h : BookStep now u u') (hbook : Book u) : Book u' := by
  cases h with
  | same rules templates times =>
    exact ⟨by rw [rules, templates]; exact hbook.templates, by rw [rules]; exact hbook.numbered,
      by rw [rules, times]; exact hbook.times⟩
  | template t fresh named templates rules times =>
    refine ⟨fun r hr => ?_, by rw [rules]; exact hbook.numbered,
      by rw [rules, times]; exact hbook.times⟩
    rw [rules] at hr
    rw [templates]
    exact List.mem_append_left _ (hbook.templates r hr)
  | published r mem fresh next active valid rules templates times =>
    refine ⟨fun r' hr' => ?_, fun code => ?_, ?_⟩
    · rw [rules] at hr'
      rw [templates]
      rcases List.mem_append.1 hr' with hr' | hr'
      · exact hbook.templates r' hr'
      · rw [List.mem_singleton.1 hr']
        exact mem
    · rw [rules, versionsOf_append]
      by_cases hcode : r.template.ruleCode = code
      · rw [hcode, hbook.numbered code, RevisionLog.foldr_max_range', Nat.zero_max] at next
        rw [if_pos hcode, next, List.length_append, List.length_singleton]
        have hnumbered := hbook.numbered code
        generalize (versionsOf u.rules code).length = n at hnumbered
        rw [hnumbered, List.range'_1_concat, Nat.add_comm 1]
      · rw [if_neg hcode, List.append_nil]
        exact hbook.numbered code
    · rw [rules, times, List.map_append, List.map_append, hbook.times]
      rfl

theorem BookStep.grows {now : Nat} (h : BookStep now u u') :
    u.rules <+: u'.rules ∧ u.templates.rows <+: u'.templates.rows := by
  cases h with
  | same rules templates times =>
    rw [rules, templates]
    exact ⟨List.prefix_rfl, List.prefix_rfl⟩
  | template t fresh named templates rules times =>
    rw [rules, templates]
    exact ⟨List.prefix_rfl, List.prefix_append _ _⟩
  | published r mem fresh next active valid rules templates times =>
    rw [rules, templates]
    exact ⟨List.prefix_append _ _, List.prefix_rfl⟩

/-- Over every run of the services that keep the policies: the versions of each template stay
numbered 1, 2, 3, … in the order they are published, each under the type its template was created
with, and no version and no template that is there is ever changed or removed. -/
theorem policies_numbered (u : PolicyState rt) (hbook : Book u)
    (cs : List (ProposalEnv × PolicyCall)) :
    Book (runCalls policyStep u cs) ∧ u.rules <+: (runCalls policyStep u cs).rules ∧
      u.templates.rows <+: (runCalls policyStep u cs).templates.rows := by
  induction cs generalizing u with
  | nil => exact ⟨hbook, List.prefix_rfl, List.prefix_rfl⟩
  | cons c cs ih =>
    have hrun : runCalls policyStep u (c :: cs) =
        runCalls policyStep (afterCall policyStep u c) cs := rfl
    rw [hrun]
    cases hstep : policyStep u c with
    | error e =>
      rw [afterCall_error hstep]
      exact ih u hbook
    | ok u' =>
      have hbookStep := policyStep_book hstep
      obtain ⟨hrules, htemplates⟩ := hbookStep.grows
      obtain ⟨hrest, hrules', htemplates'⟩ := ih u' (hbookStep.book hbook)
      rw [afterCall_ok hstep]
      exact ⟨hrest, hrules.trans hrules', htemplates.trans htemplates'⟩

/-- The neighbour is a covenanter and keeps the policies. -/
def policyDirectory : Directory where
  members := villageDirectory.members
  organizations := ⟨[⟨0, roleCatalogOrganizationName, some roleCatalogOrganizationKey, .active⟩,
    ⟨1, "governance", none, .active⟩], by decide, by decide⟩
  roles := ⟨[⟨0, 0, roleCovenanter, "", .active⟩, ⟨1, 1, "keeper", "", .active⟩],
    by decide, by decide⟩
  assignments := ⟨[⟨0, 32, 0, .active, 0, 100, none, none, .direct⟩,
    ⟨1, 32, 1, .active, 0, 100, none, none, .direct⟩], by decide, by decide⟩
  rolePermissions := [⟨1, manageProposalPoliciesPermission⟩]
  domains := Table.empty
  qualifications := Table.empty

/-- Nothing has been published yet. -/
def noPolicies : PolicyState textRuntime where
  applications := {
    proposals := { villageState with
      roles := ⟨policyDirectory, Table.empty, Table.empty, Journal.empty⟩
      rules := Table.empty }
    accounts := []
    details := []
    admissionProposals := []
    publishedAt := []
    retiredRules := []
    publicEvents := [] }
  templates := Table.empty

theorem noPolicies_book : Book noPolicies :=
  ⟨List.forall_mem_nil _, fun _ => rfl, rfl⟩

def admissionPolicy (hours : Int) : PublishArgs where
  ruleCode := "member-admission"
  selectorConfig := contributorRule.selectorConfig
  approveThreshold := 1
  rejectThreshold := 1
  minimumParticipation := 1
  votingDurationHours := hours
  unresolvedOutcome := "expired"
  publishedBy := neighbour

/-- A template and two versions of it, the one in between without a positive duration. -/
def publishTwice : List (ProposalEnv × PolicyCall) := [
  (envAt 1 "a", .template "member_application" "member-admission" "成员准入" neighbour),
  (envAt 2 "b", .publish (admissionPolicy 24)),
  (envAt 3 "c", .publish (admissionPolicy 0)),
  (envAt 4 "d", .publish (admissionPolicy 48))]

theorem policies_numbered_twice :
    (runCalls policyStep noPolicies publishTwice).rules.map
        (fun r => (r.ruleVersionId, r.version)) = [("rule-version-b", 1), ("rule-version-d", 2)] ∧
      Book (runCalls policyStep noPolicies publishTwice) :=
  ⟨by decide +kernel, (policies_numbered noPolicies noPolicies_book publishTwice).1⟩

/-! ## The latest rule -/

/-- Sorting by a relation that no element has to a later one turns the list round. -/
theorem insertionSort_of_descents {α : Type} {r : α → α → Prop} [DecidableRel r] {xs : List α}
    (h : xs.Pairwise fun a b => ¬ r a b) : xs.insertionSort r = xs.reverse := by
  have hlast : ∀ (a : α) (ys : List α), (∀ y ∈ ys, ¬ r a y) → ys.orderedInsert r a = ys ++ [a] := by
    intro a ys hys
    induction ys with
    | nil => rfl
    | cons y ys ih =>
      rw [List.orderedInsert, if_neg (hys y List.mem_cons_self),
        ih fun z hz => hys z (List.mem_cons_of_mem _ hz)]
      rfl
  induction xs with
  | nil => rfl
  | cons x xs ih =>
    obtain ⟨hx, hxs⟩ := List.pairwise_cons.1 h
    rw [List.insertionSort_cons, ih hxs, List.reverse_cons]
    exact hlast x xs.reverse fun y hy => hx y (List.mem_reverse.1 hy)

/-- The versions were published one after another. -/
def Dated (u : PolicyState rt) : Prop :=
  u.rules.Pairwise fun a b => publicationOf u.applications a < publicationOf u.applications b

/-- The version published last among those that a type may use. -/
def lastPublished (u : PolicyState rt) (proposalType : ProposalType) :
    Option ElectorateRuleVersion :=
  (u.rules.filter fun r => r.template.proposalType = proposalType.value &&
    !u.applications.retiredRules.contains r.template.ruleCode).getLast?

theorem Dated.latest (h : Dated u) (proposalType : ProposalType) :
    latestPublishedRule u.applications proposalType = lastPublished u proposalType := by
  have hdescents := (h.filter fun r => decide (r.template.proposalType = proposalType.value) &&
    !u.applications.retiredRules.contains r.template.ruleCode).imp
      (S := fun a b => ¬ (publicationOf u.applications b < publicationOf u.applications a ∨
        publicationOf u.applications a = publicationOf u.applications b ∧ b.version ≤ a.version))
      fun hlt => by omega
  unfold latestPublishedRule lastPublished
  rw [← List.head?_reverse, ← insertionSort_of_descents hdescents]
  rfl

/-- The times of the versions that were there are as they were, and a new one has the time of its
call. -/
theorem BookStep.publication {now : Nat} (h : BookStep now u u') (hbook : Book u) :
    ∀ r ∈ u'.rules, (r ∈ u.rules ∧
        publicationOf u'.applications r = publicationOf u.applications r) ∨
      (u'.rules = u.rules ++ [r] ∧ publicationOf u'.applications r = now) := by
  cases h with
  | same rules templates times =>
    intro r hr
    rw [rules] at hr
    exact .inl ⟨hr, by rw [publicationOf, times]; rfl⟩
  | template t fresh named templates rules times =>
    intro r hr
    rw [rules] at hr
    exact .inl ⟨hr, by rw [publicationOf, times]; rfl⟩
  | published new mem fresh next active valid rules templates times =>
    intro r hr
    rw [rules] at hr
    rcases List.mem_append.1 hr with hr | hr
    · refine .inl ⟨hr, ?_⟩
      have hid : r.ruleVersionId ∈ u.applications.publishedAt.map Prod.fst := by
        rw [hbook.times]
        exact List.mem_map_of_mem hr
      obtain ⟨e, he, heq⟩ := List.mem_map.1 hid
      have hfound : (u.applications.publishedAt.find? fun e => e.1 = r.ruleVersionId).isSome :=
        List.find?_isSome.2 ⟨e, he, by simpa using heq⟩
      rw [publicationOf, times, List.find?_append, Option.or_of_isSome hfound]
      rfl
    · rw [List.mem_singleton.1 hr]
      refine .inr ⟨rules, ?_⟩
      have hnone : (u.applications.publishedAt.find? fun e => e.1 = new.ruleVersionId) = none := by
        refine List.find?_eq_none.2 fun e he heq => ?_
        have hid : e.1 ∈ u.rules.map ElectorateRuleVersion.ruleVersionId := by
          rw [← hbook.times]
          exact List.mem_map_of_mem he
        obtain ⟨r', hr', heq'⟩ := List.mem_map.1 hid
        exact fresh r' hr' (heq'.trans (by simpa using heq))
      rw [publicationOf, times, List.find?_append, hnone]
      simp

/-- Publishing later keeps the versions in the order of their times. -/
theorem BookStep.dated {now : Nat} (h : BookStep now u u') (hbook : Book u) (hdated : Dated u)
    (hpast : ∀ r ∈ u.rules, publicationOf u.applications r < now) : Dated u' := by
  have hpublication := h.publication hbook
  have hold : ∀ r ∈ u.rules, publicationOf u'.applications r = publicationOf u.applications r ∨
      publicationOf u'.applications r = now := by
    intro r hr
    rcases hpublication r (h.grows.1.subset hr) with ⟨-, heq⟩ | ⟨-, heq⟩
    · exact .inl heq
    · exact .inr heq
  cases h with
  | same rules templates times =>
    unfold Dated publicationOf
    rw [rules, times]
    exact hdated
  | template t fresh named templates rules times =>
    unfold Dated publicationOf
    rw [rules, times]
    exact hdated
  | published new mem fresh next active valid rules templates times =>
    have hkept : ∀ r ∈ u.rules,
        publicationOf u'.applications r = publicationOf u.applications r := by
      intro r hr
      rcases hpublication r (by rw [rules]; exact List.mem_append_left _ hr) with ⟨-, heq⟩ |
        ⟨hsame, -⟩
      · exact heq
      · rw [rules] at hsame
        have heq : new = r := by simpa using List.append_cancel_left hsame
        exact absurd (congrArg _ heq.symm) (fresh r hr)
    have hnew : publicationOf u'.applications new = now := by
      rcases hpublication new (by rw [rules]; simp) with ⟨hmem, -⟩ | ⟨-, heq⟩
      · exact absurd rfl (fresh new hmem)
      · exact heq
    unfold Dated
    rw [rules, List.pairwise_append]
    refine ⟨hdated.imp_of_mem fun ha hb hlt => ?_, List.pairwise_singleton _ _, fun a ha b hb => ?_⟩
    · rw [hkept _ ha, hkept _ hb]
      exact hlt
    · rw [List.mem_singleton.1 hb, hnew, hkept a ha]
      exact hpast a ha

/-- Over every run whose calls are made one after another: the rule that a new proposal of a type is
given is the version published last among the templates of the type that are not retired. -/
theorem latest_rule_is_last (u : PolicyState rt) (hbook : Book u) (hdated : Dated u)
    (cs : List (ProposalEnv × PolicyCall)) (hclock : cs.Pairwise fun a b => a.1.now < b.1.now)
    (hpast : ∀ r ∈ u.rules, ∀ c ∈ cs, publicationOf u.applications r < c.1.now)
    (proposalType : ProposalType) :
    latestPublishedRule (runCalls policyStep u cs).applications proposalType =
      lastPublished (runCalls policyStep u cs) proposalType := by
  suffices h : Dated (runCalls policyStep u cs) from h.latest proposalType
  induction cs generalizing u with
  | nil => exact hdated
  | cons c cs ih =>
    obtain ⟨hfirst, hrest⟩ := List.pairwise_cons.1 hclock
    show Dated (runCalls policyStep (afterCall policyStep u c) cs)
    cases hstep : policyStep u c with
    | error e =>
      rw [afterCall_error hstep]
      exact ih u hbook hdated hrest fun r hr c' hc' => hpast r hr c' (List.mem_cons_of_mem _ hc')
    | ok u' =>
      have hbookStep := policyStep_book hstep
      rw [afterCall_ok hstep]
      refine ih u' (hbookStep.book hbook)
        (hbookStep.dated hbook hdated fun r hr => hpast r hr c List.mem_cons_self) hrest ?_
      intro r hr c' hc'
      rcases hbookStep.publication hbook r hr with ⟨hr, heq⟩ | ⟨-, heq⟩
      · rw [heq]
        exact hpast r hr c' (List.mem_cons_of_mem _ hc')
      · rw [heq]
        exact hfirst c' hc'

theorem latest_rule_is_last_twice :
    (lastPublished (runCalls policyStep noPolicies publishTwice) .memberApplication).map
        (fun r => r.ruleVersionId) = some "rule-version-d" ∧
      latestPublishedRule (runCalls policyStep noPolicies publishTwice).applications
          .memberApplication =
        lastPublished (runCalls policyStep noPolicies publishTwice) .memberApplication :=
  ⟨by decide +kernel, latest_rule_is_last noPolicies noPolicies_book List.Pairwise.nil publishTwice
    (by simp [publishTwice, envAt]) (List.forall_mem_nil _) .memberApplication⟩

end LiveOs.Proposals
