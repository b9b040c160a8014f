import LiveOs.Simulation.StartupGate

/-!
# People and rows at the startup gate

The gate counts the rows of its member list. A member stands in that list once for each candidate
application in the run, and once more as the founder, so a requirement of several people can be met
by one. This module says what the gate is meant to count and when it does.
-/

namespace LiveOs.Simulation

open Lib Planning Roles

variable (py : Python) (db : GateDb) (runId founderMemberNo : String)

/-! ## What the gate is meant to count -/

/-- How often the member stands in the list of contributors. -/
def entriesOf (m : Member) : Nat :=
  (if (founderOf db founderMemberNo).any fun f => f.pk = m.pk then 1 else 0) +
    (candidateApplications db runId m).length

/-- The founder and the members with a candidate application in the run, each once. -/
def peopleOf : List Member :=
  db.members.rows.filter fun m => 0 < entriesOf db runId founderMemberNo m

/-- A matching skill score of at least 50. -/
def HasSkill (r : CapabilityRequirement) (m : Member) : Bool :=
  match memberSkills py m with
  | .ok skills => skillsMatchRequirement skills r.skillAliases
  | .error _ => false

/-- The domains cover a code. -/
def Covers (code : String) (domains : Json) : Bool :=
  match inDomains code domains with
  | .ok b => b
  | .error _ => false

/-- The document authority of a member. -/
def memberDomains (m : Member) : Json := getKey m.profile "document_authority_domains"

/-- The distinct people with a matching skill. -/
def skilledPeople (r : CapabilityRequirement) : List Member :=
  (peopleOf db runId founderMemberNo).filter (HasSkill py r)

/-- A person or a partner of the run covers the code. -/
def DocumentCovered (r : DocumentRequirement) : Prop :=
  (∃ m ∈ peopleOf db runId founderMemberNo, Covers r.code (memberDomains m) = true) ∨
  ∃ a ∈ qualifiedDocumentSignerPartnersForRun db runId,
    Covers r.code a.responsibilityDocumentDomains = true

/-- The gate as it is meant: enough distinct people for every capability, and someone for every
document. -/
structure GateMet (capabilities : List CapabilityRequirement)
    (documents : List DocumentRequirement) : Prop where
  capabilities : ∀ r ∈ capabilities,
    r.minCount ≤ (skilledPeople py db runId founderMemberNo r).length
  documents : ∀ r ∈ documents, DocumentCovered db runId founderMemberNo r

/-- The stored values that the requirements ask for can be read. -/
structure Readable (capabilities : List CapabilityRequirement)
    (documents : List DocumentRequirement) : Prop where
  skills : capabilities ≠ [] → ∀ m ∈ peopleOf db runId founderMemberNo,
    Returns (memberSkills py m)
  members : ∀ r ∈ documents, ∀ m ∈ peopleOf db runId founderMemberNo,
    Returns (inDomains r.code (memberDomains m))
  partners : ∀ r ∈ documents, ∀ a ∈ qualifiedDocumentSignerPartnersForRun db runId,
    Returns (inDomains r.code a.responsibilityDocumentDomains)

/-- Every requirement is reached when a member counts once for each entry, and some capability is
not reached by distinct people. -/
structure CountedTwice (capabilities : List CapabilityRequirement)
    (documents : List DocumentRequirement) : Prop where
  entries : ∀ r ∈ capabilities, r.minCount ≤
    (((skilledPeople py db runId founderMemberNo r).map
      (entriesOf db runId founderMemberNo)).sum : Nat)
  documents : ∀ r ∈ documents, DocumentCovered db runId founderMemberNo r
  short : ∃ r ∈ capabilities,
    ((skilledPeople py db runId founderMemberNo r).length : Int) < r.minCount

/-! ## The list of contributors -/

section

variable {py db runId founderMemberNo}

theorem founderOf_mem {m : Member} (h : founderOf db founderMemberNo = some m) :
    m ∈ db.members.rows := by
  unfold founderOf at h
  split at h
  · cases h
  · exact List.mem_of_find?_eq_some h

theorem mem_contributorsForRun {m : Member} :
    m ∈ contributorsForRun db runId founderMemberNo ↔ m ∈ peopleOf db runId founderMemberNo := by
  unfold contributorsForRun peopleOf entriesOf
  rw [List.mem_append, (List.perm_insertionSort _ _).mem_iff, mem_joinRows, List.mem_filter,
    Option.mem_toList, decide_eq_true_eq]
  constructor
  · rintro (hfounder | ⟨hm, happlied⟩)
    · refine ⟨founderOf_mem hfounder, ?_⟩
      rw [hfounder]
      simp
    · have := List.length_pos_iff.2 happlied
      exact ⟨hm, by omega⟩
  · rintro ⟨hm, hpos⟩
    by_cases hfounder : ((founderOf db founderMemberNo).any fun f => f.pk = m.pk) = true
    · obtain ⟨f, hf, hpk⟩ := (Option.any_eq_true _ _).1 hfounder
      rw [db.members.eq_of_pk (founderOf_mem hf) hm (by simpa using hpk)] at hf
      exact .inl hf
    · rw [if_neg hfounder, Nat.zero_add] at hpos
      exact .inr ⟨hm, List.length_pos_iff.1 hpos⟩

/-- The founder counts once among the rows that meet a test. -/
theorem length_filter_founder (p : Member → Bool) :
    ((founderOf db founderMemberNo).toList.filter p).length =
      ((db.members.rows.filter p).map fun m =>
        if (founderOf db founderMemberNo).any fun f => f.pk = m.pk then 1 else 0).sum := by
  cases hf : founderOf db founderMemberNo with
  | none => simp
  | some f =>
    simp only [Option.toList_some, Option.any_some, decide_eq_true_eq]
    exact length_filter_singleton Member.pk (founderOf_mem hf) db.members.pkUnique

/-- **The rows that meet a test** are its people, each as often as they stand in the list. -/
theorem length_filter_contributors (p : Member → Bool) :
    ((contributorsForRun db runId founderMemberNo).filter p).length =
      (((peopleOf db runId founderMemberNo).filter p).map
        (entriesOf db runId founderMemberNo)).sum := by
  have hsorted := ((List.perm_insertionSort (fun a b : Member => a.memberNo ≤ b.memberNo)
    (joinRows (candidateApplications db runId) db.members.rows)).filter p).length_eq
  unfold contributorsForRun
  rw [List.filter_append, List.length_append, hsorted, length_filter_joinRows,
    length_filter_founder, ← List.sum_map_add]
  unfold peopleOf
  -- a member with no entry adds nothing
  induction db.members.rows with
  | nil => rfl
  | cons m rows ih =>
    by_cases hp : p m = true
    · by_cases hpos : 0 < entriesOf db runId founderMemberNo m
      · simp only [List.filter_cons, hp, hpos, decide_true, if_true, List.map_cons, List.sum_cons,
          ih]
        rfl
      · have hzero : entriesOf db runId founderMemberNo m = 0 := by omega
        unfold entriesOf at hzero
        simp only [List.filter_cons, hp, hpos, decide_false, if_true, List.map_cons, List.sum_cons,
          hzero, Nat.zero_add, ih]
        rfl
    · by_cases hpos : 0 < entriesOf db runId founderMemberNo m <;>
        simp only [List.filter_cons, hp, hpos, decide_true, decide_false, if_true] <;> simp [ih]

/-! ## The coverage -/

variable {capabilities : List CapabilityRequirement} {documents : List DocumentRequirement}

/-- A coverage row misses something when too little covers it. -/
theorem coverageRow_missing {code name : String} {required : Int} {written : Bool}
    {texts : Option (List String × List String)} {covered : List Snapshot} :
    0 < (coverageRow code name required written texts covered).missingCount ↔
      (covered.length : Int) < required := by
  unfold coverageRow
  simp only
  omega

/-- The row of a capability, when the skills can be read. -/
def capabilityRow (py : Python) (members : List Member) (r : CapabilityRequirement) : CoverageRow :=
  coverageRow r.code r.name r.minCount false none
    ((members.filter (HasSkill py r)).map memberSnapshot)

/-- The row of a document, when the domains can be read. -/
def documentRow (members : List Member) (partners : List PartnerApplication)
    (r : DocumentRequirement) : CoverageRow :=
  coverageRow r.code r.name 1 true (some (r.documentExamples, r.acceptableSigners))
    ((members.filter fun m => Covers r.code (memberDomains m)).map memberSnapshot ++
      (partners.filter fun a => Covers r.code a.responsibilityDocumentDomains).map partnerSnapshot)

theorem inDomains_covers {code : String} {v : Json} (h : Returns (inDomains code v)) :
    inDomains code v = .ok (Covers code v) := by
  obtain ⟨b, hb⟩ := h
  unfold Covers
  rw [hb]

theorem skillTest_returns {r : CapabilityRequirement} {m : Member} :
    Returns (do
      let skills ← memberSkills py m
      return skillsMatchRequirement skills r.skillAliases) ↔ Returns (memberSkills py m) := by
  rw [returns_bind]
  exact ⟨fun ⟨skills, h, _⟩ => ⟨skills, h⟩, fun ⟨skills, h⟩ => ⟨skills, h, ⟨_, rfl⟩⟩⟩

theorem skillTest_eq {r : CapabilityRequirement} {m : Member} (h : Returns (memberSkills py m)) :
    (do
      let skills ← memberSkills py m
      return skillsMatchRequirement skills r.skillAliases) = .ok (HasSkill py r m) := by
  obtain ⟨skills, hskills⟩ := h
  unfold HasSkill
  rw [hskills]
  rfl

theorem capabilityCoverage_eq {members : List Member}
    (h : capabilities ≠ [] → ∀ m ∈ members, Returns (memberSkills py m)) :
    capabilityCoverageForMembers py members capabilities =
      .ok (capabilities.map (capabilityRow py members)) := by
  unfold capabilityCoverageForMembers
  apply mapM_of_ok
  intro r hr
  have hne : capabilities ≠ [] := List.ne_nil_of_mem hr
  rw [selectRows_of_ok fun m hm => skillTest_eq (h hne m hm), ok_bind]
  rfl

theorem returns_capabilityCoverage {members : List Member} :
    Returns (capabilityCoverageForMembers py members capabilities) ↔
      (capabilities ≠ [] → ∀ m ∈ members, Returns (memberSkills py m)) := by
  constructor
  · intro h hne m hm
    unfold capabilityCoverageForMembers at h
    obtain ⟨r, hr⟩ := List.exists_mem_of_ne_nil _ hne
    obtain ⟨covered, hcovered, -⟩ := returns_bind.1 (returns_mapM.1 h r hr)
    exact skillTest_returns.1 (returns_selectRows.1 ⟨covered, hcovered⟩ m hm)
  · intro h
    exact ⟨_, capabilityCoverage_eq h⟩

/-- The domains that the documents ask for can be read. -/
def DomainsReadable (documents : List DocumentRequirement) (members : List Member)
    (partners : List PartnerApplication) : Prop :=
  ∀ r ∈ documents, (∀ m ∈ members, Returns (inDomains r.code (memberDomains m))) ∧
    ∀ a ∈ partners, Returns (inDomains r.code a.responsibilityDocumentDomains)

theorem documentCoverage_eq {members : List Member} {partners : List PartnerApplication}
    (h : DomainsReadable documents members partners) :
    documentSignerCoverageForPartners members partners documents =
      .ok (documents.map (documentRow members partners)) := by
  unfold documentSignerCoverageForPartners
  apply mapM_of_ok
  intro r hr
  obtain ⟨hmembers, hpartners⟩ := h r hr
  have hcovered := selectRows_of_ok fun m hm => inDomains_covers (hmembers m hm)
  have hsigners := selectRows_of_ok fun a ha => inDomains_covers (hpartners a ha)
  unfold memberDomains at hcovered
  rw [hcovered, ok_bind, hsigners, ok_bind]
  rfl

theorem returns_documentCoverage {members : List Member} {partners : List PartnerApplication} :
    Returns (documentSignerCoverageForPartners members partners documents) ↔
      DomainsReadable documents members partners := by
  constructor
  · intro h r hr
    unfold documentSignerCoverageForPartners at h
    obtain ⟨covered, hcovered, hrest⟩ := returns_bind.1 (returns_mapM.1 h r hr)
    obtain ⟨signers, hsigners, -⟩ := returns_bind.1 hrest
    exact ⟨returns_selectRows.1 ⟨covered, hcovered⟩, returns_selectRows.1 ⟨signers, hsigners⟩⟩
  · intro h
    exact ⟨_, documentCoverage_eq h⟩

/-! ## The summary -/

theorem capabilityRow_missing {r : CapabilityRequirement} :
    0 < (capabilityRow py (contributorsForRun db runId founderMemberNo) r).missingCount ↔
      ((((skilledPeople py db runId founderMemberNo r).map
        (entriesOf db runId founderMemberNo)).sum : Nat) : Int) < r.minCount := by
  unfold capabilityRow
  rw [coverageRow_missing, List.length_map, length_filter_contributors]
  rfl

theorem documentRow_missing {r : DocumentRequirement} :
    0 < (documentRow (contributorsForRun db runId founderMemberNo)
      (qualifiedDocumentSignerPartnersForRun db runId) r).missingCount ↔
      ¬ DocumentCovered db runId founderMemberNo r := by
  unfold documentRow DocumentCovered
  rw [coverageRow_missing, List.length_append, List.length_map, List.length_map]
  have hmembers : (∃ m ∈ peopleOf db runId founderMemberNo,
      Covers r.code (memberDomains m) = true) ↔
      0 < ((contributorsForRun db runId founderMemberNo).filter fun m =>
        Covers r.code (memberDomains m)).length := by
    rw [List.length_pos_iff_exists_mem]
    simp only [List.mem_filter, mem_contributorsForRun]
  have hpartners : (∃ a ∈ qualifiedDocumentSignerPartnersForRun db runId,
      Covers r.code a.responsibilityDocumentDomains = true) ↔
      0 < ((qualifiedDocumentSignerPartnersForRun db runId).filter fun a =>
        Covers r.code a.responsibilityDocumentDomains).length := by
    rw [List.length_pos_iff_exists_mem]
    simp only [List.mem_filter]
  rw [hmembers, hpartners]
  omega

/-- Every requirement is reached by the entries of the list. -/
def EntriesReach (py : Python) (db : GateDb) (runId founderMemberNo : String)
    (capabilities : List CapabilityRequirement) (documents : List DocumentRequirement) : Prop :=
  (∀ r ∈ capabilities, r.minCount ≤ (((skilledPeople py db runId founderMemberNo r).map
    (entriesOf db runId founderMemberNo)).sum : Nat)) ∧
  ∀ r ∈ documents, DocumentCovered db runId founderMemberNo r

theorem domainsReadable_iff :
    DomainsReadable documents (contributorsForRun db runId founderMemberNo)
      (qualifiedDocumentSignerPartnersForRun db runId) ↔
    (∀ r ∈ documents, ∀ m ∈ peopleOf db runId founderMemberNo,
      Returns (inDomains r.code (memberDomains m))) ∧
    ∀ r ∈ documents, ∀ a ∈ qualifiedDocumentSignerPartnersForRun db runId,
      Returns (inDomains r.code a.responsibilityDocumentDomains) := by
  unfold DomainsReadable
  simp only [mem_contributorsForRun]
  exact ⟨fun h => ⟨fun r hr => (h r hr).1, fun r hr => (h r hr).2⟩,
    fun h r hr => ⟨h.1 r hr, h.2 r hr⟩⟩

/-- The summary of readable values says whether the entries reach every requirement. -/
theorem startupGateSummary_of_readable
    (h : Readable py db runId founderMemberNo capabilities documents) :
    ∃ summary, startupGateSummaryForRun py db runId founderMemberNo capabilities documents =
        .ok summary ∧
      (summary.startupGateSatisfied = true ↔
        EntriesReach py db runId founderMemberNo capabilities documents) := by
  have hcapabilities := @capabilityCoverage_eq py capabilities
    (contributorsForRun db runId founderMemberNo)
    fun hne m hm => h.skills hne m (mem_contributorsForRun.1 hm)
  have hdocuments := documentCoverage_eq
    (domainsReadable_iff.2 ⟨h.members, h.partners⟩)
  refine ⟨_, bind_eq_ok.2 ⟨_, hcapabilities, bind_eq_ok.2 ⟨_, hdocuments, rfl⟩⟩, ?_⟩
  simp only [Bool.and_eq_true, List.isEmpty_iff, List.filter_eq_nil_iff, List.forall_mem_map,
    decide_eq_true_eq, capabilityRow_missing, documentRow_missing, not_not]
  simp only [not_lt]
  exact Iff.rfl

/-- A summary is given for readable values only. -/
theorem readable_of_returns
    (h : Returns (startupGateSummaryForRun py db runId founderMemberNo capabilities documents)) :
    Readable py db runId founderMemberNo capabilities documents := by
  obtain ⟨coverage, hcoverage, h⟩ := returns_bind.1 h
  obtain ⟨documentCoverage, hdocuments, -⟩ := returns_bind.1 h
  have hskills := returns_capabilityCoverage.1 ⟨coverage, hcoverage⟩
  obtain ⟨hmembers, hpartners⟩ :=
    domainsReadable_iff.1 (returns_documentCoverage.1 ⟨documentCoverage, hdocuments⟩)
  exact ⟨fun hne m hm => hskills hne m (mem_contributorsForRun.2 hm), hmembers, hpartners⟩

/-- People that are enough are enough as entries. -/
theorem GateMet.entriesReach (h : GateMet py db runId founderMemberNo capabilities documents) :
    EntriesReach py db runId founderMemberNo capabilities documents := by
  refine ⟨fun r hr => ?_, h.documents⟩
  have hpeople := h.capabilities r hr
  have hle : (skilledPeople py db runId founderMemberNo r).length ≤
      ((skilledPeople py db runId founderMemberNo r).map
        (entriesOf db runId founderMemberNo)).sum := by
    rw [← List.length_map (f := entriesOf db runId founderMemberNo)]
    apply List.length_le_sum_of_one_le
    intro n hn
    obtain ⟨m, hm, rfl⟩ := List.mem_map.1 hn
    have hpositive := (List.mem_filter.1 (List.mem_filter.1 hm).1).2
    exact of_decide_eq_true hpositive
  omega

end

/-! ## One carrier for two -/

def gatePython : Python := ⟨textRuntime, .asciiOnly⟩

/-- The founder, who is strong enough to carry. -/
def carrier : Member := ⟨1, "m1", none, "", .active, [("skills", .obj [("搬运", .scalar (.int 60))])]⟩

def carrierApplication : CandidateApplication := ⟨"a", some 1, .obj
  [("simulation_run_id", .str "run"), ("screening_status", .str "candidate")]⟩

/-- The founder is also a candidate. -/
def carrierDb : GateDb :=
  ⟨⟨[carrier], List.nodup_singleton _, List.nodup_singleton _⟩, [carrierApplication], []⟩

def twoCarriers : CapabilityRequirement := ⟨"carry", "", 2, ["搬运"]⟩

end LiveOs.Simulation
