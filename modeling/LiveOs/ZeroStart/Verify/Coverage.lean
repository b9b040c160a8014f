import LiveOs.Lib.Outcomes
import LiveOs.Planning.Verify.Order
import LiveOs.Simulation.Verify.Generated
import LiveOs.ZeroStart.Feedback

/-!
# What an applied feedback leaves on the startup gate

The coverage of a gate node is read from the metadata of its requirements. A copied requirement
names what its source names, because the copy adds one key that no name is read from; a requirement
that an operation adds names what its draft names. So the gate of the new revision has the names of
the old gate and those of the drafts, in some order.
-/

namespace LiveOs.ZeroStart

open Lib Planning
open Simulation (Drafted metadataIs)

variable {py : Python}

/-! ## What a requirement names -/

/-- The requirement names the code under its kind. -/
def names (kind : RequirementKind) (code : String) (r : PlanRequirement) : Bool :=
  metadataIs r.metadata "requirement_kind" kind.value && metadataIs r.metadata kind.codeKey code

/-- How often the requirements of the node name the code. -/
def occurrences (plan : PlanDb) (node : NodeId) (kind : RequirementKind) (code : String) : Nat :=
  (requirementsAt plan node).countP (names kind code)

theorem metadataIs_eq (metadata : Json) (key text : String) :
    metadataIs metadata key text = (metadataKey metadata key).any fun v => isText v text := by
  cases metadata with
  | obj es =>
    simp only [metadataIs, metadataKey]
    cases Json.get? es key with
    | none => rfl
    | some v => cases v <;> rfl
  | scalar s => rfl
  | str s => rfl
  | arr xs => rfl

theorem isText_iff {v : Json} {text : String} : isText v text = true ↔ v = .str text := by
  cases v <;> simp [isText]

theorem isText_getKeyOr {es : List (String × Json)} {key text : String} (h : text ≠ "") :
    isText (getKeyOr es key (.str "")) text = metadataIs (.obj es) key text := by
  rw [metadataIs_eq, metadataKey, getKeyOr]
  cases Json.get? es key with
  | none => simpa [isText] using Ne.symm h
  | some v => rfl

theorem value_ne_empty (kind : RequirementKind) : kind.value ≠ "" := by
  cases kind <;> decide

/-- A truthy code is added as it is, under its kind. -/
theorem added_ok {kind : RequirementKind} {v : Json} {n : Option (RequirementKind × Json)}
    (h : (if truthy v = true then (hashable v).map fun code => some (kind, code) else .ok none) =
      .ok n) : n = if truthy v = true then some (kind, v) else none := by
  split at h
  · rename_i htruthy
    rw [if_pos htruthy]
    cases v with
    | scalar s => exact (Except.ok.inj h).symm
    | str s => exact (Except.ok.inj h).symm
    | arr xs => cases h
    | obj es => cases h
  · rename_i hfalsy
    rw [if_neg hfalsy]
    exact (Except.ok.inj h).symm

theorem not_metadataIs_of_kind {es : List (String × Json)} {kind kind' : RequirementKind}
    (h : isText (getKeyOr es "requirement_kind" (.str "")) kind.value = true) (hne : kind ≠ kind') :
    metadataIs (.obj es) "requirement_kind" kind'.value = false := by
  rw [← isText_getKeyOr (value_ne_empty kind'), isText_iff.1 h]
  revert hne
  cases kind <;> cases kind' <;> decide

/-- What the metadata of a requirement of the kind adds is the code it names. -/
theorem named_of_kind {es : List (String × Json)} {kind kind' : RequirementKind}
    {n : Option (RequirementKind × Json)} {code : String} (hcode : code ≠ "")
    (hkind : isText (getKeyOr es "requirement_kind" (.str "")) kind.value = true)
    (h : n = if truthy (getKeyOr es kind.codeKey (.str "")) = true then
      some (kind, getKeyOr es kind.codeKey (.str "")) else none) :
    (n.any fun entry => entry.1 = kind' && isText entry.2 code) =
      (metadataIs (.obj es) "requirement_kind" kind'.value &&
        metadataIs (.obj es) kind'.codeKey code) := by
  subst h
  by_cases hne : kind = kind'
  · subst hne
    have hsame : metadataIs (.obj es) "requirement_kind" kind.value = true := by
      rw [← isText_getKeyOr (value_ne_empty kind)]
      exact hkind
    rw [hsame, Bool.true_and, ← isText_getKeyOr hcode]
    split
    · simp
    · rename_i hfalsy
      rw [Option.any_none, eq_comm, Bool.eq_false_iff]
      intro htext
      rw [isText_iff.1 htext] at hfalsy
      exact hfalsy (by simpa [truthy, Json.toPy, PyVal.truthy] using hcode)
  · rw [not_metadataIs_of_kind hkind hne, Bool.false_and]
    split <;> simp [hne]

/-- What the metadata adds to the covered codes is the code it names. -/
theorem namedIn_ok {es : List (String × Json)} {n : Option (RequirementKind × Json)}
    (h : namedIn es = .ok n) {kind : RequirementKind} {code : String} (hcode : code ≠ "") :
    (n.any fun entry => entry.1 = kind && isText entry.2 code) =
      (metadataIs (.obj es) "requirement_kind" kind.value &&
        metadataIs (.obj es) kind.codeKey code) := by
  unfold namedIn at h
  dsimp only at h
  split at h
  · rename_i hkind
    exact named_of_kind hcode hkind (added_ok h)
  · rename_i hcapability
    split at h
    · rename_i hkind
      exact named_of_kind hcode hkind (added_ok h)
    · rename_i hdocument
      obtain rfl := Except.ok.inj h
      have hnone : metadataIs (.obj es) "requirement_kind" kind.value = false := by
        rw [← isText_getKeyOr (value_ne_empty kind), Bool.eq_false_iff]
        cases kind with
        | capability => exact hcapability
        | document => exact hdocument
      rw [hnone]
      rfl

theorem namedIn_congr {es fs : List (String × Json)}
    (h : ∀ key ∈ ["requirement_kind", "capability_code", "document_code"],
      Json.get? es key = Json.get? fs key) : namedIn es = namedIn fs := by
  have hkind : getKeyOr es "requirement_kind" (.str "") =
      getKeyOr fs "requirement_kind" (.str "") := by
    rw [getKeyOr, getKeyOr, h _ (by simp)]
  have hcode : ∀ k : RequirementKind,
      getKeyOr es k.codeKey (.str "") = getKeyOr fs k.codeKey (.str "") := by
    intro k
    cases k <;> rw [getKeyOr, getKeyOr, h _ (by simp [RequirementKind.codeKey])]
  simp only [namedIn, hkind, hcode]

/-- The two requirements name the same codes. -/
structure SameNames (r c : PlanRequirement) : Prop where
  named : namedCode c = namedCode r
  names : ∀ kind code, ZeroStart.names kind code c = ZeroStart.names kind code r

theorem namedCode_eq {r : PlanRequirement} {es : List (String × Json)}
    (h : spread r.metadata = .ok es) : namedCode r = namedIn es := by
  rw [namedCode, h]
  rfl

theorem names_eq {r : PlanRequirement} {es : List (String × Json)} (h : spread r.metadata = .ok es)
    (kind : RequirementKind) (code : String) : names kind code r =
      (metadataIs (.obj es) "requirement_kind" kind.value &&
        metadataIs (.obj es) kind.codeKey code) := by
  have hkeys : ∀ key text, metadataIs r.metadata key text = metadataIs (.obj es) key text := by
    intro key text
    rw [metadataIs_eq, metadataIs_eq, ← spread_keeps h key]
    rfl
  rw [names, hkeys, hkeys]

/-- A key that the coverage does not read may be added to the metadata. -/
theorem sameNames_of_merged {r c : PlanRequirement} {es : List (String × Json)} {key : String}
    {v : Json} (hes : spread r.metadata = .ok es) (hc : c.metadata = .obj (merged es [(key, v)]))
    (hkey : key ∉ ["requirement_kind", "capability_code", "document_code"]) : SameNames r c := by
  have hget : ∀ k ∈ ["requirement_kind", "capability_code", "document_code"],
      Json.get? (merged es [(key, v)]) k = Json.get? es k := by
    intro k hk
    rw [merged, List.foldl_cons, List.foldl_nil, get?_upsert, if_neg]
    rintro rfl
    exact hkey hk
  have hspread : spread c.metadata = .ok (merged es [(key, v)]) := by
    rw [hc, spread_obj]
  have hcodeKey : ∀ kind : RequirementKind,
      kind.codeKey ∈ ["requirement_kind", "capability_code", "document_code"] := by
    intro kind
    cases kind <;> decide
  refine ⟨?_, fun kind code => ?_⟩
  · rw [namedCode_eq hspread, namedCode_eq hes]
    exact namedIn_congr hget
  · rw [names_eq hspread, names_eq hes]
    simp only [metadataIs_eq, metadataKey]
    rw [hget _ (by decide), hget _ (hcodeKey kind)]

/-- A requirement names the codes that it adds to the covered ones. -/
theorem namedCode_ok {r : PlanRequirement} {n : Option (RequirementKind × Json)}
    (h : namedCode r = .ok n) {kind : RequirementKind} {code : String} (hcode : code ≠ "") :
    (n.any fun entry => entry.1 = kind && isText entry.2 code) = names kind code r := by
  cases hes : spread r.metadata with
  | error e =>
    rw [namedCode, hes] at h
    cases h
  | ok es =>
    rw [namedCode_eq hes] at h
    rw [names_eq hes]
    exact namedIn_ok h hcode

/-! ## Coverage -/

/-- A code is covered when a requirement names it. -/
theorem isCovered_iff {rows : List PlanRequirement}
    {named : List (Option (RequirementKind × Json))} (h : rows.mapM namedCode = .ok named)
    {kind : RequirementKind} {code : String} (hcode : code ≠ "") :
    isCovered named kind code = true ↔ 0 < rows.countP (names kind code) := by
  rw [List.countP_pos_iff]
  induction rows generalizing named with
  | nil =>
    obtain rfl := Except.ok.inj h
    simp [isCovered]
  | cons r rows ih =>
    rw [List.mapM_cons] at h
    obtain ⟨n, hn, h⟩ := bind_eq_ok.1 h
    obtain ⟨ns, hns, h⟩ := bind_eq_ok.1 h
    obtain rfl := pure_eq_ok.1 h
    have hrest := ih hns
    rw [isCovered] at hrest ⊢
    rw [List.any_cons, Bool.or_eq_true, hrest, namedCode_ok hn hcode]
    simp

theorem coverage_ok {plan : PlanDb} {gate : PlanNode} {coverage : Coverage} :
    zeroStartRequirementCoverage plan gate = .ok coverage ↔
      ∃ named, (requirementsAt plan gate.nodeId).mapM namedCode = .ok named ∧
        coverage = coverageOf named := by
  rw [zeroStartRequirementCoverage]
  constructor
  · intro h
    obtain ⟨named, hnamed, h⟩ := bind_eq_ok.1 h
    exact ⟨named, hnamed, (pure_eq_ok.1 h).symm⟩
  · rintro ⟨named, hnamed, rfl⟩
    exact bind_eq_ok.2 ⟨named, hnamed, rfl⟩

/-- The startup codes with their kinds. -/
def startupCodes : List (RequirementKind × String) :=
  startupCapabilities.map (fun c => (.capability, c.code)) ++
    startupDocumentSigners.map fun d => (.document, d.code)

theorem startupCode_ne_empty : ∀ entry ∈ startupCodes, entry.2 ≠ "" := by
  decide

theorem isComplete_iff {named : List (Option (RequirementKind × Json))} :
    (coverageOf named).isComplete = true ↔
      ∀ entry ∈ startupCodes, isCovered named entry.1 entry.2 = true := by
  simp only [coverageOf, Bool.and_eq_true, decide_eq_true_eq, List.length_eq_zero_iff,
    List.filter_eq_nil_iff, startupCodes, List.mem_append, List.mem_map]
  constructor
  · rintro ⟨hcaps, hdocs⟩ entry (⟨c, hc, rfl⟩ | ⟨d, hd, rfl⟩)
    · simpa using hcaps c hc
    · simpa using hdocs d hd
  · intro h
    exact ⟨fun c hc => by simpa using h _ (.inl ⟨c, hc, rfl⟩),
      fun d hd => by simpa using h _ (.inr ⟨d, hd, rfl⟩)⟩

/-! ## The gate in the context -/

section

variable {context context' : ApplicationContext} {db db' : PlanDb} {id : NodeId}

/-- The context finds the gate node by its code. -/
structure KnowsGate (context : ApplicationContext) (id : NodeId) : Prop where
  byCode : lookup context.nodesByCode "Z0" = some id
  live : ∃ n ∈ context.nodesByNewId, n.nodeId = id
  codes : ∀ n ∈ context.nodesByNewId, ∃ s, n.code = .str s

theorem KnowsGate.of_sameMaps (h : KnowsGate context id) (hmaps : SameMaps context context') :
    KnowsGate context' id := by
  constructor
  · rw [hmaps.nodesByCode]
    exact h.byCode
  · rw [hmaps.nodesByNewId]
    exact h.live
  · rw [hmaps.nodesByNewId]
    exact h.codes

/-- The node of a requirement on the gate is resolved. -/
theorem KnowsGate.resolve (py : Python) (h : KnowsGate context id) {payload : List (String × Json)}
    (hid : getKey payload "node_id" = .scalar .none)
    (htarget : getKey payload "target_node_id" = .scalar .none)
    (hcode : getKey payload "node_code" = .str "Z0") :
    ∃ n, resolveNode py payload context ["node_id", "target_node_id"]
      ["node_code", "target_node_code"] = .ok n ∧ n.nodeId = id ∧ ∃ s, n.code = .str s := by
  obtain ⟨m, hm, hmid⟩ := h.live
  have hsome : (context.liveNode? id).isSome := by
    rw [ApplicationContext.liveNode?, List.find?_isSome]
    exact ⟨m, hm, decide_eq_true hmid⟩
  obtain ⟨n, hn⟩ := Option.isSome_iff_exists.1 hsome
  have hids : resolveKeys py payload context.nodeOfId? ["node_id", "target_node_id"] = none := by
    simp [resolveKeys, hid, htarget, isBlank]
  have hkeys : resolveKeys py payload context.nodeOfCode? ["node_code", "target_node_code"] =
      some n := by
    have hstr : py.str (.str "Z0") = "Z0" := rfl
    have hfound : context.nodeOfCode? "Z0" = some n := by
      rw [ApplicationContext.nodeOfCode?, h.byCode, Option.bind_some, hn]
    simp [resolveKeys, hcode, isBlank, hstr, hfound]
  refine ⟨n, ?_, by simpa using List.find?_some hn, h.codes n (List.mem_of_find?_eq_some hn)⟩
  rw [resolveNode, hids, hkeys]

section

variable {source : PlanRevision} {copies : List PlanNode}

theorem copied_codes (h : Copied source context db db' context' copies)
    (hempty : context.nodesByNewId = []) : ∀ n ∈ context'.nodesByNewId, ∃ s, n.code = .str s := by
  intro n hn
  rw [h.remembered, rememberCopies_nodesByNewId, hempty, List.nil_append] at hn
  obtain ⟨p, -, rfl⟩ := List.mem_map.1 hn
  exact ⟨_, rfl⟩

/-- After the copy the context finds the copy of the gate node. -/
theorem copied_knowsGate (h : Copied source context db db' context' copies)
    (hcodes : context.nodesByCode = []) (hnodes : context.nodesByNewId = [])
    (hunique : UniqueCodes db source.revisionId) {gate : PlanNode}
    (hgate : gate ∈ nodesIn db source.revisionId) (hcode : gate.code.text = "Z0") :
    KnowsGate context' (copyName context' gate.nodeId) := by
  obtain ⟨c, hzip⟩ := h.exists_copy hgate
  rw [h.copyName_eq hzip]
  constructor
  · have hknown : lookup context'.nodesByCode "Z0" ≠ none := by
      refine lookup_ne_none (?_ : (_, c.nodeId) ∈ _)
      rw [h.remembered, rememberCopies_nodesByCode, hcodes, List.append_nil, List.mem_reverse]
      refine List.mem_map.2 ⟨(gate, c), hzip, ?_⟩
      rw [h.code_eq hzip, hcode]
    obtain ⟨id, hid⟩ := Option.ne_none_iff_exists'.1 hknown
    obtain ⟨n, d, hzip', htext, rfl⟩ := h.lookup_code hcodes hid
    obtain rfl := hunique.eq_of_code hgate (Copied.source_mem hzip') (hcode.trans htext.symm)
    rw [hid, ← h.copyName_eq hzip', h.copyName_eq hzip]
  · rw [h.remembered, rememberCopies_nodesByNewId, hnodes, List.nil_append]
    exact ⟨_, List.mem_map_of_mem hzip, rfl⟩
  · exact copied_codes h hnodes

/-- After the copy every requirement has its node. -/
theorem copied_requirement_node (h : Copied source context db db' context' copies)
    (hkeys : ForeignKeys db) {r : PlanRequirement} (hr : r ∈ db'.requirements.rows) :
    ∃ n ∈ db'.nodes.rows, n.nodeId = r.node := by
  obtain ⟨rs, hrs, hrsRows⟩ := h.requirements
  rw [hrsRows] at hr
  rcases List.mem_append.1 hr with hr | hr
  · obtain ⟨n, hn, hnid⟩ := hkeys.requirements r hr
    refine ⟨n, ?_, hnid⟩
    rw [h.nodeRows]
    exact List.mem_append_left _ hn
  · obtain ⟨x, -, hx⟩ := forall₂_right hrs hr
    obtain ⟨n, c, hzip, -, hcid⟩ := h.found _ _ hx.1
    refine ⟨withParent context' n c, ?_, hcid⟩
    rw [h.nodeRows]
    exact List.mem_append_right _ (zipWith_parent_mem hzip)

end

/-! ## Requirements on the gate -/

/-- The operations add the requirements. -/
def RequirementsDrafted (reqs : List GateRequirement) (operations : List PlanChangeOperation) :
    Prop :=
  List.Forall₂ (fun r o => Drafted r.draft o) reqs operations

/-- The row of a requirement that was added to the gate. -/
structure OnGate (id : NodeId) (r : GateRequirement) (row : PlanRequirement) : Prop where
  node : row.node = id
  metadata : ∃ operationId, row.metadata =
    .obj (merged r.metadata [("source_change_operation_id", .str operationId)])

theorem draft_key {r : GateRequirement} :
    getKey r.draft.newValue "node_id" = .scalar .none ∧
    getKey r.draft.newValue "target_node_id" = .scalar .none ∧
    getKey r.draft.newValue "node_code" = .str "Z0" ∧
    getKey r.draft.newValue "name" = .str r.name ∧
    getKey r.draft.newValue "requirement_type" = .str r.requirementType ∧
    getKey r.draft.newValue "metadata" = .obj r.metadata ∧
    getKey r.draft.newValue "quantity" = .scalar (.int r.quantity) ∧
    getKey r.draft.newValue "unit" = .str r.unit ∧
    getKey r.draft.newValue "unit_cost" = .str "0.00" ∧
    getKey r.draft.newValue "total_cost_estimate" = .str "0.00" := by
  simp [GateRequirement.draft, getKey, Json.get?]

theorem applyRequirement_ok {r : GateRequirement} {operation : PlanChangeOperation}
    (hdrafted : Drafted r.draft operation) (hknows : KnowsGate context id)
    (h : applyOperation py context operation db = .ok context' db') :
    ∃ row, OnGate id r row ∧ db' = { db with requirements := db'.requirements } ∧
      db'.requirements.rows = db.requirements.rows ++ [row] ∧ SameMaps context context' := by
  obtain ⟨hid, htarget, hcode, -, -, hmetadata, -⟩ := draft_key (r := r)
  have hread : operationPayload operation = .ok r.draft.newValue :=
    Simulation.payload_drafted hdrafted (List.cons_ne_nil _ _)
  have htype : OperationType.ofValue? operation.operationType = some .addRequirement :=
    Simulation.ofValue?_drafted hdrafted
  simp only [applyOperation, htype] at h
  obtain ⟨payload, hpayload, h⟩ := run_compute_bind_ok.1 h
  obtain rfl := Except.ok.inj (hread.symm.trans hpayload)
  obtain ⟨node, hnode, h⟩ := run_compute_bind_ok.1 h
  obtain ⟨n, hn, hnid, -⟩ := hknows.resolve py hid htarget hcode
  obtain rfl := Except.ok.inj (hn.symm.trans hnode)
  obtain ⟨row, requirements, hnew, rfl, hrows, hmaps⟩ := addRequirement_ok h
  refine ⟨row, ⟨hnew.node.trans hnid, operation.operationId, ?_⟩, rfl, hrows, hmaps⟩
  obtain ⟨es, hes, hrow⟩ := hnew.metadata
  rw [hmetadata, spread_obj] at hes
  rw [hrow, Except.ok.inj hes]

theorem applyRequirements_ok {reqs : List GateRequirement} {operations : List PlanChangeOperation}
    (hdrafted : RequirementsDrafted reqs operations) (hknows : KnowsGate context id)
    (h : operations.foldlM (applyOperation py) context db = .ok context' db') :
    ∃ rows, List.Forall₂ (OnGate id) reqs rows ∧
      db' = { db with requirements := db'.requirements } ∧
      db'.requirements.rows = db.requirements.rows ++ rows := by
  induction hdrafted generalizing context db with
  | nil =>
    obtain ⟨-, rfl⟩ := by simpa [List.foldlM_nil] using h
    exact ⟨[], .nil, rfl, by simp⟩
  | cons hfirst _ ih =>
    rw [List.foldlM_cons] at h
    obtain ⟨context₁, db₁, hstep, h⟩ := run_bind_ok.1 h
    obtain ⟨row, hrow, hdb₁, hrows₁, hmaps⟩ := applyRequirement_ok hfirst hknows hstep
    obtain ⟨rows, hrest, hdb', hrows⟩ := ih (hknows.of_sameMaps hmaps) h
    exact ⟨row :: rows, .cons hrow hrest, by rw [hdb', hdb₁], by rw [hrows, hrows₁]; simp⟩

theorem filter_onGate {reqs : List GateRequirement} {rows : List PlanRequirement}
    (h : List.Forall₂ (OnGate id) reqs rows) : rows.filter (fun r => r.node = id) = rows := by
  refine List.filter_eq_self.2 fun row hrow => ?_
  obtain ⟨r, -, hon⟩ := forall₂_right h hrow
  exact decide_eq_true hon.node

/-- A requirement that was added names its own code. -/
theorem names_onGate {r : GateRequirement} {row : PlanRequirement} (h : OnGate id r row)
    (hcode : r.code ≠ "") : namedCode row = .ok (some (r.kind, .str r.code)) ∧
      ∀ kind code, names kind code row = (decide (r.kind = kind) && decide (r.code = code)) := by
  obtain ⟨operationId, hmetadata⟩ := h.metadata
  have hspread : spread row.metadata =
      .ok (merged r.metadata [("source_change_operation_id", .str operationId)]) := by
    rw [hmetadata, spread_obj]
  have hkey : ∀ kind : RequirementKind, kind.codeKey ≠ "scenario" ∧
      kind.codeKey ≠ "requirement_kind" ∧ kind.codeKey ≠ "source_change_operation_id" := by
    intro kind
    cases kind <;> decide
  have hkind : Json.get? (merged r.metadata [("source_change_operation_id", .str operationId)])
      "requirement_kind" = some (.str r.kind.value) := by
    rw [merged, List.foldl_cons, List.foldl_nil, get?_upsert, if_neg (by simp)]
    simp [GateRequirement.metadata, Json.get?]
  have hown : Json.get? (merged r.metadata [("source_change_operation_id", .str operationId)])
      r.kind.codeKey = some (.str r.code) := by
    rw [merged, List.foldl_cons, List.foldl_nil, get?_upsert, if_neg (hkey r.kind).2.2]
    simp [GateRequirement.metadata, Json.get?, Ne.symm (hkey r.kind).1, Ne.symm (hkey r.kind).2.1]
  constructor
  · have htruthy : truthy (.str r.code) = true := by
      simpa [truthy, Json.toPy, PyVal.truthy] using hcode
    rw [namedCode_eq hspread, namedIn]
    simp only [getKeyOr, hkind, Option.getD_some]
    cases hk : r.kind with
    | capability =>
      rw [hk] at hown
      simp [isText, hown, htruthy, hashable, Except.map]
    | document =>
      rw [hk] at hown
      have hne : ¬ RequirementKind.document.value = RequirementKind.capability.value := by decide
      simp [isText, hown, htruthy, hashable, Except.map, hne]
  · intro kind code
    rw [names_eq hspread]
    simp only [metadataIs_eq, metadataKey]
    rw [hkind, Option.any_some]
    by_cases hsame : r.kind = kind
    · subst hsame
      rw [hown, Option.any_some]
      simp [isText]
    · have hvalue : r.kind.value ≠ kind.value := by
        revert hsame
        cases r.kind <;> cases kind <;> decide
      simp [isText, hsame, hvalue]

/-! ## The gate node -/

theorem gateNodeDraft_key : getKey gateNodeDraft.newValue "code" = .str "Z0" ∧
    getKey gateNodeDraft.newValue "requirements" = .scalar .none := by
  simp [gateNodeDraft, getKey, Json.get?]

theorem requiredStr_code {operation : PlanChangeOperation} :
    requiredStr py gateNodeDraft.newValue "code" operation = .ok "Z0" :=
  Simulation.requiredStr_text gateNodeDraft_key.1 (by decide) (by decide +kernel)

theorem applyGateNode_ok {operation : PlanChangeOperation}
    (hdrafted : Drafted gateNodeDraft operation)
    (hcodes : ∀ n ∈ context.nodesByNewId, ∃ s, n.code = .str s)
    (h : applyOperation py context operation db = .ok context' db') :
    ∃ node nodes, node.code.text = "Z0" ∧ node.revision = context.revision.revisionId ∧
      db' = { db with nodes := nodes } ∧ nodes.rows = db.nodes.rows ++ [node] ∧
      KnowsGate context' node.nodeId := by
  have hread : operationPayload operation = .ok gateNodeDraft.newValue :=
    Simulation.payload_drafted hdrafted (List.cons_ne_nil _ _)
  have htype : OperationType.ofValue? operation.operationType = some .addNode :=
    Simulation.ofValue?_drafted hdrafted
  simp only [applyOperation, htype] at h
  obtain ⟨payload, node, nodes, requirements, hnew, rfl, hrows, -, hmaps, hnone⟩ :=
    applyAddNode_ok h
  obtain rfl := Except.ok.inj (hread.symm.trans hnew.reads)
  obtain rfl := hnone gateNodeDraft_key.2
  have hcode : node.code.text = "Z0" := (Except.ok.inj (requiredStr_code.symm.trans hnew.code)).symm
  refine ⟨node, nodes, hcode, hnew.revision, rfl, hrows, KnowsGate.of_sameMaps ⟨?_, ?_, ?_⟩ hmaps⟩
  · rw [ApplicationContext.rememberNode, hcode, lookup_cons, if_pos rfl]
  · exact ⟨_, List.mem_append_right _ List.mem_cons_self, rfl⟩
  · intro n hn
    rcases List.mem_append.1 hn with hn | hn
    · exact hcodes n hn
    · rw [List.mem_singleton.1 hn]
      exact ⟨_, rfl⟩

theorem gateNode?_some {plan : PlanDb} {revision : RevisionId} {gate : PlanNode}
    (h : gateNode? plan revision = some gate) :
    gate ∈ nodesIn plan revision ∧ gate.code.text = "Z0" :=
  ⟨mem_nodesIn.2 (mem_revisionNodes.1 (List.mem_of_find?_eq_some h)),
    by simpa using List.find?_some h⟩

theorem gateNode?_none {plan : PlanDb} {revision : RevisionId} :
    gateNode? plan revision = none ↔ ∀ n ∈ nodesIn plan revision, n.code.text ≠ "Z0" := by
  rw [gateNode?, List.find?_eq_none]
  constructor
  · intro h n hn
    simpa using h n (mem_revisionNodes.2 (mem_nodesIn.1 hn))
  · intro h n hn
    simpa using h n (mem_nodesIn.2 (mem_revisionNodes.1 hn))

/-- The gate node is found where only one id has its code. -/
theorem gateNode?_of_only {plan : PlanDb} {revision : RevisionId}
    (hexists : ∃ m ∈ nodesIn plan revision, m.code.text = "Z0")
    (honly : ∀ m ∈ nodesIn plan revision, m.code.text = "Z0" → m.nodeId = id) :
    ∃ gate, gateNode? plan revision = some gate ∧ gate.nodeId = id := by
  obtain ⟨m, hm, hcode⟩ := hexists
  cases hgate : gateNode? plan revision with
  | none => exact absurd hcode (gateNode?_none.1 hgate m hm)
  | some gate =>
    obtain ⟨hmem, hgateCode⟩ := gateNode?_some hgate
    exact ⟨gate, rfl, honly gate hmem hgateCode⟩

theorem hasGate_iff {plan : PlanDb} {revision : RevisionId} :
    planRevisionHasZeroStartGate plan revision = (gateNode? plan revision).isSome := by
  rw [Bool.eq_iff_iff, planRevisionHasZeroStartGate, gateNode?, List.find?_isSome, List.any_eq_true]
  simp only [Bool.and_eq_true, decide_eq_true_eq, mem_revisionNodes]
  exact ⟨fun ⟨n, hn, hr, hc⟩ => ⟨n, ⟨hn, hr⟩, hc⟩, fun ⟨n, ⟨hn, hr⟩, hc⟩ => ⟨n, hn, hr, hc⟩⟩

end

/-! ## The requirements of the new gate -/

/-- The gate of the new revision has the requirements of the old one, under their codes, and then
the added ones. -/
def GateRows (plan : PlanDb) (newId : RevisionId) (old : List PlanRequirement)
    (reqs : List GateRequirement) : Prop :=
  ∃ gate kept new sources, gateNode? plan newId = some gate ∧
    requirementsAt plan gate.nodeId = kept ++ new ∧ sources.Perm old ∧
    List.Forall₂ SameNames sources kept ∧ List.Forall₂ (OnGate gate.nodeId) reqs new

section

variable {call : ApplyCall} {locked : PlanChangeSet} {db db' start copied applied : PlanDb}
  {source revision : PlanRevision} {context₁ context₂ : ApplicationContext}
  {reqs : List GateRequirement}

theorem sameNames_of_copied {r c : PlanRequirement} (h : KeepsMetadata r c) : SameNames r c := by
  obtain ⟨es, hes, hc⟩ := h
  exact sameNames_of_merged hes hc (by decide)

/-- Nothing but requirements and revisions differs from the copy. -/
theorem gateRows_of_gate
    (h : Stages py call locked db db' source revision start copied applied context₁ context₂)
    (hkeys : ForeignKeys db) (hunique : UniqueCodes db locked.planRevision) {gate : PlanNode}
    (hgate : gateNode? db locked.planRevision = some gate)
    (hdrafted : RequirementsDrafted reqs (changeSetOperations db locked.changeSetId)) :
    GateRows db' revision.revisionId (requirementsAt db gate.nodeId) reqs := by
  obtain ⟨-, hsourceId⟩ := Table.get?_eq_some.1 h.fetched
  rw [← hsourceId] at hunique hgate
  obtain ⟨copies, hcopied, rs, hrs, hrsRows⟩ := copyRevisionContents_metadata rfl h.copy
  have hstart := h.start_samePlan
  have hfresh : FreshRevision start (startContext call revision).revision.revisionId :=
    h.fresh hkeys
  have hkeys' : ForeignKeys start :=
    hstart.foreignKeys (h.enteredRows ▸ List.prefix_append _ _) hkeys
  have hunique' : UniqueCodes start source.revisionId := hstart.shape.2.2.2.2 hunique
  obtain ⟨hmem, hcode⟩ := gateNode?_some hgate
  rw [← hstart.nodesIn] at hmem
  have hknows := copied_knowsGate hcopied rfl rfl hunique' hmem hcode
  obtain ⟨rows, hnew, happlied, hrows⟩ := applyRequirements_ok hdrafted hknows h.operations
  have happliedPlan := h.applied_samePlan
  -- the only node of the new revision with the code is the copy of the gate
  have hnodes : nodesIn db' revision.revisionId = nodesIn copied revision.revisionId := by
    rw [happliedPlan.nodesIn, happlied]
    rfl
  obtain ⟨m, hm, hmid, hmfields, -⟩ := hcopied.maps hfresh hmem
  obtain ⟨gate', hgate', hid⟩ : ∃ gate', gateNode? db' revision.revisionId = some gate' ∧
      gate'.nodeId = copyName context₁ gate.nodeId := gateNode?_of_only
    (by
      rw [hnodes]
      exact ⟨m, hm, by rw [hmfields.code]; exact hcode⟩)
    (by
      intro k hk hkcode
      rw [hnodes] at hk
      obtain ⟨n, hn, hkid, hfields⟩ := hcopied.surjective hfresh hk
      have hncode : n.code.text = "Z0" := by
        rw [← hkcode, hfields.code]
        rfl
      rw [hkid, hunique'.eq_of_code hn hmem (hncode.trans hcode.symm)])
  have hpairs := copies_at PlanRequirement.node hcopied (fun _ _ hxy => hxy.1.1)
    hkeys'.requirements hangsOn_nodes hrs hmem
  have hperm := hangsOn_perm PlanRequirement.node (fun r => r.requirementId.text)
    start.requirements.rows hmem
  refine ⟨gate', requirementsAt copied (copyName context₁ gate.nodeId), rows, _, hgate', ?_,
    hperm.trans (List.Perm.of_eq (hstart.requirementsAt gate.nodeId)), ?_, hid ▸ hnew⟩
  · rw [hid, requirementsAt, happliedPlan.requirements, hrows, List.filter_append,
      filter_onGate hnew]
    rfl
  · rw [requirementsAt, hrsRows]
    exact hpairs.imp fun r c hrc => sameNames_of_copied hrc.2

/-- A gate that the change set adds has the added requirements alone. -/
theorem gateRows_of_none
    (h : Stages py call locked db db' source revision start copied applied context₁ context₂)
    (hkeys : ForeignKeys db) (hgate : gateNode? db locked.planRevision = none)
    {addition : PlanChangeOperation} {rest : List PlanChangeOperation}
    (hoperations : changeSetOperations db locked.changeSetId = addition :: rest)
    (haddition : Drafted gateNodeDraft addition) (hdrafted : RequirementsDrafted reqs rest) :
    GateRows db' revision.revisionId [] reqs := by
  obtain ⟨-, hsourceId⟩ := Table.get?_eq_some.1 h.fetched
  rw [← hsourceId] at hgate
  obtain ⟨copies, hcopied⟩ := copyRevisionContents_ok rfl h.copy
  have hstart := h.start_samePlan
  have hfresh : FreshRevision start (startContext call revision).revision.revisionId :=
    h.fresh hkeys
  have hkeys' : ForeignKeys start :=
    hstart.foreignKeys (h.enteredRows ▸ List.prefix_append _ _) hkeys
  have hcontext : context₁.revision = revision := by
    rw [hcopied.remembered, (rememberCopies_frame _).1]
    rfl
  have hops := h.operations
  rw [hoperations, List.foldlM_cons] at hops
  obtain ⟨context, db₁, hnode, hops⟩ := run_bind_ok.1 hops
  obtain ⟨node, nodes, hcode, hrevision, rfl, hnodes, hknows⟩ :=
    applyGateNode_ok haddition (copied_codes hcopied rfl) hnode
  obtain ⟨rows, hnew, happlied, hrows⟩ := applyRequirements_ok hdrafted hknows hops
  have happliedPlan := h.applied_samePlan
  have hin : nodesIn db' revision.revisionId = nodesIn copied revision.revisionId ++ [node] := by
    rw [happliedPlan.nodesIn, happlied, nodesIn]
    dsimp only
    rw [hnodes, List.filter_append, List.filter_cons_of_pos, List.filter_nil]
    · rfl
    · rw [hrevision, hcontext]
      exact decide_eq_true rfl
  obtain ⟨gate', hgate', hid⟩ : ∃ gate', gateNode? db' revision.revisionId = some gate' ∧
      gate'.nodeId = node.nodeId := gateNode?_of_only
    (by
      rw [hin]
      exact ⟨node, List.mem_append_right _ List.mem_cons_self, hcode⟩)
    (by
      intro k hk hkcode
      rw [hin] at hk
      rcases List.mem_append.1 hk with hk | hk
      · obtain ⟨n, hn, -, hfields⟩ := hcopied.surjective hfresh hk
        rw [hstart.nodesIn] at hn
        refine absurd ?_ (gateNode?_none.1 hgate n hn)
        rw [← hkcode, hfields.code]
        rfl
      · rw [List.mem_singleton.1 hk])
  refine ⟨gate', [], rows, [], hgate', ?_, .refl _, .nil, hid ▸ hnew⟩
  -- the node is new, so no requirement names it before
  have hnone : copied.requirements.rows.filter (fun r => r.node = node.nodeId) = [] := by
    have hnd := nodes.pkUnique
    rw [hnodes, List.map_append, List.nodup_append] at hnd
    refine List.filter_eq_nil_iff.2 fun r hr hnodeId => ?_
    obtain ⟨n, hn, hnid⟩ := copied_requirement_node hcopied hkeys' hr
    refine hnd.2.2 _ (List.mem_map_of_mem hn) _ (List.mem_map_of_mem List.mem_cons_self) ?_
    rw [hnid]
    exact of_decide_eq_true hnodeId
  rw [hid, requirementsAt, happliedPlan.requirements, hrows, List.filter_append,
    filter_onGate hnew]
  dsimp only
  rw [hnone]

end

/-! ## Completion -/

/-- The requirements that the feedback adds for what is missing. -/
def missingOnGate (coverage : Coverage) : List GateRequirement :=
  coverage.missingCapabilities.map capabilityOnGate ++ coverage.missingDocuments.map documentOnGate

theorem missingOnGate_codes (named : List (Option (RequirementKind × Json))) :
    (missingOnGate (coverageOf named)).map (fun r => (r.kind, r.code)) =
      startupCodes.filter fun entry => !isCovered named entry.1 entry.2 := by
  rw [missingOnGate, startupCodes, List.map_append, List.map_map, List.map_map, List.filter_append,
    List.filter_map, List.filter_map]
  rfl

theorem startupCodes_nodup : startupCodes.Nodup := by decide

/-- A missing code is added once and a covered one is not. -/
theorem countP_missing (named : List (Option (RequirementKind × Json)))
    {entry : RequirementKind × String} (hentry : entry ∈ startupCodes) :
    (missingOnGate (coverageOf named)).countP
      (fun r => decide (r.kind = entry.1) && decide (r.code = entry.2)) =
      if isCovered named entry.1 entry.2 = true then 0 else 1 := by
  have hcount : (missingOnGate (coverageOf named)).countP
      (fun r => decide (r.kind = entry.1) && decide (r.code = entry.2)) =
      (startupCodes.filter fun e => !isCovered named e.1 e.2).count entry := by
    rw [← missingOnGate_codes, List.count, List.countP_map]
    refine List.countP_congr fun r _ => ?_
    simp [Prod.ext_iff]
  rw [hcount]
  split
  · rename_i hcovered
    exact List.count_eq_zero.2 fun hmem => by simp [hcovered] at hmem
  · rename_i hmissing
    refine List.count_eq_one_of_mem (startupCodes_nodup.filter _) ?_
    exact List.mem_filter.2 ⟨hentry, by simpa using hmissing⟩

theorem missing_code_ne_empty {named : List (Option (RequirementKind × Json))} {r : GateRequirement}
    (h : r ∈ missingOnGate (coverageOf named)) : r.code ≠ "" := by
  have hmem : (r.kind, r.code) ∈ (missingOnGate (coverageOf named)).map fun r => (r.kind, r.code) :=
    List.mem_map_of_mem h
  rw [missingOnGate_codes] at hmem
  exact startupCode_ne_empty _ (List.mem_filter.1 hmem).1

/-- The codes on the gate of a revision that a feedback made from an earlier one. -/
structure Converged (plan : PlanDb) (newId : RevisionId) (before : RequirementKind → String → Nat)
    (gate : PlanNode) : Prop where
  found : gateNode? plan newId = some gate
  complete : ∃ coverage, zeroStartRequirementCoverage plan gate = .ok coverage ∧
    coverage.isComplete = true
  covered : ∀ entry ∈ startupCodes, 0 < before entry.1 entry.2 →
    occurrences plan gate.nodeId entry.1 entry.2 = before entry.1 entry.2
  missing : ∀ entry ∈ startupCodes, before entry.1 entry.2 = 0 →
    occurrences plan gate.nodeId entry.1 entry.2 = 1

theorem countP_of_map_eq {α β : Type} {xs : List α} {ys : List β} {f : α → Bool} {g : β → Bool}
    (h : xs.map f = ys.map g) : xs.countP f = ys.countP g := by
  have hcount := congrArg (List.countP id) h
  rwa [List.countP_map, List.countP_map] at hcount

/-- **Completion.** Where the missing codes are added to those that the old gate has, every startup
code is on the new gate, and none is there more often than it was or once. -/
theorem GateRows.converged {plan : PlanDb} {newId : RevisionId} {old : List PlanRequirement}
    {named : List (Option (RequirementKind × Json))}
    (h : GateRows plan newId old (missingOnGate (coverageOf named)))
    (hold : old.mapM namedCode = .ok named) :
    ∃ gate, Converged plan newId (fun kind code => old.countP (names kind code)) gate := by
  obtain ⟨gate, kept, new, sources, hgate, hrows, hperm, hkept, hnew⟩ := h
  have hnames : ∀ kind code, new.countP (names kind code) =
      (missingOnGate (coverageOf named)).countP
        (fun r => decide (r.kind = kind) && decide (r.code = code)) := by
    intro kind code
    refine countP_of_map_eq ?_
    exact forall₂_map_eq hnew fun r hr row hrow =>
      ((names_onGate hrow (missing_code_ne_empty hr)).2 kind code).symm
  have hcount : ∀ entry ∈ startupCodes, occurrences plan gate.nodeId entry.1 entry.2 =
      old.countP (names entry.1 entry.2) +
        if 0 < old.countP (names entry.1 entry.2) then 0 else 1 := by
    intro entry hentry
    have hkeptCount : kept.countP (names entry.1 entry.2) = old.countP (names entry.1 entry.2) := by
      rw [← hperm.countP_eq]
      refine countP_of_map_eq ?_
      exact forall₂_map_eq hkept fun r _ c hrc => (hrc.names entry.1 entry.2).symm
    rw [occurrences, hrows, List.countP_append, hkeptCount, hnames, countP_missing named hentry]
    congr 1
    exact if_congr (isCovered_iff hold (startupCode_ne_empty entry hentry)) rfl rfl
  have hpositive : ∀ entry ∈ startupCodes, 0 < occurrences plan gate.nodeId entry.1 entry.2 := by
    intro entry hentry
    rw [hcount entry hentry]
    split <;> omega
  obtain ⟨found, hfound⟩ : ∃ found,
      (requirementsAt plan gate.nodeId).mapM namedCode = .ok found := by
    refine returns_mapM.2 fun row hrow => ?_
    rw [hrows] at hrow
    rcases List.mem_append.1 hrow with hrow | hrow
    · obtain ⟨r, hr, hsame⟩ := forall₂_right hkept hrow
      rw [hsame.named]
      exact returns_mapM.1 ⟨named, hold⟩ r (hperm.mem_iff.1 hr)
    · obtain ⟨r, hr, hon⟩ := forall₂_right hnew hrow
      exact ⟨_, (names_onGate hon (missing_code_ne_empty hr)).1⟩
  refine ⟨gate, hgate, ⟨coverageOf found, coverage_ok.2 ⟨found, hfound, rfl⟩, ?_⟩,
    fun entry hentry hbefore => ?_, fun entry hentry hbefore => ?_⟩
  · exact isComplete_iff.2 fun entry hentry =>
      (isCovered_iff hfound (startupCode_ne_empty entry hentry)).2 (hpositive entry hentry)
  · rw [hcount entry hentry, if_pos hbefore, Nat.add_zero]
  · rw [hcount entry hentry, hbefore]
    rfl

end LiveOs.ZeroStart
