import LiveOs.Lib.Raises
import LiveOs.Planning.Verify.Isomorphism

/-!
# What the preflight check leaves to be refused

The check looks at types of operations and at the presence of keys. What the application of a
checked change set can still raise is a reference that names no node, a code that exists, a field
that cannot be updated, an id that is not free, or what a converter or a column raises for a value of
the wrong shape. Whatever it is, nothing is written.
-/

namespace LiveOs.Planning

open Lib

variable {py : Python} {db : PlanDb} {context : ApplicationContext}
  {operation : PlanChangeOperation} {payload : List (String × Json)} {E : PyError → Prop}

/-! ## What converters and columns raise -/

/-- What `int` raises. -/
def intErrors : List PyError := [.value, .overflow, .type]

/-- What a decimal column and the conversion for it raise. -/
def decimalErrors : List PyError := [.invalidOperation, .validation]

theorem fails_intOf {v : Json} : Fails (· ∈ intErrors) (intOf py v) := by
  have herror : ∀ e ∈ intErrors, Fails (· ∈ intErrors) (.error e : Except PyError Int) :=
    fun e he => fails_error he
  unfold intOf
  split
  · exact fails_ok
  · exact fails_ok
  · split
    · exact fails_ok
    · exact herror .value (by decide)
    · exact herror .overflow (by decide)
  · split
    · exact fails_ok
    · exact herror .value (by decide)
  · exact herror .type (by decide)

theorem fails_intValue {v : Json} {default : Int} :
    Fails (· ∈ intErrors) (intValue py v default) :=
  fails_ite (fun _ => fails_ok) fun _ => fails_intOf

theorem fails_optionalIntValue {v : Json} : Fails (· ∈ intErrors) (optionalIntValue py v) :=
  fails_ite (fun _ => fails_ok) fun _ => fails_intOf.map

theorem fails_decimalValue {v : Json} {default : Number} :
    Fails (· ∈ decimalErrors) (decimalValue py v default) := by
  refine fails_ite (fun _ => fails_ok) fun _ => ?_
  unfold decimalOf
  split
  · exact fails_ok
  · exact fails_error (by decide)

theorem fails_of_ok {α : Type} {x : Except PyError α} {a : α} (h : x = .ok a) : Fails E x :=
  h ▸ fails_ok

theorem varChar_store_of_length {n : Nat} {s : String} (h : s.length ≤ n) :
    ∃ v : VarChar n, VarChar.store s = .ok v := ⟨⟨s, h⟩, dif_pos h⟩

theorem fails_varChar {n : Nat} {s : String} :
    Fails (· ∈ [PyError.data]) (VarChar.store s : Except PyError (VarChar n)) := by
  unfold VarChar.store
  split
  · exact fails_ok
  · exact fails_error (by decide)

theorem fails_positiveInt {i : Int} : Fails (· ∈ [PyError.data]) (PositiveInt.store i) := by
  unfold PositiveInt.store
  split
  · exact fails_ok
  · exact fails_error (by decide)

theorem fails_storeOptional {i : Option Int} : Fails (· ∈ [PyError.data]) (storeOptional i) := by
  cases i with
  | none => exact fails_ok
  | some i => exact fails_positiveInt.map

theorem fails_decimalColumn {digits places : Nat} {d : Number} :
    Fails (· ∈ decimalErrors) (DecimalColumn.store d : Except PyError (DecimalColumn digits places)) := by
  cases d with
  | nonFinite => exact fails_error (by decide)
  | finite c e =>
    simp only [DecimalColumn.store]
    split
    · exact fails_ok
    · exact fails_error (by decide)

theorem fails_spread {v : Json} : Fails (· ∈ [PyError.type]) (spread v) := by
  refine fails_ite (fun _ => ?_) fun _ => fails_ok
  split
  · exact fails_ok
  · exact fails_error (by decide)

theorem fails_updated {v : Json} {fs : List (String × Json)} :
    Fails (· ∈ [PyError.attribute]) (updated v fs) := by
  refine fails_ite (fun _ => ?_) fun _ => fails_ok
  split
  · exact fails_ok
  · exact fails_error (by decide)

theorem fails_slugOfCode {code : Json} : Fails (· ∈ [PyError.type]) (slugOfCode code) := by
  unfold slugOfCode
  split
  · exact fails_ok
  · exact fails_error (by decide)

theorem fails_appendUnder {metadata item : Json} {key : String} :
    Fails (· ∈ [PyError.attribute]) (appendUnder metadata key item) := by
  refine fails_ite (fun _ => ?_) fun _ => ?_
  · split
    · beta_reduce
      split
      · exact fails_ok
      · exact fails_ok
      · exact fails_error (by decide)
    · exact fails_error (by decide)
  · exact fails_ok

theorem fails_storeText {v : Json} : Fails (· ∈ [PyError.integrity]) (storeText py v) := by
  unfold storeText
  split
  · exact fails_error (by decide)
  · exact fails_ok
  · exact fails_ok

/-! ## Generated ids -/

/-- The refusal of a generated id. -/
def noFreeId (model : ModelName) : PyError :=
  .domain ("无法为 " ++ model.name ++ "." ++ model.field ++ " 生成唯一 ID。")

theorem fails_uniqueModelId {n : Nat} {hn : 0 < n} {model : ModelName} {taken : Key n → Bool}
    {base : String} (h : E (noFreeId model)) : Fails E (uniqueModelId hn model taken base) := by
  unfold uniqueModelId
  split
  · exact fails_ok
  · exact fails_error h

/-- A row under a key that is free is entered. -/
theorem fails_insert {ρ κ α : Type} [DecidableEq κ] [DecidableEq α] {pk : ρ → κ}
    {alt : ρ → Option α} {t : Table ρ κ α pk alt} {r : ρ} {e : PyError}
    (hpk : ∀ s ∈ t.rows, pk s ≠ pk r) (halt : ∀ a, alt r = some a → ∀ s ∈ t.rows, alt s ≠ some a) :
    Fails E (t.insert r e) := by
  obtain ⟨t', ht, -⟩ := Table.insert_of_fresh (e := e) hpk halt
  rw [ht]
  exact fails_ok

theorem raises_createNode {base : String} {node : PlanNode}
    (h : newNodeId db base = .ok node.nodeId) : Raises E (createNode node) db :=
  raises_update ((fails_insert (newNodeId_fresh h) fun _ ha => nomatch ha).bind
    fun _ _ => fails_pure)

theorem raises_createDependency {base : String} {dependency : PlanDependency}
    (h : newDependencyId db base = .ok dependency.dependencyId) :
    Raises E (createDependency dependency) db :=
  raises_update ((fails_insert (fresh_of_free (uniqueModelId_free h)) fun _ ha => nomatch ha).bind
    fun _ _ => fails_pure)

theorem raises_createRequirement {base : String} {requirement : PlanRequirement}
    (h : newRequirementId db base = .ok requirement.requirementId) :
    Raises E (createRequirement requirement) db :=
  raises_update ((fails_insert (fresh_of_free (uniqueModelId_free h)) fun _ ha => nomatch ha).bind
    fun _ _ => fails_pure)

theorem raises_createImpact {base : String} {impact : PlanCapacityImpact}
    (h : newImpactId db base = .ok impact.impactId) : Raises E (createImpact impact) db :=
  raises_update ((fails_insert (fresh_of_free (uniqueModelId_free h)) fun _ ha => nomatch ha).bind
    fun _ _ => fails_pure)

theorem raises_saveNode {nodeId : NodeId} {fields : PlanNode → PlanNode}
    {hfields : ∀ n, (fields n).nodeId = n.nodeId} : Raises E (saveNode nodeId fields hfields) db :=
  raises_update fails_pure

theorem raises_saveRevisionMetadata {revisionId : RevisionId} {metadata : Json} :
    Raises E (saveRevisionMetadata revisionId metadata) db :=
  raises_update fails_pure

/-! ## Refused operations -/

/-- The payload of an operation that passed the check. -/
def payloadOf (operation : PlanChangeOperation) : List (String × Json) :=
  match operation.newValue with
  | .obj es => es
  | _ => []

/-- A reference to a node: the payload it stands in and the keys it is read from. -/
structure Reference where
  payload : List (String × Json)
  idKeys : List String
  codeKeys : List String

/-- The references an operation makes. -/
def references (operation : PlanChangeOperation) : OperationType → List Reference
  | .addNode | .addPreparation => [⟨payloadOf operation, ["parent_id"], ["parent_code"]⟩]
  | .addDependency => [
    ⟨payloadOf operation, ["node_id", "target_node_id"], ["node_code", "target_node_code", "code"]⟩,
    ⟨payloadOf operation, ["depends_on_id"], ["depends_on_code"]⟩]
  | .addRequirement | .addCapacityImpact =>
    [⟨payloadOf operation, ["node_id", "target_node_id"], ["node_code", "target_node_code"]⟩]
  | .updateNodeField => [
    ⟨merged [("node_id", .str operation.targetId)] (payloadOf operation),
      ["node_id", "target_node_id"], ["node_code", "target_node_code", "code"]⟩,
    ⟨[("parent_id", (Json.get? (payloadOf operation) "value").getD (.obj (payloadOf operation)))],
      ["parent_id"], ["parent_code"]⟩]
  | .reduceAdmission | .note => []

/-- What the converters and the columns of an operation raise for values of the wrong shape. -/
def valueErrors : OperationType → List PyError
  | .addNode | .addPreparation => .attribute :: .type :: .data :: intErrors ++ decimalErrors
  | .addDependency => [.type, .data]
  | .addRequirement | .addCapacityImpact => .type :: .data :: decimalErrors
  | .updateNodeField => .integrity :: .data :: intErrors ++ decimalErrors
  | .reduceAdmission => [.attribute]
  | .note => []

/-- Why the application of a checked operation raises. -/
inductive Refused (py : Python) (operation : PlanChangeOperation) (type : OperationType)
    (context : ApplicationContext) : PyError → Prop
  | unresolved (r : Reference) (e : PyError) (mem : r ∈ references operation type)
    (failed : resolveNode py r.payload context r.idKeys r.codeKeys = .error e) :
    Refused py operation type context e
  | codeExists (adds : type = .addNode ∨ type = .addPreparation) (code : String)
    (read : requiredStr py (payloadOf operation) "code" operation = .ok code)
    (found : (lookup context.nodesByCode code).isSome) :
    Refused py operation type context (.domain
      ("计划版本 " ++ context.revision.revisionId.text ++ " 中已存在节点编号：" ++ code))
  | notUpdatable (updates : type = .updateNodeField)
    (field : operation.targetField ∉ updatableNodeFields) :
    Refused py operation type context (.domain
      ("不允许通过计划变更操作更新 PlanNode." ++ operation.targetField ++ "。"))
  | namelessRequirement (adds : type = .addNode ∨ type = .addPreparation) :
    Refused py operation type context (.domain
      ("计划变更操作 " ++ operation.operationId ++ " 缺少必填字段：" ++ "name"))
  | noFreeId (model : ModelName) : Refused py operation type context (noFreeId model)
  | wrongValue (e : PyError) (mem : e ∈ valueErrors type) : Refused py operation type context e

section

variable {type : OperationType}

theorem refused_value {α : Type} {x : Except PyError α} {errors : List PyError}
    (h : Fails (· ∈ errors) x) (hsub : errors ⊆ valueErrors type) :
    Fails (Refused py operation type context) x :=
  h.mono fun e he => .wrongValue e (hsub he)

theorem refused_reference {r : Reference} (h : r ∈ references operation type) :
    Fails (Refused py operation type context)
      (resolveNode py r.payload context r.idKeys r.codeKeys) :=
  fun e he => .unresolved r e h he

theorem refused_id {n : Nat} {hn : 0 < n} {model : ModelName} {taken : Key n → Bool}
    {base : String} : Fails (Refused py operation type context) (uniqueModelId hn model taken base) :=
  fails_uniqueModelId (.noFreeId model)

/-- An operation whose new value is an object or empty has a payload. -/
theorem operationPayload_of_obj
    (h : truthy operation.newValue = true → ∃ es, operation.newValue = .obj es) :
    operationPayload operation = .ok (payloadOf operation) := by
  unfold operationPayload payloadOf
  by_cases htruthy : truthy operation.newValue = true
  · obtain ⟨es, hes⟩ := h htruthy
    rw [if_pos htruthy, hes]
  · rw [if_neg htruthy]
    cases hv : operation.newValue with
    | obj es =>
      cases es with
      | nil => rfl
      | cons e es =>
        rw [hv] at htruthy
        exact absurd rfl htruthy
    | scalar s => rfl
    | str s => rfl
    | arr xs => rfl

theorem strOr_text {text default : String} (h : text ≠ "") : strOr py (.str text) default = text := by
  have htruthy : truthy (.str text) = true := by
    simpa [truthy, Json.toPy, PyVal.truthy] using h
  rw [strOr, if_pos htruthy]
  rfl

theorem lacksKey_text {payload : List (String × Json)} {key text : String}
    (hkey : getKey payload key = .str text) (hne : text ≠ "") (hstrip : strip text = text) :
    lacksKey py payload key = false := by
  rw [lacksKey, hkey, strOr_text hne, hstrip]
  exact decide_eq_false hne

/-- A key that is not missing is read. -/
theorem requiredStr_of_present (operation : PlanChangeOperation) {key : String}
    (h : lacksKey py payload key = false) :
    ∃ s, requiredStr py payload key operation = .ok s := by
  unfold requiredStr
  unfold lacksKey at h
  rw [if_neg (by simpa using h)]
  exact ⟨_, rfl⟩

theorem fails_requiredStr {key : String}
    (h : E (.domain ("计划变更操作 " ++ operation.operationId ++ " 缺少必填字段：" ++ key))) :
    Fails E (requiredStr py payload key operation) := by
  unfold requiredStr
  exact fails_ite (fun _ => fails_error h) fun _ => fails_ok

/-- The shared part of the requirements that operations add. -/
theorem raises_addRequirement {node : LiveNode} {ordinal : Option Nat}
    {context₁ : ApplicationContext}
    (hname : Fails (Refused py operation type context) (requiredStr py payload "name" operation))
    (hsub : (.type :: .data :: decimalErrors) ⊆ valueErrors type) :
    Raises (Refused py operation type context)
      (addRequirement py operation payload node ordinal context₁) db := by
  have htype : [.type] ⊆ valueErrors type := fun e he => hsub (by simp at he; simp [he])
  have hdata : [.data] ⊆ valueErrors type := fun e he => hsub (by simp at he; simp [he])
  have hdecimal : decimalErrors ⊆ valueErrors type :=
    fun e he => hsub (List.mem_cons_of_mem _ (List.mem_cons_of_mem _ he))
  refine raises_compute_bind hname fun name _ => ?_
  refine raises_compute_bind (refused_value fails_slugOfCode htype) fun slug _ => ?_
  refine raises_get_bind ?_
  refine raises_compute_bind refused_id fun id hid => ?_
  refine raises_compute_bind (refused_value fails_decimalValue hdecimal) fun quantity _ => ?_
  refine raises_compute_bind (refused_value fails_decimalValue hdecimal) fun unitCost _ => ?_
  refine raises_compute_bind (refused_value fails_decimalValue hdecimal) fun total _ => ?_
  refine raises_compute_bind (refused_value fails_spread htype) fun metadata _ => ?_
  refine raises_compute_bind (refused_value fails_varChar hdata) fun requirementType _ => ?_
  refine raises_compute_bind (refused_value fails_varChar hdata) fun name _ => ?_
  refine raises_compute_bind (refused_value fails_decimalColumn hdecimal) fun quantity _ => ?_
  refine raises_compute_bind (refused_value fails_varChar hdata) fun unit _ => ?_
  refine raises_compute_bind (refused_value fails_decimalColumn hdecimal) fun unitCost _ => ?_
  refine raises_compute_bind (refused_value fails_decimalColumn hdecimal) fun total _ => ?_
  exact (raises_createRequirement hid).bind_pure

theorem raises_applyAddRequirement
    (hvalid : validateOperationPayload py operation .addRequirement (payloadOf operation) = [])
    (hpayload : operationPayload operation = .ok (payloadOf operation)) :
    Raises (Refused py operation .addRequirement context)
      (applyAddRequirement py operation context) db := by
  refine raises_compute_of_ok hpayload ?_
  refine raises_compute_bind (refused_reference (r := ⟨payloadOf operation, _, _⟩) (by
    simp [references])) fun node _ => ?_
  have hname : lacksKey py (payloadOf operation) "name" = false := by
    have hkeys := (List.append_eq_nil_iff.1 hvalid).2
    simpa [requirePayloadKeys] using hkeys
  obtain ⟨name, hread⟩ := requiredStr_of_present operation hname
  exact raises_addRequirement (hread ▸ fails_ok) (by decide)

theorem raises_applyAddCapacityImpact
    (hpayload : operationPayload operation = .ok (payloadOf operation)) :
    Raises (Refused py operation .addCapacityImpact context)
      (applyAddCapacityImpact py operation context) db := by
  refine raises_compute_of_ok hpayload ?_
  refine raises_compute_bind (refused_reference (r := ⟨payloadOf operation, _, _⟩) (by
    simp [references])) fun node _ => ?_
  refine raises_compute_bind (refused_value fails_slugOfCode (by decide)) fun slug _ => ?_
  refine raises_get_bind ?_
  refine raises_compute_bind refused_id fun id hid => ?_
  refine raises_compute_bind (refused_value fails_decimalValue (by decide)) fun delta _ => ?_
  refine raises_compute_bind (refused_value fails_spread (by decide)) fun metadata _ => ?_
  refine raises_compute_bind (refused_value fails_varChar (by decide)) fun impactType _ => ?_
  refine raises_compute_bind (refused_value fails_decimalColumn (by decide)) fun delta _ => ?_
  refine raises_compute_bind (refused_value fails_varChar (by decide)) fun unit _ => ?_
  exact (raises_createImpact hid).bind_pure

theorem raises_applyAddDependency
    (hpayload : operationPayload operation = .ok (payloadOf operation)) :
    Raises (Refused py operation .addDependency context)
      (applyAddDependency py operation context) db := by
  refine raises_compute_of_ok hpayload ?_
  refine raises_compute_bind (refused_reference (r := ⟨payloadOf operation, _, _⟩) (by
    simp [references])) fun node _ => ?_
  refine raises_compute_bind (refused_reference (r := ⟨payloadOf operation, _, _⟩) (by
    simp [references])) fun dependsOn _ => ?_
  refine raises_compute_bind (refused_value fails_slugOfCode (by decide)) fun slug _ => ?_
  refine raises_compute_bind (refused_value fails_slugOfCode (by decide)) fun slug _ => ?_
  refine raises_get_bind ?_
  refine raises_compute_bind refused_id fun id hid => ?_
  refine raises_compute_bind (refused_value fails_spread (by decide)) fun metadata _ => ?_
  refine raises_compute_bind (refused_value fails_varChar (by decide)) fun dependencyType _ => ?_
  exact (raises_createDependency hid).bind_pure

theorem refused_parent {r : Reference} (h : r ∈ references operation type)
    (hids : r.idKeys = ["parent_id"]) (hcodes : r.codeKeys = ["parent_code"]) :
    Fails (Refused py operation type context) (resolveOptionalParent py r.payload context) := by
  refine fails_ite (fun _ => fails_ok) fun _ => Fails.map ?_
  rw [← hids, ← hcodes]
  exact refused_reference h

theorem raises_addNestedRequirement {node : LiveNode} {context₁ : ApplicationContext}
    {item : Json × Nat} (hadds : type = .addNode ∨ type = .addPreparation)
    (hpayload : operationPayload operation = .ok (payloadOf operation)) :
    Raises (Refused py operation type context)
      (addNestedRequirement py operation node context₁ item) db := by
  have hvalues : valueErrors type = valueErrors .addNode := by
    rcases hadds with rfl | rfl <;> rfl
  have hname : ∀ payload : List (String × Json),
      Fails (Refused py operation type context) (requiredStr py payload "name" operation) :=
    fun payload => fails_requiredStr (.namelessRequirement hadds)
  have hattribute : Refused py operation type context .attribute :=
    .wrongValue _ (hvalues ▸ by decide)
  obtain ⟨v, i⟩ := item
  unfold addNestedRequirement
  cases v with
  | scalar s =>
    cases s with
    | none =>
      refine raises_compute_bind (hpayload ▸ fails_ok) fun payload _ => ?_
      exact raises_addRequirement (hname _) (hvalues ▸ by decide)
    | bool b => exact raises_throw hattribute
    | int n => exact raises_throw hattribute
    | float f => exact raises_throw hattribute
  | str s => exact raises_throw hattribute
  | arr xs => exact raises_throw hattribute
  | obj es => exact raises_addRequirement (hname _) (hvalues ▸ by decide)

theorem raises_applyAddNode (hadds : type = .addNode ∨ type = .addPreparation)
    (hvalid : requirePayloadKeys py operation (payloadOf operation) ["code", "title"] = [])
    (hpayload : operationPayload operation = .ok (payloadOf operation)) :
    Raises (Refused py operation type context) (applyAddNode py operation context) db := by
  have hvalues : valueErrors type = valueErrors .addNode := by
    rcases hadds with rfl | rfl <;> rfl
  have hreferences : references operation type = references operation .addNode := by
    rcases hadds with rfl | rfl <;> rfl
  have hpresent : lacksKey py (payloadOf operation) "code" = false ∧
      lacksKey py (payloadOf operation) "title" = false := by
    simpa [requirePayloadKeys] using hvalid
  obtain ⟨code, hcode⟩ := requiredStr_of_present operation hpresent.1
  obtain ⟨title, htitle⟩ := requiredStr_of_present operation hpresent.2
  have hint : ∀ {α : Type} {x : Except PyError α}, Fails (· ∈ intErrors) x →
      Fails (Refused py operation type context) x :=
    fun h => refused_value h (hvalues ▸ by decide)
  have hdecimal : ∀ {α : Type} {x : Except PyError α}, Fails (· ∈ decimalErrors) x →
      Fails (Refused py operation type context) x :=
    fun h => refused_value h (hvalues ▸ by decide)
  have hdata : ∀ {α : Type} {x : Except PyError α}, Fails (· ∈ [PyError.data]) x →
      Fails (Refused py operation type context) x :=
    fun h => refused_value h (hvalues ▸ by decide)
  refine raises_compute_of_ok hpayload ?_
  refine raises_compute_bind (hcode ▸ fails_ok) fun code hcode => ?_
  refine raises_ite (fun hfound => raises_throw_bind (.codeExists hadds code hcode hfound))
    fun _ => ?_
  beta_reduce
  refine raises_compute_bind (hdecimal fails_decimalValue) fun expectedCost _ => ?_
  refine raises_compute_bind (refused_value fails_updated (hvalues ▸ by decide)) fun metadata _ => ?_
  refine raises_get_bind ?_
  refine raises_compute_bind refused_id fun nodeId hid => ?_
  refine raises_compute_bind (refused_parent (r := ⟨payloadOf operation, _, _⟩)
    (hreferences ▸ List.mem_cons_self) rfl rfl) fun parent _ => ?_
  refine raises_compute_bind (hint fails_intValue) fun sequence _ => ?_
  refine raises_compute_bind (htitle ▸ fails_ok) fun title _ => ?_
  refine raises_compute_bind (hint fails_optionalIntValue) fun startDay _ => ?_
  refine raises_compute_bind (hint fails_intValue) fun duration _ => ?_
  refine raises_compute_bind (hint fails_optionalIntValue) fun endDay _ => ?_
  refine raises_compute_bind (hdecimal fails_decimalValue) fun low _ => ?_
  refine raises_compute_bind (hdecimal fails_decimalValue) fun high _ => ?_
  refine raises_compute_bind (hint fails_intValue) fun peopleMin _ => ?_
  refine raises_compute_bind (hint fails_intValue) fun peopleMax _ => ?_
  refine raises_compute_bind (hdecimal fails_decimalValue) fun personDays _ => ?_
  refine raises_compute_bind (hdata fails_positiveInt) fun sequence _ => ?_
  refine raises_compute_bind (hdata fails_varChar) fun storedCode _ => ?_
  refine raises_compute_bind (hdata fails_varChar) fun title _ => ?_
  refine raises_compute_bind (hdata fails_varChar) fun nodeType _ => ?_
  refine raises_compute_bind (hdata fails_varChar) fun status _ => ?_
  refine raises_compute_bind (hdata fails_storeOptional) fun startDay _ => ?_
  refine raises_compute_bind (hdata fails_positiveInt) fun duration _ => ?_
  refine raises_compute_bind (hdata fails_storeOptional) fun endDay _ => ?_
  refine raises_compute_bind (hdecimal fails_decimalColumn) fun low _ => ?_
  refine raises_compute_bind (hdecimal fails_decimalColumn) fun expected _ => ?_
  refine raises_compute_bind (hdecimal fails_decimalColumn) fun high _ => ?_
  refine raises_compute_bind (hdata fails_positiveInt) fun peopleMin _ => ?_
  refine raises_compute_bind (hdata fails_positiveInt) fun peopleMax _ => ?_
  refine raises_compute_bind (hdecimal fails_decimalColumn) fun personDays _ => ?_
  refine (raises_createNode hid).bind fun _ _ _ => ?_
  exact (raises_foldlM fun item _ _ _ => raises_addNestedRequirement hadds hpayload).bind_pure

/-! ## Field updates -/

theorem fails_storeChar {n : Nat} {v : Json} :
    Fails (· ∈ [PyError.integrity, .data]) (storeChar py v : Except PyError (VarChar n)) :=
  (fails_storeText.mono (by simp)).bind fun _ _ => fails_varChar.mono (by simp)

theorem fails_storeInt {v : Json} : Fails (· ∈ .integrity :: .data :: intErrors) (storeInt py v) := by
  refine (fails_optionalIntValue.mono fun e he => by simp [he]).bind fun i _ => ?_
  cases i with
  | none => exact fails_error (by decide)
  | some i => exact fails_positiveInt.mono fun e he => by simp_all

theorem fails_storeOptionalInt {v : Json} :
    Fails (· ∈ .data :: intErrors) (storeOptionalInt py v) :=
  (fails_optionalIntValue.mono fun e he => List.mem_cons_of_mem _ he).bind fun _ _ =>
    fails_storeOptional.mono fun e he => by simp_all

theorem fails_storeDecimal {digits places : Nat} {v : Json} :
    Fails (· ∈ decimalErrors) (storeDecimal py v : Except PyError (DecimalColumn digits places)) :=
  fails_decimalValue.bind fun _ _ => fails_decimalColumn

/-- The assignment to a field that can be updated. -/
theorem fails_fieldAssignment {field : String} {value : Json} (hfield : field ∈ updatableNodeFields)
    (hparent : Fails E (resolveOptionalParent py [("parent_id", value)] context))
    (hvalues : ∀ e ∈ valueErrors .updateNodeField, E e) :
    Fails E (fieldAssignment py context field value) := by
  have hvalue : ∀ {α : Type} {x : Except PyError α} {errors : List PyError},
      Fails (· ∈ errors) x → errors ⊆ valueErrors .updateNodeField → Fails E x :=
    fun h hsub => h.mono fun e he => hvalues e (hsub he)
  have hchar : ∀ n, Fails E (storeChar py value : Except PyError (VarChar n)) :=
    fun n => hvalue fails_storeChar (by decide)
  have htext : Fails E (storeText py value) := hvalue fails_storeText (by decide)
  have hint : Fails E (storeInt py value) := hvalue fails_storeInt (by decide)
  have hoptional : Fails E (storeOptionalInt py value) :=
    hvalue fails_storeOptionalInt (by decide)
  have hdecimal : ∀ digits places,
      Fails E (storeDecimal py value : Except PyError (DecimalColumn digits places)) :=
    fun _ _ => hvalue fails_storeDecimal (by decide)
  unfold fieldAssignment
  split
  · exact hparent.bind fun _ _ => fails_pure
  · exact hparent.bind fun _ _ => fails_pure
  · exact hint.bind fun _ _ => fails_pure
  · exact (hchar 64).bind fun _ _ => fails_pure
  · exact (hchar 255).bind fun _ _ => fails_pure
  · exact (hchar 32).bind fun _ _ => fails_pure
  · exact (hchar 32).bind fun _ _ => fails_pure
  · exact fails_pure
  · exact fails_pure
  · exact fails_pure
  · exact htext.bind fun _ _ => fails_pure
  · exact hoptional.bind fun _ _ => fails_pure
  · exact hint.bind fun _ _ => fails_pure
  · exact hoptional.bind fun _ _ => fails_pure
  · exact (hdecimal 14 2).bind fun _ _ => fails_pure
  · exact (hdecimal 14 2).bind fun _ _ => fails_pure
  · exact (hdecimal 14 2).bind fun _ _ => fails_pure
  · exact hint.bind fun _ _ => fails_pure
  · exact hint.bind fun _ _ => fails_pure
  · exact (hdecimal 10 2).bind fun _ _ => fails_pure
  · exact fails_pure
  · exact fails_pure
  · exact fails_pure
  · exact htext.bind fun _ _ => fails_pure
  · exact fails_pure
  · simp_all [updatableNodeFields]

theorem raises_applyUpdateNodeField
    (hpayload : operationPayload operation = .ok (payloadOf operation)) :
    Raises (Refused py operation .updateNodeField context)
      (applyUpdateNodeField py operation context) db := by
  refine raises_ite (fun hfield => raises_throw_bind (.notUpdatable rfl (by simpa using hfield)))
    fun hfield => ?_
  refine raises_compute_of_ok hpayload ?_
  refine raises_compute_bind (refused_reference (r := ⟨merged _ (payloadOf operation), _, _⟩)
    List.mem_cons_self) fun node _ => ?_
  refine raises_compute_bind (fails_fieldAssignment (by simpa using hfield)
    (refused_parent (r := ⟨[("parent_id", _)], _, _⟩)
      (List.mem_cons_of_mem _ List.mem_cons_self) rfl rfl)
    fun e he => .wrongValue e he) fun assignment _ => ?_
  exact raises_saveNode.bind_pure

theorem raises_applyRevisionMetadataNote {key : String} :
    Raises (Refused py operation .reduceAdmission context)
      (applyRevisionMetadataNote operation key context) db := by
  refine raises_compute_bind (refused_value fails_appendUnder (by decide)) fun metadata _ => ?_
  exact raises_saveRevisionMetadata.bind_pure

/-! ## Checked operations -/

/-- The payload of an operation without errors of its own. -/
theorem payload_of_valid (htype : OperationType.ofValue? operation.operationType = some type)
    (hnote : type ≠ .note) (hvalid : validateOperation py operation = []) :
    operationPayload operation = .ok (payloadOf operation) ∧
      validateOperationPayload py operation type (payloadOf operation) = [] := by
  have hvalid : (if truthy operation.newValue then
      match operation.newValue with
      | .obj payload => validateOperationPayload py operation type payload
      | _ => ["计划变更操作 " ++ operation.operationId ++ " 的 new_value 必须是对象。"]
      else validateOperationPayload py operation type []) = [] := by
    unfold validateOperation at hvalid
    rw [htype] at hvalid
    cases type <;> first | exact hvalid | exact absurd rfl hnote
  have hobj : truthy operation.newValue = true → ∃ es, operation.newValue = .obj es := by
    intro htruthy
    rw [if_pos htruthy] at hvalid
    cases hv : operation.newValue with
    | obj es => exact ⟨es, rfl⟩
    | scalar s => simp [hv] at hvalid
    | str s => simp [hv] at hvalid
    | arr xs => simp [hv] at hvalid
  refine ⟨operationPayload_of_obj hobj, ?_⟩
  by_cases htruthy : truthy operation.newValue = true
  · obtain ⟨es, hes⟩ := hobj htruthy
    rw [if_pos htruthy, hes] at hvalid
    rw [payloadOf, hes]
    exact hvalid
  · rw [if_neg htruthy] at hvalid
    have hempty : payloadOf operation = [] := by
      unfold payloadOf
      cases hv : operation.newValue with
      | obj es =>
        cases es with
        | nil => rfl
        | cons e es =>
          rw [hv] at htruthy
          exact absurd rfl htruthy
      | scalar s => rfl
      | str s => rfl
      | arr xs => rfl
    rw [hempty]
    exact hvalid

/-- **Checked operations.** What a checked operation raises is a refusal of its type. -/
theorem raises_applyOperation (hvalid : validateOperation py operation = []) {e : PyError}
    {db' : PlanDb} (h : applyOperation py context operation db = .error e db') :
    ∃ type, OperationType.ofValue? operation.operationType = some type ∧
      Refused py operation type context e := by
  cases htype : OperationType.ofValue? operation.operationType with
  | none =>
    -- an operation of an unknown type passes the check only when it is not required
    unfold validateOperation at hvalid
    rw [htype] at hvalid
    unfold applyOperation at h
    rw [htype] at h
    by_cases hrequired : operation.isRequired = true
    · simp only [if_pos hrequired] at hvalid
      cases hvalid
    · simp only [if_neg hrequired] at h
      cases h
  | some type =>
    refine ⟨type, rfl, ?_⟩
    unfold applyOperation at h
    rw [htype] at h
    by_cases hnote : type = .note
    · subst hnote
      cases h
    · obtain ⟨hpayload, hkeys⟩ := payload_of_valid htype hnote hvalid
      cases type with
      | addNode =>
        simp only [validateOperationPayload] at hkeys
        exact raises_applyAddNode (.inl rfl) hkeys hpayload e db' h
      | updateNodeField => exact raises_applyUpdateNodeField hpayload e db' h
      | addDependency => exact raises_applyAddDependency hpayload e db' h
      | addRequirement => exact raises_applyAddRequirement hkeys hpayload e db' h
      | addCapacityImpact => exact raises_applyAddCapacityImpact hpayload e db' h
      | reduceAdmission => exact raises_applyRevisionMetadataNote e db' h
      | addPreparation =>
        simp only [validateOperationPayload] at hkeys
        exact raises_applyAddNode (.inr rfl) hkeys hpayload e db' h
      | note => exact absurd rfl hnote

end

/-! ## The copy -/

/-- Why the contents of a revision are not copied. -/
inductive NotCopied (nodes : List PlanNode) (dependencies : List PlanDependency) : PyError → Prop
  | noFreeId (model : ModelName) : NotCopied nodes dependencies (noFreeId model)
  | foreignParent (n : PlanNode) (p : NodeId) (mem : n ∈ nodes) (parent : n.parent = some p)
    (outside : ∀ m ∈ nodes, m.nodeId ≠ p) : NotCopied nodes dependencies (.domain
      ("源计划节点 " ++ n.nodeId.text ++ " 的父节点 " ++ p.text ++ " 不在同一版本中。"))
  | foreignEnd (d : PlanDependency) (mem : d ∈ dependencies)
    (outside : (∀ m ∈ nodes, m.nodeId ≠ d.node) ∨ ∀ m ∈ nodes, m.nodeId ≠ d.dependsOn) :
    NotCopied nodes dependencies .key
  | wrongMetadata : NotCopied nodes dependencies .type

section

variable {source : PlanRevision} {nodes : List PlanNode} {dependencies : List PlanDependency}

theorem notCopied_id {n : Nat} {hn : 0 < n} {model : ModelName} {taken : Key n → Bool}
    {base : String} : Fails (NotCopied nodes dependencies) (uniqueModelId hn model taken base) :=
  fails_uniqueModelId (.noFreeId model)

theorem notCopied_spread {v : Json} : Fails (NotCopied nodes dependencies) (spread v) :=
  fails_spread.mono fun e he => by
    obtain rfl := List.mem_singleton.1 he
    exact .wrongMetadata

theorem raises_copyNode {sourceNode : PlanNode} :
    Raises (NotCopied nodes dependencies) (copyNode source context sourceNode) db := by
  refine raises_get_bind ?_
  refine raises_compute_bind notCopied_id fun id hid => ?_
  refine raises_compute_bind notCopied_spread fun metadata _ => ?_
  exact (raises_createNode hid).bind_pure

/-- The map by source id knows the nodes of the source. -/
def Remembers (nodes : List PlanNode) (context : ApplicationContext) : Prop :=
  ∀ n ∈ nodes, ∃ q, lookup context.nodesBySourceId n.nodeId.text = some q

theorem fails_copyOf {id : NodeId} {n : PlanNode} (h : Remembers nodes context) (hn : n ∈ nodes)
    (hid : n.nodeId = id) : Fails E (copyOf context id) := by
  obtain ⟨q, hq⟩ := h n hn
  rw [copyOf, ← hid, hq]
  exact fails_ok

theorem raises_copyParent {n : PlanNode} (h : Remembers nodes context) (hn : n ∈ nodes) :
    Raises (NotCopied nodes dependencies) (copyParent context n) db := by
  unfold copyParent
  cases hparent : n.parent with
  | none => exact raises_pure
  | some p =>
    refine raises_compute_bind (fails_copyOf h hn rfl) fun nodeId _ => ?_
    cases hlookup : lookup context.nodesBySourceId p.text with
    | none =>
      refine raises_throw (.foreignParent n p hn hparent fun m hm hid => ?_)
      obtain ⟨q, hq⟩ := h m hm
      rw [hid, hlookup] at hq
      cases hq
    | some parent => exact raises_saveNode

theorem raises_copyRequirement {r : PlanRequirement} (h : Remembers nodes context)
    (hr : r.node ∈ nodes.map PlanNode.nodeId) :
    Raises (NotCopied nodes dependencies) (copyRequirement context r) db := by
  obtain ⟨n, hn, hid⟩ := List.mem_map.1 hr
  refine raises_compute_bind (fails_copyOf h hn hid) fun node _ => ?_
  refine raises_get_bind ?_
  refine raises_compute_bind notCopied_id fun id hid => ?_
  refine raises_compute_bind notCopied_spread fun metadata _ => ?_
  exact raises_createRequirement hid

theorem raises_copyImpact {i : PlanCapacityImpact} (h : Remembers nodes context)
    (hi : i.node ∈ nodes.map PlanNode.nodeId) :
    Raises (NotCopied nodes dependencies) (copyImpact context i) db := by
  obtain ⟨n, hn, hid⟩ := List.mem_map.1 hi
  refine raises_compute_bind (fails_copyOf h hn hid) fun node _ => ?_
  refine raises_get_bind ?_
  refine raises_compute_bind notCopied_id fun id hid => ?_
  refine raises_compute_bind notCopied_spread fun metadata _ => ?_
  exact raises_createImpact hid

/-- An end of a dependency is known, or it lies outside the source. -/
theorem fails_copyOf_end {id : NodeId} (h : Remembers nodes context)
    (hE : (∀ m ∈ nodes, m.nodeId ≠ id) → E .key) : Fails E (copyOf context id) := by
  by_cases hid : ∃ m ∈ nodes, m.nodeId = id
  · obtain ⟨m, hm, hid⟩ := hid
    exact fails_copyOf h hm hid
  · unfold copyOf
    split
    · exact fails_ok
    · exact fails_error (hE fun m hm heq => hid ⟨m, hm, heq⟩)

theorem raises_copyDependency {d : PlanDependency} (h : Remembers nodes context)
    (hd : d ∈ dependencies) :
    Raises (NotCopied nodes dependencies) (copyDependency context d) db := by
  refine raises_get_bind ?_
  refine raises_compute_bind notCopied_id fun id hid => ?_
  refine raises_compute_bind (fails_copyOf_end h fun hout => .foreignEnd d hd (.inl hout))
    fun node _ => ?_
  refine raises_compute_bind (fails_copyOf_end h fun hout => .foreignEnd d hd (.inr hout))
    fun dependsOn _ => ?_
  refine raises_compute_bind notCopied_spread fun metadata _ => ?_
  exact raises_createDependency hid

theorem raises_forEach {α : Type} {xs : List α} {f : α → PlanM Unit}
    (h : ∀ x ∈ xs, ∀ db, Raises E (f x) db) : Raises E (forEach xs f) db :=
  raises_foldlM fun x hx _ db => h x hx db

theorem forEach_keeps {α γ : Type} {xs : List α} {f : α → PlanM Unit} {g : PlanDb → γ} {db' : PlanDb}
    (hstep : ∀ x ∈ xs, ∀ db db', f x db = .ok () db' → g db' = g db)
    (h : forEach xs f db = .ok () db') : g db' = g db :=
  foldlM_rel (R := fun p q => g q.2 = g p.2) (fun _ => rfl) (fun _ _ _ hpq hqr => hqr.trans hpq)
    (fun x hx _ db _ db' hf => hstep x hx db db' hf) h

theorem raises_copyRevisionContents (hempty : context.nodesBySourceId = []) :
    Raises (NotCopied (revisionNodes db source.revisionId)
      (revisionDependencies db source.revisionId)) (copyRevisionContents source context) db := by
  refine raises_get_bind ?_
  refine (raises_foldlM fun n _ _ _ => raises_copyNode).bind fun context₁ db₁ hnodes => ?_
  obtain ⟨copies, table, hcopies, rfl, -, rfl⟩ := copyNodes_ok hnodes
  have hremembers : Remembers (revisionNodes db source.revisionId)
      (rememberCopies context ((revisionNodes db source.revisionId).zip copies)) := by
    intro n hn
    have hids := lookup_copies (revisionNodes_nodup db source.revisionId) hcopies hempty
    obtain ⟨c, -, hc⟩ := forall₂_right hids.flip hn
    exact ⟨c.nodeId, hc⟩
  refine (raises_forEach fun n hn _ => raises_copyParent hremembers hn).bind
    fun _ db₂ hparents => ?_
  refine raises_get_bind ?_
  refine (raises_forEach fun r hr _ => raises_copyRequirement hremembers ?_).bind
    fun _ db₃ hrequirements => ?_
  · have hkept := (List.mem_filter.1 ((orderBy_perm _ _ _).mem_iff.1 hr)).2
    simpa using hkept
  refine raises_get_bind ?_
  refine (raises_forEach fun i hi _ => raises_copyImpact hremembers ?_).bind
    fun _ db₄ himpacts => ?_
  · have hkept := (List.mem_filter.1 ((orderBy_perm _ _ _).mem_iff.1 hi)).2
    simpa using hkept
  refine raises_get_bind ?_
  refine (raises_forEach fun d hd _ => raises_copyDependency hremembers ?_).bind_pure
  -- the loops before the last one leave the dependencies as they are
  have hparentsKept := forEach_keeps (g := PlanDb.dependencies) (fun n _ db db' hn => by
    rcases copyParent_ok hn with ⟨-, rfl⟩ | ⟨p, id, parent, -, -, -, rfl⟩ <;> rfl) hparents
  have hrequirementsKept := forEach_keeps (g := PlanDb.dependencies) (fun r _ db db' hr => by
    obtain ⟨copy, -, -, hframe⟩ := copyRequirement_ok hr
    rw [hframe]) hrequirements
  have himpactsKept := forEach_keeps (g := PlanDb.dependencies) (fun i _ db db' hi => by
    obtain ⟨copy, -, -, hframe⟩ := copyImpact_ok hi
    rw [hframe]) himpacts
  rw [revisionDependencies, himpactsKept, hrequirementsKept, hparentsKept] at hd
  exact hd

end

/-! ## The call -/

/-- Why a checked change set is not applied. -/
inductive NotApplied (py : Python) (db : PlanDb) (call : ApplyCall) (locked : PlanChangeSet)
    (source : PlanRevision) : PyError → Prop
  | rejected (status : locked.status = .rejected) : NotApplied py db call locked source
      (.domain ("计划变更集 " ++ locked.changeSetId ++ " 已拒绝，不能应用。"))
  | withoutRevision (status : locked.status = .applied) (applied : locked.appliedRevision = none) :
    NotApplied py db call locked source (.domain
      ("计划变更集 " ++ locked.changeSetId ++ " 已标记为 applied，但缺少 applied_revision。"))
  | noFreeCode (e : PyError) (failed : nextRevisionCode py db source = .error e) :
    NotApplied py db call locked source e
  | noFreeId : NotApplied py db call locked source (noFreeId PlanRevision.model)
  /-- The code or the title of the new revision is too long, or the metadata of the source is no
  object. -/
  | wrongRevision (e : PyError) (mem : e ∈ [PyError.type, .data]) :
    NotApplied py db call locked source e
  | notCopied (e : PyError) (copy : NotCopied (revisionNodes db source.revisionId)
      (revisionDependencies db source.revisionId) e) : NotApplied py db call locked source e
  | refused (done rest : List PlanChangeOperation) (operation : PlanChangeOperation)
    (type : OperationType) (e : PyError) (start copied applied after : PlanDb)
    (revision : PlanRevision) (context₁ context : ApplicationContext)
    (split : changeSetOperations db locked.changeSetId = done ++ operation :: rest)
    (copy : copyRevisionContents source (startContext call revision) start = .ok context₁ copied)
    (reached : done.foldlM (applyOperation py) context₁ copied = .ok context applied)
    (failed : applyOperation py context operation applied = .error e after)
    (hasType : OperationType.ofValue? operation.operationType = some type)
    (why : Refused py operation type context e) : NotApplied py db call locked source e
  | wrongMetadata (failed : spread locked.metadata = .error .type) :
    NotApplied py db call locked source .type

section

variable {call : ApplyCall} {locked : PlanChangeSet} {source : PlanRevision}

theorem fails_nextRevisionCode :
    Fails (NotApplied py db call locked source) (nextRevisionCode py db source) :=
  fun e he => .noFreeCode e he

theorem fails_newRevision {id : RevisionId} {code : String} :
    Fails (NotApplied py db call locked source) (newRevision locked source call id code) := by
  have htype : ∀ e ∈ [PyError.type], NotApplied py db call locked source e :=
    fun e he => .wrongRevision e (by simp_all)
  have hdata : ∀ e ∈ [PyError.data], NotApplied py db call locked source e :=
    fun e he => .wrongRevision e (by simp_all)
  refine (fails_spread.mono htype).bind fun metadata _ => ?_
  refine (fails_varChar.mono hdata).bind fun code _ => ?_
  exact (fails_varChar.mono hdata).bind fun title _ => fails_pure

/-- The code that is chosen is free. -/
theorem nextRevisionCode_free {code : String} (h : nextRevisionCode py db source = .ok code) :
    ∀ r ∈ db.revisions.rows, r.plan = source.plan → r.revisionCode.text ≠ code := by
  unfold nextRevisionCode at h
  split at h
  · rename_i found hfind
    obtain rfl := Except.ok.inj h
    intro r hr hplan hcode
    have hfree := List.find?_some hfind
    simp only [Bool.not_eq_eq_eq_not, Bool.not_true, List.any_eq_false, Bool.and_eq_true,
      decide_eq_true_eq, not_and] at hfree
    exact hfree r hr hplan hcode
  · cases h

/-- The new revision is entered: its id and its code are free. -/
theorem raises_createRevision {revision : PlanRevision} {code base : String}
    (hcode : nextRevisionCode py db source = .ok code)
    (hid : newRevisionId db base = .ok revision.revisionId)
    (hnew : newRevision locked source call revision.revisionId code = .ok revision) :
    Raises E (createRevision revision) db := by
  obtain ⟨-, hrevisionCode, hplan, -⟩ := newRevision_ok hnew
  refine raises_update ((fails_insert (newRevisionId_fresh hid) fun a ha r hr hra => ?_).bind
    fun _ _ => fails_pure)
  obtain rfl := Option.some.inj ha
  simp only [Option.some.injEq, Prod.mk.injEq] at hra
  refine nextRevisionCode_free hcode r hr (hra.1.trans hplan) ?_
  rw [hra.2, hrevisionCode]

/-- Metadata that holds a key is an object. -/
theorem fails_assigned_of_key {metadata value v : Json} {key other : String}
    (h : metadataKey metadata other = some v) : Fails E (assigned metadata key value) := by
  cases metadata with
  | obj es =>
    refine Fails.map (fails_ite (fun _ => ?_) fun _ => ?_)
    · exact fails_ok
    · exact fails_ok
  | scalar s => cases h
  | str s => cases h
  | arr xs => cases h

/-- **Fresh applications.** What an application raises is raised by the numbering of the new revision,
by the copy, by an operation or for the metadata of the change set. -/
theorem raises_applyFresh_of (hsource : db.revisions.get? locked.planRevision = some source)
    (hvalid : validatePlanChangeSetOperations py db locked.changeSetId = [])
    (hnext : Fails E (nextRevisionCode py db source)) (hid : E (noFreeId PlanRevision.model))
    (hnew : ∀ id code, Fails E (newRevision locked source call id code))
    (hcopy : ∀ revision revisions, Raises E (copyRevisionContents source (startContext call revision))
      { db with revisions := revisions })
    (hoperations : ∀ revision revisions context₁ copied,
      copyRevisionContents source (startContext call revision) { db with revisions := revisions } =
        .ok context₁ copied →
      Raises E ((changeSetOperations db locked.changeSetId).foldlM (applyOperation py) context₁)
        copied)
    (hmetadata : ∀ account, Fails E (assigned locked.metadata "application_result" account)) :
    Raises E (applyFresh py call locked) db := by
  refine raises_get_bind ?_
  refine raises_ite (fun h => absurd hvalid h) fun _ => ?_
  have hget : getRevision locked.planRevision db = .ok source db := by
    rw [getRevision, run_get_bind, hsource]
    rfl
  refine (raises_of_ok hget).bind fun source' db₁ h => ?_
  obtain ⟨rfl, rfl⟩ : source = source' ∧ db = db₁ := by
    rw [hget] at h
    simpa using h
  refine raises_get_bind ?_
  refine raises_compute_bind hnext fun code hcode => ?_
  refine raises_compute_bind (fails_uniqueModelId hid) fun id hid => ?_
  refine raises_compute_bind (hnew _ _) fun revision hnew => ?_
  obtain ⟨rfl, hrevisionCode, -, -, -, metadata₀, -, hmeta⟩ := newRevision_ok hnew
  refine (raises_createRevision hcode hid hnew).bind fun _ start hcreate => ?_
  obtain ⟨revisions, hins, hcreate⟩ := bind_eq_ok.1 (run_update_ok.1 hcreate)
  obtain rfl := pure_eq_ok.1 hcreate
  have hstart : ({ revision := revision, revisionSlug := slugify code '-', appliedAt := call.now } :
      ApplicationContext) = startContext call revision := by
    rw [startContext, hrevisionCode]
  rw [hstart]
  refine (hcopy revision revisions).bind fun context₁ copied hcopied => ?_
  refine raises_get_bind ?_
  obtain ⟨copies, hframe⟩ := copyRevisionContents_ok rfl hcopied
  have hsame : changeSetOperations copied locked.changeSetId =
      changeSetOperations db locked.changeSetId := by
    rw [hframe.frame]
    rfl
  rw [hsame]
  refine (hoperations revision revisions context₁ copied hcopied).bind fun context₂ applied hops => ?_
  have hkey : metadataKey context₂.revision.metadata "applied_change_set_id" =
      some (.str locked.changeSetId) := by
    rw [(applyOperations_frame hops).metadata _ (by decide), hframe.remembered,
      (rememberCopies_frame _).1]
    show metadataKey revision.metadata _ = _
    rw [hmeta]
    simp [metadataKey, merged, get?_upsert]
  refine raises_compute_bind (fails_assigned_of_key hkey) fun revisionMetadata _ => ?_
  refine raises_saveRevisionMetadata.bind fun _ saved _ => ?_
  have hlast : ∀ (db₁ : PlanDb) (account : Json) (f : Json → PlanDb → PlanDb), Raises E (do
        let metadata ← compute (assigned locked.metadata "application_result" account)
        update fun db => return f metadata db
        return revision.revisionId) db₁ := fun db₁ account f =>
    raises_compute_bind (hmetadata account) fun metadata _ => Raises.bind_pure (raises_update fails_pure)
  refine raises_ite (fun _ => ?_) fun _ => hlast _ _ _
  refine Raises.bind (raises_of_ok (publishPlanRevision_eq _ _ _)) fun _ _ _ => hlast _ _ _

theorem raises_applyFresh (hsource : db.revisions.get? locked.planRevision = some source)
    (hvalid : validatePlanChangeSetOperations py db locked.changeSetId = []) :
    Raises (NotApplied py db call locked source) (applyFresh py call locked) db := by
  refine raises_applyFresh_of hsource hvalid fails_nextRevisionCode .noFreeId
    (fun _ _ => fails_newRevision) (fun revision revisions =>
      (raises_copyRevisionContents rfl).mono fun e he => .notCopied e he)
    (fun revision revisions context₁ copied hcopy => ?_) fun account => Fails.map fun e he => ?_
  · -- what the operations raise, one of them raises, and each of them is checked
    intro e after herror
    obtain ⟨done, operation, rest, context, applied, hsplit, hdone, hfailed⟩ := foldlM_error herror
    have hchecked : validateOperation py operation = [] := by
      have hmem : operation ∈ changeSetOperations db locked.changeSetId := by
        rw [hsplit]
        exact List.mem_append_right _ List.mem_cons_self
      exact List.flatMap_eq_nil_iff.1 hvalid operation hmem
    obtain ⟨type, htype, hwhy⟩ := raises_applyOperation hchecked hfailed
    exact .refused done rest operation type e _ copied applied after revision context₁ context
      hsplit hcopy hdone hfailed htype hwhy
  · obtain rfl := List.mem_singleton.1 (fails_spread e he)
    exact .wrongMetadata he

/-- **Checked calls.** A call on a change set without errors that raises has changed nothing, and
it was refused for one of the reasons. -/
theorem applyPlanChangeSet_checked (hlocked : db.changeSets.get? call.changeSetId = some locked)
    (hsource : db.revisions.get? locked.planRevision = some source)
    (happlied : ∀ r, locked.appliedRevision = some r → (db.revisions.get? r).isSome)
    (hvalid : validatePlanChangeSetOperations py db locked.changeSetId = []) {e : PyError}
    {db' : PlanDb} (h : applyPlanChangeSet py call db = .error e db') :
    db' = db ∧ NotApplied py db call locked source e := by
  refine ⟨applyPlanChangeSet_error h, ?_⟩
  obtain ⟨-, after, h⟩ := run_atomic_error.1 h
  rw [run_get_bind] at h
  simp only [hlocked] at h
  cases hstatus : locked.status with
  | applied =>
    simp only [hstatus] at h
    cases hrevision : locked.appliedRevision with
    | none =>
      simp only [hrevision] at h
      cases h
      exact .withoutRevision hstatus hrevision
    | some id =>
      simp only [hrevision] at h
      obtain ⟨existing, hexisting⟩ := Option.isSome_iff_exists.1 (happlied id hrevision)
      have hget : getRevision id db = .ok existing db := by
        rw [getRevision, run_get_bind, hexisting]
        rfl
      rw [run_bind_of_ok hget] at h
      by_cases hpublish : call.publish = true
      · rw [if_pos hpublish, run_bind_of_ok (publishPlanRevision_eq _ _ _)] at h
        cases h
      · rw [if_neg hpublish] at h
        cases h
  | rejected =>
    simp only [hstatus] at h
    cases h
    exact .rejected hstatus
  | draft =>
    simp only [hstatus] at h
    exact raises_applyFresh hsource hvalid e after h
  | reviewed =>
    simp only [hstatus] at h
    exact raises_applyFresh hsource hvalid e after h
  | accepted =>
    simp only [hstatus] at h
    exact raises_applyFresh hsource hvalid e after h

/-- The pilot plan with a change set that adds a node with the given further keys. -/
def addingPlan (keys : List (String × Json)) : PlanDb :=
  { pilotPlan none with
    operations := tableOf [{ pilotNote "op-first" "first" with
      operationType := OperationType.addNode.value
      newValue := .obj ([("code", .str "C"), ("title", .str "C")] ++ keys) }] }

/-- The duration of the new node is no number. -/
def wordyPlan : PlanDb := addingPlan [("planned_duration_days", .str "three days")]

theorem applyPlanChangeSet_checked_wordy : ∃ db',
    applyPlanChangeSet textPython publishFirst wordyPlan = .error .value db' ∧ db' = wordyPlan ∧
      NotApplied textPython wordyPlan publishFirst (pilotChangeSet "first") pilotRevision .value := by
  obtain ⟨db', h⟩ := raised?_eq_some.1 (show raised? (applyPlanChangeSet textPython publishFirst)
    wordyPlan = some .value by decide +kernel)
  exact ⟨db', h, applyPlanChangeSet_checked
    (Table.get?_eq_some.2 ⟨(List.mem_cons_self : pilotChangeSet "first" ∈ _), rfl⟩)
    (Table.get?_eq_some.2 ⟨(List.mem_cons_self : pilotRevision ∈ _), rfl⟩)
    (fun r hr => by cases hr) (by decide +kernel) h⟩

/-- A checked change set may raise what is no `DomainError`, and a `DomainError` for a key of a
nested requirement that the check does not look at. -/
theorem addingPlan_raises :
    validatePlanChangeSetOperations textPython wordyPlan "first" = [] ∧
    raised? (applyPlanChangeSet textPython publishFirst) wordyPlan = some .value ∧
    validatePlanChangeSetOperations textPython (addingPlan [("requirements", .arr [.obj []])])
      "first" = [] ∧
    raised? (applyPlanChangeSet textPython publishFirst)
      (addingPlan [("requirements", .arr [.obj []])]) =
      some (.domain "计划变更操作 op-first 缺少必填字段：name") := by
  decide +kernel

end

end LiveOs.Planning
