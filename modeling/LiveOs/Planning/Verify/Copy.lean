import LiveOs.Planning.Operations

/-!
# What the copy contains

Every loop of the copy appends to one table and leaves the others alone. Read backwards, a copy that
succeeds has one new row for each row of the source, and the map by source id sends the one to the
other.
-/

namespace LiveOs.Planning

open Lib

variable {py : Python} {db db' : PlanDb} {context context' : ApplicationContext}

/-! ## Generated ids -/

theorem Key.text_injective {n : Nat} : Function.Injective (Key.text : Key n → String) := by
  rintro ⟨a, ha, ha'⟩ ⟨b, hb, hb'⟩ h
  cases h
  rfl

theorem VarChar.text_injective {n : Nat} : Function.Injective (VarChar.text : VarChar n → String) := by
  rintro ⟨a, ha⟩ ⟨b, hb⟩ h
  cases h
  rfl

/-- **Generated ids are free.** -/
theorem uniqueModelId_free {n : Nat} {hn : 0 < n} {model : ModelName} {taken : Key n → Bool}
    {base : String} {key : Key n} (h : uniqueModelId hn model taken base = .ok key) :
    taken key = false := by
  unfold uniqueModelId at h
  split at h
  · rename_i index hfind
    obtain rfl := Except.ok.inj h
    simpa using List.find?_some hfind
  · cases h

theorem fresh_of_free {ρ κ : Type} [DecidableEq κ] {rows : List ρ} {pk : ρ → κ} {key : κ}
    (h : (rows.any fun r => pk r = key) = false) : ∀ r ∈ rows, pk r ≠ key := by
  simpa using h

theorem newRevisionId_fresh {base : String} {key : RevisionId}
    (h : newRevisionId db base = .ok key) : ∀ r ∈ db.revisions.rows, r.revisionId ≠ key :=
  fresh_of_free (uniqueModelId_free h)

theorem newNodeId_fresh {base : String} {key : NodeId} (h : newNodeId db base = .ok key) :
    ∀ n ∈ db.nodes.rows, n.nodeId ≠ key :=
  fresh_of_free (uniqueModelId_free h)

/-! ## Single writes -/

theorem createNode_ok {node : PlanNode} (h : createNode node db = .ok () db') :
    ∃ nodes, db' = { db with nodes := nodes } ∧ nodes.rows = db.nodes.rows ++ [node] := by
  obtain ⟨nodes, hins, h⟩ := bind_eq_ok.1 (run_update_ok.1 h)
  obtain rfl := pure_eq_ok.1 h
  exact ⟨nodes, rfl, (Table.insert_ok hins).1⟩

theorem createDependency_ok {dependency : PlanDependency}
    (h : createDependency dependency db = .ok () db') : ∃ dependencies,
      db' = { db with dependencies := dependencies } ∧
        dependencies.rows = db.dependencies.rows ++ [dependency] := by
  obtain ⟨dependencies, hins, h⟩ := bind_eq_ok.1 (run_update_ok.1 h)
  obtain rfl := pure_eq_ok.1 h
  exact ⟨dependencies, rfl, (Table.insert_ok hins).1⟩

theorem createRequirement_ok {requirement : PlanRequirement}
    (h : createRequirement requirement db = .ok () db') : ∃ requirements,
      db' = { db with requirements := requirements } ∧
        requirements.rows = db.requirements.rows ++ [requirement] := by
  obtain ⟨requirements, hins, h⟩ := bind_eq_ok.1 (run_update_ok.1 h)
  obtain rfl := pure_eq_ok.1 h
  exact ⟨requirements, rfl, (Table.insert_ok hins).1⟩

theorem createImpact_ok {impact : PlanCapacityImpact} (h : createImpact impact db = .ok () db') :
    ∃ impacts, db' = { db with impacts := impacts } ∧
      impacts.rows = db.impacts.rows ++ [impact] := by
  obtain ⟨impacts, hins, h⟩ := bind_eq_ok.1 (run_update_ok.1 h)
  obtain rfl := pure_eq_ok.1 h
  exact ⟨impacts, rfl, (Table.insert_ok hins).1⟩

theorem saveNode_ok {nodeId : NodeId} {fields : PlanNode → PlanNode}
    {hfields : ∀ n, (fields n).nodeId = n.nodeId}
    (h : saveNode nodeId fields hfields db = .ok () db') :
    db' = { db with nodes := db.nodes.modify nodeId fields hfields fun _ => rfl } :=
  (pure_eq_ok.1 (run_update_ok.1 h)).symm

/-! ## Nodes -/

/-- All fields agree but ids, revision, parent, timestamps and metadata. -/
def SameNode (n m : PlanNode) : Prop :=
  m = { n with
    nodeId := m.nodeId
    revision := m.revision
    parent := m.parent
    createdAt := m.createdAt
    updatedAt := m.updatedAt
    metadata := m.metadata }

/-- A node with its lists as the copy reads them. -/
def withLists (n : PlanNode) : PlanNode :=
  { n with
    requiredSkills := orEmptyList n.requiredSkills
    requiredResources := orEmptyList n.requiredResources
    completionCriteria := orEmptyList n.completionCriteria }

/-- A new node of the revision with the fields of the source node. -/
structure CopiedNode (revision : RevisionId) (source copy : PlanNode) : Prop where
  revision : copy.revision = revision
  parent : copy.parent = none
  fields : SameNode (withLists source) copy

theorem copyNode_ok {source : PlanRevision} {sourceNode : PlanNode}
    (h : copyNode source context sourceNode db = .ok context' db') : ∃ node nodes,
      CopiedNode context.revision.revisionId sourceNode node ∧
      db' = { db with nodes := nodes } ∧ nodes.rows = db.nodes.rows ++ [node] ∧
      context' = context.rememberNode node (some sourceNode.nodeId) := by
  rw [copyNode, run_get_bind] at h
  obtain ⟨nodeId, -, h⟩ := run_compute_bind_ok.1 h
  obtain ⟨metadata, -, h⟩ := run_compute_bind_ok.1 h
  obtain ⟨_, _, hcreate, h⟩ := run_bind_ok.1 h
  obtain ⟨nodes, rfl, hrows⟩ := createNode_ok hcreate
  obtain ⟨rfl, rfl⟩ := by simpa using h
  refine ⟨_, nodes, ⟨rfl, rfl, ?_⟩, rfl, hrows, rfl⟩
  rfl

/-- The context that remembers the copies. -/
def rememberCopies (context : ApplicationContext) (pairs : List (PlanNode × PlanNode)) :
    ApplicationContext :=
  pairs.foldl (fun c p => c.rememberNode p.2 (some p.1.nodeId)) context

theorem copyNodes_ok {source : PlanRevision} {sources : List PlanNode}
    (h : sources.foldlM (copyNode source) context db = .ok context' db') : ∃ copies nodes,
      List.Forall₂ (CopiedNode context.revision.revisionId) sources copies ∧
      db' = { db with nodes := nodes } ∧ nodes.rows = db.nodes.rows ++ copies ∧
      context' = rememberCopies context (sources.zip copies) := by
  induction sources generalizing context db with
  | nil =>
    obtain ⟨rfl, rfl⟩ := by simpa [List.foldlM_nil] using h
    exact ⟨[], db.nodes, .nil, rfl, by simp, rfl⟩
  | cons n ns ih =>
    rw [List.foldlM_cons] at h
    obtain ⟨context₁, db₁, hn, h⟩ := run_bind_ok.1 h
    obtain ⟨copy, nodes₁, hcopy, rfl, hrows₁, rfl⟩ := copyNode_ok hn
    obtain ⟨copies, nodes, hcopies, rfl, hrows, rfl⟩ := ih h
    exact ⟨copy :: copies, nodes, .cons hcopy hcopies, rfl, by simp [hrows, hrows₁], rfl⟩

section

variable (pairs : List (PlanNode × PlanNode))

theorem rememberCopies_nodesBySourceId : (rememberCopies context pairs).nodesBySourceId =
    (pairs.map fun p => (p.1.nodeId.text, p.2.nodeId)).reverse ++ context.nodesBySourceId := by
  induction pairs generalizing context with
  | nil => rfl
  | cons p ps ih =>
    rw [rememberCopies, List.foldl_cons, ← rememberCopies, ih]
    simp [ApplicationContext.rememberNode]

theorem rememberCopies_nodesByNewId : (rememberCopies context pairs).nodesByNewId =
    context.nodesByNewId ++
      pairs.map fun p => ⟨p.2.nodeId, p.2.sequence.val, .str p.2.code.text⟩ := by
  induction pairs generalizing context with
  | nil => simp [rememberCopies]
  | cons p ps ih =>
    rw [rememberCopies, List.foldl_cons, ← rememberCopies, ih]
    simp [ApplicationContext.rememberNode]

theorem rememberCopies_nodesByCode : (rememberCopies context pairs).nodesByCode =
    (pairs.map fun p => (p.2.code.text, p.2.nodeId)).reverse ++ context.nodesByCode := by
  induction pairs generalizing context with
  | nil => rfl
  | cons p ps ih =>
    rw [rememberCopies, List.foldl_cons, ← rememberCopies, ih]
    simp [ApplicationContext.rememberNode]

theorem rememberCopies_frame : (rememberCopies context pairs).revision = context.revision ∧
    (rememberCopies context pairs).revisionSlug = context.revisionSlug ∧
    (rememberCopies context pairs).appliedAt = context.appliedAt ∧
    (rememberCopies context pairs).operationResults = context.operationResults ∧
    (rememberCopies context pairs).notes = context.notes := by
  induction pairs generalizing context with
  | nil => exact ⟨rfl, rfl, rfl, rfl, rfl⟩
  | cons p ps ih =>
    rw [rememberCopies, List.foldl_cons, ← rememberCopies]
    exact ih

end

/-! ## The map by source id -/

theorem lookup_of_mem {entries : List (String × NodeId)} (hnd : (entries.map Prod.fst).Nodup)
    {key : String} {id : NodeId} (h : (key, id) ∈ entries) : lookup entries key = some id := by
  induction entries with
  | nil => cases h
  | cons e es ih =>
    rw [List.map_cons, List.nodup_cons] at hnd
    unfold lookup
    by_cases he : e.1 = key
    · rcases List.mem_cons.1 h with rfl | hmem
      · simp
      · exact absurd (List.mem_map_of_mem (f := Prod.fst) hmem) (he ▸ hnd.1)
    · rcases List.mem_cons.1 h with rfl | hmem
      · exact absurd rfl he
      · rw [List.find?_cons_of_neg (by simpa using he)]
        exact ih hnd.2 hmem

theorem mem_of_lookup {entries : List (String × NodeId)} {key : String} {id : NodeId}
    (h : lookup entries key = some id) : (key, id) ∈ entries := by
  obtain ⟨e, hfind, rfl⟩ := Option.map_eq_some_iff.1 h
  have hkey : e.1 = key := by simpa using List.find?_some hfind
  exact hkey ▸ List.mem_of_find?_eq_some hfind

theorem copyOf_ok {id new : NodeId} :
    copyOf context id = .ok new ↔ lookup context.nodesBySourceId id.text = some new := by
  unfold copyOf
  cases lookup context.nodesBySourceId id.text <;> simp

/-! ## Loops without a result -/

@[simp] theorem forEach_nil_ok {α : Type} {f : α → PlanM Unit} :
    forEach [] f db = .ok () db' ↔ db = db' := by
  simp [forEach, List.foldlM_nil]

theorem forEach_cons_ok {α : Type} {x : α} {xs : List α} {f : α → PlanM Unit} :
    forEach (x :: xs) f db = .ok () db' ↔
      ∃ db₁, f x db = .ok () db₁ ∧ forEach xs f db₁ = .ok () db' := by
  rw [forEach, List.foldlM_cons, run_bind_ok]
  exact ⟨fun ⟨_, db₁, hx, hxs⟩ => ⟨db₁, hx, hxs⟩, fun ⟨db₁, hx, hxs⟩ => ⟨(), db₁, hx, hxs⟩⟩

/-- A loop whose turns each append one row. -/
theorem forEach_appends {α ρ : Type} (rows : PlanDb → List ρ) (Frame : PlanDb → PlanDb → Prop)
    {R : α → ρ → Prop} {f : α → PlanM Unit} (hrefl : ∀ db, Frame db db)
    (htrans : ∀ a b c, Frame a b → Frame b c → Frame a c)
    (hstep : ∀ x db db', f x db = .ok () db' →
      ∃ r, R x r ∧ rows db' = rows db ++ [r] ∧ Frame db db') {xs : List α}
    (h : forEach xs f db = .ok () db') :
    ∃ rs, List.Forall₂ R xs rs ∧ rows db' = rows db ++ rs ∧ Frame db db' := by
  induction xs generalizing db with
  | nil =>
    obtain rfl := forEach_nil_ok.1 h
    exact ⟨[], .nil, by simp, hrefl db⟩
  | cons x xs ih =>
    obtain ⟨db₁, hx, hxs⟩ := forEach_cons_ok.1 h
    obtain ⟨r, hr, hrows₁, hframe₁⟩ := hstep x db db₁ hx
    obtain ⟨rs, hrs, hrows, hframe⟩ := ih hxs
    exact ⟨r :: rs, .cons hr hrs, by simp [hrows, hrows₁], htrans _ _ _ hframe₁ hframe⟩

/-! ## Parents -/

/-- The copy under the copy of the parent. -/
def withParent (context : ApplicationContext) (source copy : PlanNode) : PlanNode :=
  { copy with parent := source.parent.bind fun p => lookup context.nodesBySourceId p.text }

theorem copyParent_ok {n : PlanNode} (h : copyParent context n db = .ok () db') :
    n.parent = none ∧ db' = db ∨ ∃ p id parent, n.parent = some p ∧
      lookup context.nodesBySourceId n.nodeId.text = some id ∧
      lookup context.nodesBySourceId p.text = some parent ∧
      db' = { db with
        nodes := db.nodes.modify id (fun m => { m with parent := some parent }) (fun _ => rfl)
          fun _ => rfl } := by
  cases hp : n.parent with
  | none =>
    simp only [copyParent, hp] at h
    obtain ⟨-, rfl⟩ := by simpa using h
    exact .inl ⟨rfl, rfl⟩
  | some p =>
    simp only [copyParent, hp] at h
    obtain ⟨id, hid, h⟩ := run_compute_bind_ok.1 h
    cases hparent : lookup context.nodesBySourceId p.text with
    | none =>
      simp only [hparent] at h
      cases h
    | some parent =>
      simp only [hparent] at h
      exact .inr ⟨p, id, parent, rfl, copyOf_ok.1 hid, hparent, saveNode_ok h⟩

/-- Changing the one row under a key, where the rows before and after it are known. -/
theorem map_update_middle {done rest : List PlanNode} {c : PlanNode} {f : PlanNode → PlanNode}
    (hnd : ((done ++ c :: rest).map PlanNode.nodeId).Nodup) :
    ((done ++ c :: rest).map fun r => if r.nodeId = c.nodeId then f r else r) =
      done ++ f c :: rest := by
  rw [List.map_append, List.map_cons, List.nodup_append, List.nodup_cons] at hnd
  obtain ⟨-, ⟨hrest, -⟩, hdone⟩ := hnd
  have hsame : ∀ xs : List PlanNode, (∀ x ∈ xs, x.nodeId ≠ c.nodeId) →
      (xs.map fun r => if r.nodeId = c.nodeId then f r else r) = xs := fun xs hxs =>
    (List.map_congr_left fun x hx => if_neg (hxs x hx)).trans (List.map_id _)
  rw [List.map_append, List.map_cons, if_pos rfl, hsame done, hsame rest]
  · intro x hx hid
    exact hrest (hid ▸ List.mem_map_of_mem hx)
  · intro x hx
    exact hdone _ (List.mem_map_of_mem hx) _ List.mem_cons_self

theorem copyParents_ok {sources copies done : List PlanNode}
    (hids : List.Forall₂ (fun n c =>
      lookup context.nodesBySourceId n.nodeId.text = some c.nodeId ∧ c.parent = none) sources copies)
    (hrows : db.nodes.rows = done ++ copies)
    (h : forEach sources (copyParent context) db = .ok () db') : ∃ nodes,
      db' = { db with nodes := nodes } ∧
      nodes.rows = done ++ List.zipWith (withParent context) sources copies ∧
      ∀ n ∈ sources, ∀ p ∈ n.parent, ∃ q, lookup context.nodesBySourceId p.text = some q := by
  induction hids generalizing done db with
  | nil =>
    obtain rfl := forEach_nil_ok.1 h
    exact ⟨_, rfl, hrows, fun n hn => absurd hn List.not_mem_nil⟩
  | @cons n c ns cs hn hids ih =>
    obtain ⟨db₁, hparent, hrest⟩ := forEach_cons_ok.1 h
    rw [List.zipWith_cons_cons, List.append_cons]
    have hnd : ((done ++ c :: cs).map PlanNode.nodeId).Nodup := hrows ▸ db.nodes.pkUnique
    rcases copyParent_ok hparent with ⟨hnone, hsame⟩ | ⟨p, id, parent, hp, hid, hlookup, hmod⟩
    · have hcopy : withParent context n c = c := by
        rw [withParent, hnone, Option.bind_none, ← hn.2]
      rw [hcopy, ← hsame]
      rw [hsame] at hrest
      have hrows₁ : db.nodes.rows = (done ++ [c]) ++ cs := by simpa using hrows
      obtain ⟨nodes, rfl, hnodes, hparents⟩ := ih hrows₁ hrest
      refine ⟨nodes, by rw [hsame], hnodes, fun m hm p hp => ?_⟩
      rcases List.mem_cons.1 hm with rfl | hm
      · rw [hnone] at hp
        cases hp
      · exact hparents m hm p hp
    · obtain rfl := Option.some.inj (hid.symm.trans hn.1)
      have hrows₁ : db₁.nodes.rows = (done ++ [withParent context n c]) ++ cs := by
        rw [hmod, Table.modify_rows, hrows, map_update_middle hnd, withParent, hp,
          Option.bind_some, hlookup]
        simp
      obtain ⟨nodes, rfl, hnodes, hparents⟩ := ih hrows₁ hrest
      refine ⟨nodes, by rw [hmod], hnodes, fun m hm q hq => ?_⟩
      rcases List.mem_cons.1 hm with rfl | hm
      · rw [hp] at hq
        obtain rfl := Option.some.inj hq
        exact ⟨parent, hlookup⟩
      · exact hparents m hm q hq

/-! ## Requirements, impacts and dependencies -/

/-- A new requirement of the copy of the node, without a linked resource. -/
def CopiedRequirement (context : ApplicationContext) (source copy : PlanRequirement) : Prop :=
  lookup context.nodesBySourceId source.node.text = some copy.node ∧ copy = { source with
    requirementId := copy.requirementId
    node := copy.node
    resource := none
    metadata := copy.metadata }

/-- A new impact of the copy of the node. -/
def CopiedImpact (context : ApplicationContext) (source copy : PlanCapacityImpact) : Prop :=
  lookup context.nodesBySourceId source.node.text = some copy.node ∧ copy = { source with
    impactId := copy.impactId
    node := copy.node
    metadata := copy.metadata }

/-- A new dependency between the copies of the ends. -/
def CopiedDependency (context : ApplicationContext) (source copy : PlanDependency) : Prop :=
  lookup context.nodesBySourceId source.node.text = some copy.node ∧
  lookup context.nodesBySourceId source.dependsOn.text = some copy.dependsOn ∧
  copy = { source with
    dependencyId := copy.dependencyId
    revision := context.revision.revisionId
    node := copy.node
    dependsOn := copy.dependsOn
    metadata := copy.metadata }

/-- The metadata of the source, and the id of the source. -/
def KeepsMetadata (source copy : PlanRequirement) : Prop :=
  ∃ es, spread source.metadata = .ok es ∧ copy.metadata =
    .obj (merged es [("copied_from_requirement_id", .str source.requirementId.text)])

theorem copyRequirement_ok {source : PlanRequirement}
    (h : copyRequirement context source db = .ok () db') : ∃ copy,
      (CopiedRequirement context source copy ∧ KeepsMetadata source copy) ∧
      db'.requirements.rows = db.requirements.rows ++ [copy] ∧
      db' = { db with requirements := db'.requirements } := by
  obtain ⟨node, hnode, h⟩ := run_compute_bind_ok.1 h
  rw [run_get_bind] at h
  obtain ⟨id, -, h⟩ := run_compute_bind_ok.1 h
  obtain ⟨metadata, hmetadata, h⟩ := run_compute_bind_ok.1 h
  obtain ⟨requirements, rfl, hrows⟩ := createRequirement_ok h
  exact ⟨_, ⟨⟨copyOf_ok.1 hnode, rfl⟩, metadata, hmetadata, rfl⟩, hrows, rfl⟩

theorem copyImpact_ok {source : PlanCapacityImpact} (h : copyImpact context source db = .ok () db') :
    ∃ copy, CopiedImpact context source copy ∧ db'.impacts.rows = db.impacts.rows ++ [copy] ∧
      db' = { db with impacts := db'.impacts } := by
  obtain ⟨node, hnode, h⟩ := run_compute_bind_ok.1 h
  rw [run_get_bind] at h
  obtain ⟨id, -, h⟩ := run_compute_bind_ok.1 h
  obtain ⟨metadata, -, h⟩ := run_compute_bind_ok.1 h
  obtain ⟨impacts, rfl, hrows⟩ := createImpact_ok h
  exact ⟨_, ⟨copyOf_ok.1 hnode, rfl⟩, hrows, rfl⟩

theorem copyDependency_ok {source : PlanDependency}
    (h : copyDependency context source db = .ok () db') : ∃ copy,
      CopiedDependency context source copy ∧
      db'.dependencies.rows = db.dependencies.rows ++ [copy] ∧
      db' = { db with dependencies := db'.dependencies } := by
  rw [copyDependency, run_get_bind] at h
  obtain ⟨id, -, h⟩ := run_compute_bind_ok.1 h
  obtain ⟨node, hnode, h⟩ := run_compute_bind_ok.1 h
  obtain ⟨dependsOn, hdependsOn, h⟩ := run_compute_bind_ok.1 h
  obtain ⟨metadata, -, h⟩ := run_compute_bind_ok.1 h
  obtain ⟨dependencies, rfl, hrows⟩ := createDependency_ok h
  exact ⟨_, ⟨copyOf_ok.1 hnode, copyOf_ok.1 hdependsOn, rfl⟩, hrows, rfl⟩

/-! ## The whole copy -/

/-- What the copy of a revision has written. -/
structure Copied (source : PlanRevision) (context : ApplicationContext) (db db' : PlanDb)
    (context' : ApplicationContext) (copies : List PlanNode) : Prop where
  nodes : List.Forall₂ (CopiedNode context.revision.revisionId)
    (revisionNodes db source.revisionId) copies
  remembered : context' = rememberCopies context ((revisionNodes db source.revisionId).zip copies)
  nodeRows : db'.nodes.rows = db.nodes.rows ++
    List.zipWith (withParent context') (revisionNodes db source.revisionId) copies
  parents : ∀ n ∈ revisionNodes db source.revisionId, ∀ p ∈ n.parent,
    ∃ q, lookup context'.nodesBySourceId p.text = some q
  ids : List.Forall₂ (fun n c => lookup context'.nodesBySourceId n.nodeId.text = some c.nodeId)
    (revisionNodes db source.revisionId) copies
  found : ∀ (id q : NodeId), lookup context'.nodesBySourceId id.text = some q →
    ∃ n c, (n, c) ∈ (revisionNodes db source.revisionId).zip copies ∧ n.nodeId = id ∧ c.nodeId = q
  requirements : ∃ rs, List.Forall₂ (CopiedRequirement context')
    (requirementsOf db (revisionNodes db source.revisionId)) rs ∧
    db'.requirements.rows = db.requirements.rows ++ rs
  impacts : ∃ is, List.Forall₂ (CopiedImpact context')
    (impactsOf db (revisionNodes db source.revisionId)) is ∧
    db'.impacts.rows = db.impacts.rows ++ is
  dependencies : ∃ ds, List.Forall₂ (CopiedDependency context')
    (revisionDependencies db source.revisionId) ds ∧
    db'.dependencies.rows = db.dependencies.rows ++ ds
  frame : db' = { db with
    nodes := db'.nodes
    requirements := db'.requirements
    impacts := db'.impacts
    dependencies := db'.dependencies }

theorem orderBy_perm {α : Type} (sequence : α → Nat) (key : α → String) (rows : List α) :
    (orderBy sequence key rows).Perm rows := List.perm_insertionSort _ _

theorem mem_revisionNodes {revision : RevisionId} {n : PlanNode} :
    n ∈ revisionNodes db revision ↔ n ∈ db.nodes.rows ∧ n.revision = revision := by
  rw [revisionNodes, (orderBy_perm _ _ _).mem_iff, List.mem_filter, decide_eq_true_eq]

theorem revisionNodes_nodup (db : PlanDb) (revision : RevisionId) :
    ((revisionNodes db revision).map PlanNode.nodeId).Nodup :=
  ((orderBy_perm _ _ _).map _).nodup_iff.2
    (db.nodes.pkUnique.sublist (List.filter_sublist.map _))

/-- The map by source id sends every source node to its copy. -/
theorem lookup_copies {sources copies : List PlanNode} {R : PlanNode → PlanNode → Prop}
    (hnd : (sources.map PlanNode.nodeId).Nodup) (hcopies : List.Forall₂ R sources copies)
    (hempty : context.nodesBySourceId = []) :
    List.Forall₂ (fun n c => lookup (rememberCopies context (sources.zip copies)).nodesBySourceId
      n.nodeId.text = some c.nodeId) sources copies := by
  rw [rememberCopies_nodesBySourceId, hempty, List.append_nil]
  have hkeys : ((((sources.zip copies).map fun p => (p.1.nodeId.text, p.2.nodeId)).reverse).map
      Prod.fst).Nodup := by
    rw [List.map_reverse, List.nodup_reverse, List.map_map]
    have hfst : ((sources.zip copies).map Prod.fst) = sources :=
      List.map_fst_zip (le_of_eq hcopies.length_eq)
    have hcomp : (sources.zip copies).map (Prod.fst ∘ fun p => (p.1.nodeId.text, p.2.nodeId)) =
        (sources.map PlanNode.nodeId).map Key.text := by
      rw [← hfst, List.map_map, List.map_map, hfst]
      rfl
    rw [hcomp]
    exact hnd.map Key.text_injective
  refine List.forall₂_iff_zip.2 ⟨hcopies.length_eq, fun {n c} hmem => lookup_of_mem hkeys ?_⟩
  rw [List.mem_reverse]
  exact List.mem_map_of_mem (f := fun p : PlanNode × PlanNode => (p.1.nodeId.text, p.2.nodeId)) hmem

/-- The map by source id knows the copied nodes only. -/
theorem found_copies {sources copies : List PlanNode} (hempty : context.nodesBySourceId = [])
    {id q : NodeId}
    (h : lookup (rememberCopies context (sources.zip copies)).nodesBySourceId id.text = some q) :
    ∃ n c, (n, c) ∈ sources.zip copies ∧ n.nodeId = id ∧ c.nodeId = q := by
  rw [rememberCopies_nodesBySourceId, hempty, List.append_nil] at h
  have hmem := mem_of_lookup h
  rw [List.mem_reverse] at hmem
  obtain ⟨⟨n, c⟩, hzip, heq⟩ := List.mem_map.1 hmem
  obtain ⟨htext, hq⟩ := Prod.mk.inj heq
  exact ⟨n, c, hzip, Key.text_injective htext, hq⟩

/-- A copy that succeeds has written one row for each row of the source, and the requirements among
them keep their metadata. -/
theorem copyRevisionContents_metadata {source : PlanRevision}
    (hempty : context.nodesBySourceId = [])
    (h : copyRevisionContents source context db = .ok context' db') :
    ∃ copies, Copied source context db db' context' copies ∧
      ∃ rs, List.Forall₂ (fun r c => CopiedRequirement context' r c ∧ KeepsMetadata r c)
        (requirementsOf db (revisionNodes db source.revisionId)) rs ∧
        db'.requirements.rows = db.requirements.rows ++ rs := by
  rw [copyRevisionContents, run_get_bind] at h
  obtain ⟨context₁, db₁, hnodes, h⟩ := run_bind_ok.1 h
  obtain ⟨copies, nodes, hcopies, rfl, hrows, rfl⟩ := copyNodes_ok hnodes
  obtain ⟨_, db₂, hparents, h⟩ := run_bind_ok.1 h
  have hids := lookup_copies (revisionNodes_nodup db source.revisionId) hcopies hempty
  have hboth : List.Forall₂ (fun n c =>
      lookup (rememberCopies context ((revisionNodes db source.revisionId).zip
        copies)).nodesBySourceId n.nodeId.text = some c.nodeId ∧ c.parent = none)
      (revisionNodes db source.revisionId) copies :=
    List.forall₂_iff_zip.2 ⟨hcopies.length_eq, fun hmem =>
      ⟨(List.forall₂_iff_zip.1 hids).2 hmem, ((List.forall₂_iff_zip.1 hcopies).2 hmem).parent⟩⟩
  obtain ⟨nodes₂, rfl, hrows₂, hinside⟩ := copyParents_ok hboth hrows hparents
  rw [run_get_bind] at h
  obtain ⟨_, db₃, hreqs, h⟩ := run_bind_ok.1 h
  obtain ⟨rs, hrs, hreqRows, hframe₃⟩ := forEach_appends (fun db => db.requirements.rows)
    (fun db db' => db' = { db with requirements := db'.requirements }) (fun _ => rfl)
    (fun a b c hab hbc => by rw [hbc, hab]) (fun x db db' hx => copyRequirement_ok hx) hreqs
  rw [run_get_bind] at h
  obtain ⟨_, db₄, himps, h⟩ := run_bind_ok.1 h
  obtain ⟨is, his, himpRows, hframe₄⟩ := forEach_appends (fun db => db.impacts.rows)
    (fun db db' => db' = { db with impacts := db'.impacts }) (fun _ => rfl)
    (fun a b c hab hbc => by rw [hbc, hab]) (fun x db db' hx => copyImpact_ok hx) himps
  rw [run_get_bind] at h
  obtain ⟨_, db₅, hdeps, h⟩ := run_bind_ok.1 h
  obtain ⟨ds, hds, hdepRows, hframe₅⟩ := forEach_appends (fun db => db.dependencies.rows)
    (fun db db' => db' = { db with dependencies := db'.dependencies }) (fun _ => rfl)
    (fun a b c hab hbc => by rw [hbc, hab]) (fun x db db' hx => copyDependency_ok hx) hdeps
  obtain ⟨rfl, rfl⟩ := by simpa using h
  rw [hframe₃] at hframe₄ himpRows his
  rw [hframe₄] at hframe₅ hdepRows hds
  have hwritten : db₅.requirements.rows = db.requirements.rows ++ rs := by
    rw [hframe₅]
    exact hreqRows
  refine ⟨copies, ⟨hcopies, rfl, ?_, hinside, hids, fun _ _ => found_copies hempty,
    ⟨rs, hrs.imp fun _ _ hr => hr.1, hwritten⟩, ⟨is, his, ?_⟩, ⟨ds, hds, hdepRows⟩, ?_⟩,
    rs, hrs, hwritten⟩
  · rw [hframe₅]
    exact hrows₂
  · rw [hframe₅]
    exact himpRows
  · rw [hframe₅]

/-- **The copy.** A copy that succeeds has written one row for each row of the source. -/
theorem copyRevisionContents_ok {source : PlanRevision} (hempty : context.nodesBySourceId = [])
    (h : copyRevisionContents source context db = .ok context' db') :
    ∃ copies, Copied source context db db' context' copies :=
  have ⟨copies, hcopied, _⟩ := copyRevisionContents_metadata hempty h
  ⟨copies, hcopied⟩

end LiveOs.Planning
