import LiveOs.Planning.Verify.Baseline

/-!
# The copy as a renaming

The copy of a revision is the revision with its nodes renamed by the map by source id, but for what
the copy leaves out: the linked resource of a requirement, and a list of a node that is falsy without
being a list.
-/

namespace LiveOs.Planning

open Lib

variable {py : Python} {call : ApplyCall} {db db' : PlanDb}

/-! ## The contents of a revision -/

def nodesIn (db : PlanDb) (revision : RevisionId) : List PlanNode :=
  db.nodes.rows.filter fun n => n.revision = revision

def dependenciesIn (db : PlanDb) (revision : RevisionId) : List PlanDependency :=
  db.dependencies.rows.filter fun d => d.revision = revision

def requirementsAt (db : PlanDb) (node : NodeId) : List PlanRequirement :=
  db.requirements.rows.filter fun r => r.node = node

def impactsAt (db : PlanDb) (node : NodeId) : List PlanCapacityImpact :=
  db.impacts.rows.filter fun i => i.node = node

theorem mem_nodesIn {revision : RevisionId} {n : PlanNode} :
    n ∈ nodesIn db revision ↔ n ∈ db.nodes.rows ∧ n.revision = revision := by
  rw [nodesIn, List.mem_filter, decide_eq_true_eq]

theorem mem_requirementsAt {node : NodeId} {r : PlanRequirement} :
    r ∈ requirementsAt db node ↔ r ∈ db.requirements.rows ∧ r.node = node := by
  rw [requirementsAt, List.mem_filter, decide_eq_true_eq]

/-- Every row names a row that is there. -/
structure ForeignKeys (db : PlanDb) : Prop where
  nodes : ∀ n ∈ db.nodes.rows, ∃ r ∈ db.revisions.rows, r.revisionId = n.revision
  dependencies : ∀ d ∈ db.dependencies.rows, ∃ r ∈ db.revisions.rows, r.revisionId = d.revision
  requirements : ∀ q ∈ db.requirements.rows, ∃ n ∈ db.nodes.rows, n.nodeId = q.node
  impacts : ∀ i ∈ db.impacts.rows, ∃ n ∈ db.nodes.rows, n.nodeId = i.node

/-! ## Renamings -/

/-- What a dependency says, under a renaming of the nodes. -/
def dependencyFields (rename : NodeId → NodeId) (d : PlanDependency) :
    NodeId × NodeId × String × String :=
  (rename d.node, rename d.dependsOn, d.dependencyType.text, d.description)

/-- What a requirement says of its node. -/
def requirementFields (r : PlanRequirement) : PlanRequirement :=
  { r with requirementId := keyOf key96_pos "", node := keyOf key96_pos "", metadata := .obj [] }

/-- What an impact says of its node. -/
def impactFields (i : PlanCapacityImpact) : PlanCapacityImpact :=
  { i with impactId := keyOf key96_pos "", node := keyOf key96_pos "", metadata := .obj [] }

/-- The revision `new` is the revision `old` of the state before with its nodes renamed. -/
structure IsCopy (db db' : PlanDb) (old new : RevisionId) (rename : NodeId → NodeId) : Prop where
  maps : ∀ n ∈ nodesIn db old, ∃ m ∈ nodesIn db' new, m.nodeId = rename n.nodeId ∧
    SameNode n m ∧ m.parent = n.parent.map rename
  injective : ∀ n ∈ nodesIn db old, ∀ m ∈ nodesIn db old,
    rename n.nodeId = rename m.nodeId → n = m
  surjective : ∀ m ∈ nodesIn db' new, ∃ n ∈ nodesIn db old, m.nodeId = rename n.nodeId
  dependencies : ((dependenciesIn db' new).map (dependencyFields id)).Perm
    ((dependenciesIn db old).map (dependencyFields rename))
  requirements : ∀ n ∈ nodesIn db old,
    ((requirementsAt db' (rename n.nodeId)).map requirementFields).Perm
      ((requirementsAt db n.nodeId).map requirementFields)
  impacts : ∀ n ∈ nodesIn db old,
    ((impactsAt db' (rename n.nodeId)).map impactFields).Perm
      ((impactsAt db n.nodeId).map impactFields)

/-- The revision and everything on it are as before. -/
structure Unchanged (db db' : PlanDb) (old : RevisionId) : Prop where
  nodes : nodesIn db' old = nodesIn db old
  dependencies : dependenciesIn db' old = dependenciesIn db old
  requirements : ∀ n ∈ nodesIn db old, requirementsAt db' n.nodeId = requirementsAt db n.nodeId
  impacts : ∀ n ∈ nodesIn db old, impactsAt db' n.nodeId = impactsAt db n.nodeId

/-- The map by source id, as a renaming. -/
def copyName (context : ApplicationContext) (id : NodeId) : NodeId :=
  (lookup context.nodesBySourceId id.text).getD id

/-! ## The copy -/

section

variable {source : PlanRevision} {context context' : ApplicationContext} {copies : List PlanNode}

/-- Nothing names the new revision before the copy. -/
structure FreshRevision (db : PlanDb) (new : RevisionId) : Prop where
  nodes : ∀ n ∈ db.nodes.rows, n.revision ≠ new
  dependencies : ∀ d ∈ db.dependencies.rows, d.revision ≠ new

theorem SameNode.withParent {n m s : PlanNode} (h : SameNode n m) :
    SameNode n (withParent context' s m) :=
  congrArg (Planning.withParent context' s) h

theorem filter_append_of_none {α : Type} {p : α → Bool} {xs ys : List α}
    (h : ∀ x ∈ xs, ¬ p x = true) : (xs ++ ys).filter p = ys.filter p := by
  rw [List.filter_append, List.filter_eq_nil_iff.2 h, List.nil_append]

theorem filter_append_keeps {α : Type} {p : α → Bool} {xs ys : List α}
    (h : ∀ y ∈ ys, ¬ p y = true) : (xs ++ ys).filter p = xs.filter p := by
  rw [List.filter_append, List.filter_eq_nil_iff.2 h, List.append_nil]

theorem mem_zipWith_parent {sources : List PlanNode} {m : PlanNode}
    (h : m ∈ List.zipWith (withParent context') sources copies) :
    ∃ n c, (n, c) ∈ sources.zip copies ∧ m = withParent context' n c := by
  rw [← List.map_uncurry_zip_eq_zipWith] at h
  obtain ⟨⟨n, c⟩, hmem, rfl⟩ := List.mem_map.1 h
  exact ⟨n, c, hmem, rfl⟩

theorem zipWith_parent_mem {sources : List PlanNode} {n c : PlanNode}
    (h : (n, c) ∈ sources.zip copies) :
    withParent context' n c ∈ List.zipWith (withParent context') sources copies := by
  rw [← List.map_uncurry_zip_eq_zipWith]
  exact List.mem_map_of_mem (f := Function.uncurry (withParent context')) h

/-- The nodes of the new revision, as the copy has entered them. -/
theorem Copied.nodesIn_new (h : Copied source context db db' context' copies)
    (hfresh : FreshRevision db context.revision.revisionId) :
    nodesIn db' context.revision.revisionId =
      List.zipWith (withParent context') (revisionNodes db source.revisionId) copies := by
  rw [nodesIn, h.nodeRows, filter_append_of_none fun n hn => by simpa using hfresh.nodes n hn]
  refine List.filter_eq_self.2 fun m hm => ?_
  obtain ⟨n, c, hzip, rfl⟩ := mem_zipWith_parent hm
  exact decide_eq_true ((List.forall₂_iff_zip.1 h.nodes).2 hzip).revision

theorem Copied.nodesIn_old (h : Copied source context db db' context' copies) {old : RevisionId}
    (hold : old ≠ context.revision.revisionId) : nodesIn db' old = nodesIn db old := by
  rw [nodesIn, h.nodeRows]
  refine filter_append_keeps fun m hm => ?_
  obtain ⟨n, c, hzip, rfl⟩ := mem_zipWith_parent hm
  have hrevision : c.revision = context.revision.revisionId :=
    ((List.forall₂_iff_zip.1 h.nodes).2 hzip).revision
  simpa [withParent, hrevision] using Ne.symm hold

/-- The copy has an id that no node had before. -/
theorem Copied.copyId_new (h : Copied source context db db' context' copies) {n c : PlanNode}
    (hzip : (n, c) ∈ (revisionNodes db source.revisionId).zip copies) :
    ∀ m ∈ db.nodes.rows, m.nodeId ≠ c.nodeId := by
  intro m hm hid
  have hnd := db'.nodes.pkUnique
  rw [h.nodeRows, List.map_append, List.nodup_append] at hnd
  exact hnd.2.2 _ (List.mem_map_of_mem hm) _
    (List.mem_map_of_mem (zipWith_parent_mem hzip : withParent context' n c ∈ _)) hid

theorem Copied.copyName_eq (h : Copied source context db db' context' copies) {n c : PlanNode}
    (hzip : (n, c) ∈ (revisionNodes db source.revisionId).zip copies) :
    copyName context' n.nodeId = c.nodeId := by
  rw [copyName, (List.forall₂_iff_zip.1 h.ids).2 hzip, Option.getD_some]

/-- Every node of the source has a copy. -/
theorem Copied.exists_copy (h : Copied source context db db' context' copies) {n : PlanNode}
    (hn : n ∈ nodesIn db source.revisionId) :
    ∃ c, (n, c) ∈ (revisionNodes db source.revisionId).zip copies := by
  have hmem : n ∈ ((revisionNodes db source.revisionId).zip copies).map Prod.fst := by
    rw [List.map_fst_zip (le_of_eq h.nodes.length_eq)]
    exact mem_revisionNodes.2 (mem_nodesIn.1 hn)
  obtain ⟨⟨_, c⟩, hzip, rfl⟩ := List.mem_map.1 hmem
  exact ⟨c, hzip⟩

theorem Copied.source_mem {n c : PlanNode}
    (hzip : (n, c) ∈ (revisionNodes db source.revisionId).zip copies) :
    n ∈ nodesIn db source.revisionId :=
  mem_nodesIn.2 (mem_revisionNodes.1 (List.of_mem_zip hzip).1)

/-- Two nodes with one copy are one node. -/
theorem Copied.copyName_injective (h : Copied source context db db' context' copies)
    {n m : PlanNode} (hn : n ∈ nodesIn db source.revisionId)
    (hm : m ∈ nodesIn db source.revisionId)
    (heq : copyName context' n.nodeId = copyName context' m.nodeId) : n = m := by
  obtain ⟨c, hc⟩ := h.exists_copy hn
  obtain ⟨d, hd⟩ := h.exists_copy hm
  rw [h.copyName_eq hc, h.copyName_eq hd] at heq
  have hnd := db'.nodes.pkUnique
  rw [h.nodeRows, List.map_append, List.nodup_append, ← List.map_uncurry_zip_eq_zipWith,
    List.map_map] at hnd
  have hpairs := List.inj_on_of_nodup_map hnd.2.1 hc hd heq
  exact congrArg Prod.fst hpairs

/-- A renamed node of the source, when its lists are as the copy reads them. -/
theorem Copied.maps (h : Copied source context db db' context' copies)
    (hfresh : FreshRevision db context.revision.revisionId) {n : PlanNode}
    (hn : n ∈ nodesIn db source.revisionId) :
    ∃ m ∈ nodesIn db' context.revision.revisionId, m.nodeId = copyName context' n.nodeId ∧
      SameNode (withLists n) m ∧ m.parent = n.parent.map (copyName context') := by
  obtain ⟨c, hc⟩ := h.exists_copy hn
  refine ⟨withParent context' n c, ?_, (h.copyName_eq hc).symm,
    ((List.forall₂_iff_zip.1 h.nodes).2 hc).fields.withParent, ?_⟩
  · rw [h.nodesIn_new hfresh]
    exact zipWith_parent_mem hc
  · cases hp : n.parent with
    | none => simp [withParent, hp]
    | some p =>
      obtain ⟨q, hq⟩ := h.parents n (mem_revisionNodes.2 (mem_nodesIn.1 hn)) p (by rw [hp]; rfl)
      simp [withParent, hp, hq, copyName]

theorem Copied.surjective (h : Copied source context db db' context' copies)
    (hfresh : FreshRevision db context.revision.revisionId) {m : PlanNode}
    (hm : m ∈ nodesIn db' context.revision.revisionId) :
    ∃ n ∈ nodesIn db source.revisionId, m.nodeId = copyName context' n.nodeId ∧
      SameNode (withLists n) m := by
  rw [h.nodesIn_new hfresh] at hm
  obtain ⟨n, c, hzip, rfl⟩ := mem_zipWith_parent hm
  exact ⟨n, Copied.source_mem hzip, (h.copyName_eq hzip).symm,
    ((List.forall₂_iff_zip.1 h.nodes).2 hzip).fields.withParent⟩

theorem forall₂_right {α β : Type} {R : α → β → Prop} {xs : List α} {ys : List β}
    (h : List.Forall₂ R xs ys) {y : β} (hy : y ∈ ys) : ∃ x ∈ xs, R x y := by
  induction h with
  | nil => cases hy
  | @cons a b as bs hab _ ih =>
    rcases List.mem_cons.1 hy with rfl | hy
    · exact ⟨a, List.mem_cons_self, hab⟩
    · obtain ⟨x, hx, hxy⟩ := ih hy
      exact ⟨x, List.mem_cons_of_mem _ hx, hxy⟩

theorem forall₂_map_eq {α β γ : Type} {R : α → β → Prop} {f : α → γ} {g : β → γ}
    {xs : List α} {ys : List β} (h : List.Forall₂ R xs ys) (hfg : ∀ x ∈ xs, ∀ y, R x y → f x = g y) :
    ys.map g = xs.map f := by
  induction h with
  | nil => rfl
  | cons hab _ ih =>
    rw [List.map_cons, List.map_cons, ih fun x hx => hfg x (List.mem_cons_of_mem _ hx),
      hfg _ List.mem_cons_self _ hab]

theorem copyName_of_lookup {id new : NodeId}
    (h : lookup context'.nodesBySourceId id.text = some new) : copyName context' id = new := by
  rw [copyName, h, Option.getD_some]

theorem Copied.dependencies_perm (h : Copied source context db db' context' copies)
    (hcontext : context'.revision = context.revision)
    (hfresh : FreshRevision db context.revision.revisionId) :
    ((dependenciesIn db' context.revision.revisionId).map (dependencyFields id)).Perm
      ((dependenciesIn db source.revisionId).map (dependencyFields (copyName context'))) := by
  obtain ⟨ds, hds, hrows⟩ := h.dependencies
  have hnew : dependenciesIn db' context.revision.revisionId = ds := by
    rw [dependenciesIn, hrows,
      filter_append_of_none fun d hd => by simpa using hfresh.dependencies d hd]
    refine List.filter_eq_self.2 fun d hd => ?_
    obtain ⟨d₀, -, -, -, hcopy⟩ := forall₂_right hds hd
    rw [hcopy, hcontext]
    exact decide_eq_true rfl
  have hfields : ds.map (dependencyFields id) =
      (revisionDependencies db source.revisionId).map (dependencyFields (copyName context')) := by
    refine forall₂_map_eq hds fun d₀ _ d hcopy => ?_
    obtain ⟨hnode, hdependsOn, hd⟩ := hcopy
    rw [dependencyFields, dependencyFields, copyName_of_lookup hnode,
      copyName_of_lookup hdependsOn, hd]
    rfl
  rw [hnew, hfields]
  exact (orderBy_perm _ _ _).map _

theorem Copied.dependenciesIn_old (h : Copied source context db db' context' copies)
    (hcontext : context'.revision = context.revision) {old : RevisionId}
    (hold : old ≠ context.revision.revisionId) :
    dependenciesIn db' old = dependenciesIn db old := by
  obtain ⟨ds, hds, hrows⟩ := h.dependencies
  rw [dependenciesIn, hrows]
  refine filter_append_keeps fun d hd => ?_
  obtain ⟨d₀, -, -, -, hcopy⟩ := forall₂_right hds hd
  rw [hcopy, hcontext]
  simpa using Ne.symm hold

/-- Rows that hang on the copies, next to the rows that hang on the source. -/
theorem copies_at {ρ : Type} (node : ρ → NodeId) {R : ρ → ρ → Prop} {xs rows rs : List ρ}
    (h : Copied source context db db' context' copies)
    (hR : ∀ x y, R x y → lookup context'.nodesBySourceId (node x).text = some (node y))
    (hold : ∀ x ∈ rows, ∃ n ∈ db.nodes.rows, n.nodeId = node x)
    (hxs : ∀ x ∈ xs, ∃ n ∈ nodesIn db source.revisionId, n.nodeId = node x)
    (hrs : List.Forall₂ R xs rs) {n : PlanNode} (hn : n ∈ nodesIn db source.revisionId) :
    List.Forall₂ R (xs.filter fun x => node x = n.nodeId)
      ((rows ++ rs).filter fun x => node x = copyName context' n.nodeId) := by
  obtain ⟨c, hc⟩ := h.exists_copy hn
  have hnone : ∀ x ∈ rows, ¬ decide (node x = copyName context' n.nodeId) = true := by
    intro x hx heq
    obtain ⟨m, hm, hid⟩ := hold x hx
    rw [decide_eq_true_eq, h.copyName_eq hc, ← hid] at heq
    exact h.copyId_new hc m hm heq
  rw [filter_append_of_none hnone]
  clear hnone
  induction hrs with
  | nil => exact .nil
  | @cons x y xs ys hxy _ ih =>
    obtain ⟨m, hm, hid⟩ := hxs x List.mem_cons_self
    have hname : copyName context' m.nodeId = node y := copyName_of_lookup (hid ▸ hR x y hxy)
    have hrest := ih fun x hx => hxs x (List.mem_cons_of_mem _ hx)
    by_cases hx : node x = n.nodeId
    · have hy : node y = copyName context' n.nodeId := by rw [← hname, hid, hx]
      rw [List.filter_cons_of_pos (by simpa using hx), List.filter_cons_of_pos (by simpa using hy)]
      exact .cons hxy hrest
    · have hy : node y ≠ copyName context' n.nodeId := by
        intro hy
        rw [← hname] at hy
        exact hx (hid ▸ congrArg PlanNode.nodeId (h.copyName_injective hm hn hy))
      rw [List.filter_cons_of_neg (by simpa using hx), List.filter_cons_of_neg (by simpa using hy)]
      exact hrest

theorem hangsOn_nodes {ρ : Type} {node : ρ → NodeId} {key : ρ → String} {rows : List ρ} :
    ∀ x ∈ orderBy (fun _ => 0) key (rows.filter fun x =>
      ((revisionNodes db source.revisionId).map PlanNode.nodeId).contains (node x)),
      ∃ n ∈ nodesIn db source.revisionId, n.nodeId = node x := by
  intro x hx
  rw [(orderBy_perm _ _ _).mem_iff, List.mem_filter, List.contains_iff_mem] at hx
  obtain ⟨n, hn, hid⟩ := List.mem_map.1 hx.2
  exact ⟨n, mem_nodesIn.2 (mem_revisionNodes.1 hn), hid⟩

theorem hangsOn_perm {ρ : Type} (node : ρ → NodeId) (key : ρ → String) (rows : List ρ)
    {n : PlanNode} (hn : n ∈ nodesIn db source.revisionId) :
    ((orderBy (fun _ => 0) key (rows.filter fun x =>
      ((revisionNodes db source.revisionId).map PlanNode.nodeId).contains (node x))).filter
        fun x => node x = n.nodeId).Perm (rows.filter fun x => node x = n.nodeId) := by
  refine ((orderBy_perm _ _ _).filter _).trans (List.Perm.of_eq ?_)
  rw [List.filter_filter]
  refine List.filter_congr fun x _ => ?_
  by_cases hx : node x = n.nodeId
  · have hmem : n.nodeId ∈ (revisionNodes db source.revisionId).map PlanNode.nodeId :=
      List.mem_map_of_mem (mem_revisionNodes.2 (mem_nodesIn.1 hn))
    simp only [hx, decide_true, Bool.true_and]
    exact List.contains_iff_mem.2 hmem
  · simp [hx]

/-- The requirements of a copy, when no resource is linked to those of the node. -/
theorem Copied.requirements_perm (h : Copied source context db db' context' copies)
    (hkeys : ∀ q ∈ db.requirements.rows, ∃ n ∈ db.nodes.rows, n.nodeId = q.node) {n : PlanNode}
    (hn : n ∈ nodesIn db source.revisionId)
    (hresource : ∀ r ∈ requirementsAt db n.nodeId, r.resource = none) :
    ((requirementsAt db' (copyName context' n.nodeId)).map requirementFields).Perm
      ((requirementsAt db n.nodeId).map requirementFields) := by
  obtain ⟨rs, hrs, hrows⟩ := h.requirements
  have hpairs := copies_at PlanRequirement.node h (fun _ _ hxy => hxy.1) hkeys
    hangsOn_nodes hrs hn
  have hperm := hangsOn_perm PlanRequirement.node (fun r => r.requirementId.text)
    db.requirements.rows hn
  rw [requirementsAt, hrows]
  have hfields : _ = _ := forall₂_map_eq (f := requirementFields) (g := requirementFields) hpairs
    fun x hx y hxy => by
      have hnone : x.resource = none :=
        hresource x (hperm.mem_iff.1 hx)
      rw [hxy.2, requirementFields, requirementFields, hnone]
  rw [hfields]
  exact hperm.map _

/-- The impacts of a copy. -/
theorem Copied.impacts_perm (h : Copied source context db db' context' copies)
    (hkeys : ∀ i ∈ db.impacts.rows, ∃ n ∈ db.nodes.rows, n.nodeId = i.node) {n : PlanNode}
    (hn : n ∈ nodesIn db source.revisionId) :
    ((impactsAt db' (copyName context' n.nodeId)).map impactFields).Perm
      ((impactsAt db n.nodeId).map impactFields) := by
  obtain ⟨is, his, hrows⟩ := h.impacts
  have hpairs := copies_at PlanCapacityImpact.node h (fun _ _ hxy => hxy.1) hkeys
    hangsOn_nodes his hn
  have hperm := hangsOn_perm PlanCapacityImpact.node (fun i => i.impactId.text) db.impacts.rows hn
  rw [impactsAt, hrows]
  have hfields : _ = _ := forall₂_map_eq (f := impactFields) (g := impactFields) hpairs
    fun x _ y hxy => by
      rw [hxy.2]
      rfl
  rw [hfields]
  exact hperm.map _

/-- Nothing is added to the nodes that were there. -/
theorem Copied.requirementsAt_old (h : Copied source context db db' context' copies)
    {n : PlanNode} (hn : n ∈ db.nodes.rows) :
    requirementsAt db' n.nodeId = requirementsAt db n.nodeId := by
  obtain ⟨rs, hrs, hrows⟩ := h.requirements
  rw [requirementsAt, hrows]
  refine filter_append_keeps fun r hr => ?_
  obtain ⟨r₀, hr₀, hlookup, -⟩ := forall₂_right hrs hr
  obtain ⟨m, hm, hid⟩ := hangsOn_nodes r₀ hr₀
  obtain ⟨c, hc⟩ := h.exists_copy hm
  have hnode : r.node = c.nodeId := by
    rw [← copyName_of_lookup hlookup, ← hid, h.copyName_eq hc]
  simpa [hnode] using Ne.symm (h.copyId_new hc n hn)

theorem Copied.impactsAt_old (h : Copied source context db db' context' copies)
    {n : PlanNode} (hn : n ∈ db.nodes.rows) :
    impactsAt db' n.nodeId = impactsAt db n.nodeId := by
  obtain ⟨is, his, hrows⟩ := h.impacts
  rw [impactsAt, hrows]
  refine filter_append_keeps fun i hi => ?_
  obtain ⟨i₀, hi₀, hlookup, -⟩ := forall₂_right his hi
  obtain ⟨m, hm, hid⟩ := hangsOn_nodes i₀ hi₀
  obtain ⟨c, hc⟩ := h.exists_copy hm
  have hnode : i.node = c.nodeId := by
    rw [← copyName_of_lookup hlookup, ← hid, h.copyName_eq hc]
  simpa [hnode] using Ne.symm (h.copyId_new hc n hn)

end

/-! ## Change sets of notes -/

/-- The same nodes and the same rows on them. -/
structure SamePlan (db db' : PlanDb) : Prop where
  nodes : db'.nodes = db.nodes
  dependencies : db'.dependencies = db.dependencies
  requirements : db'.requirements = db.requirements
  impacts : db'.impacts = db.impacts

theorem SamePlan.nodesIn (h : SamePlan db db') (r : RevisionId) :
    Planning.nodesIn db' r = Planning.nodesIn db r := by
  rw [Planning.nodesIn, Planning.nodesIn, h.nodes]

theorem SamePlan.dependenciesIn (h : SamePlan db db') (r : RevisionId) :
    Planning.dependenciesIn db' r = Planning.dependenciesIn db r := by
  rw [Planning.dependenciesIn, Planning.dependenciesIn, h.dependencies]

theorem SamePlan.requirementsAt (h : SamePlan db db') (n : NodeId) :
    Planning.requirementsAt db' n = Planning.requirementsAt db n := by
  rw [Planning.requirementsAt, Planning.requirementsAt, h.requirements]

theorem SamePlan.impactsAt (h : SamePlan db db') (n : NodeId) :
    Planning.impactsAt db' n = Planning.impactsAt db n := by
  rw [Planning.impactsAt, Planning.impactsAt, h.impacts]

theorem applyNotes_ok {context context' : ApplicationContext}
    {operations : List PlanChangeOperation}
    (hnotes : ∀ o ∈ operations, o.operationType = OperationType.note.value)
    (h : operations.foldlM (applyOperation py) context db = .ok context' db') : db' = db := by
  refine foldlM_rel (R := fun p q => q.2 = p.2) (fun _ => rfl) (fun _ _ _ hpq hqr => hqr.trans hpq)
    (fun o ho c s c' s' hx => ?_) h
  rw [applyOperation, hnotes o ho, OperationType.ofValue?_value] at hx
  exact (by simpa using hx : _ ∧ s = s').2.symm

section

variable {locked : PlanChangeSet} {source revision : PlanRevision} {start copied applied : PlanDb}
  {context₁ context₂ : ApplicationContext}

theorem Stages.start_samePlan
    (h : Stages py call locked db db' source revision start copied applied context₁ context₂) :
    SamePlan db start :=
  ⟨by rw [h.entered], by rw [h.entered], by rw [h.entered], by rw [h.entered]⟩

theorem Stages.copied_samePlan
    (h : Stages py call locked db db' source revision start copied applied context₁ context₂)
    (hnotes : ∀ o ∈ db.operations.rows, o.changeSet = locked.changeSetId →
      o.operationType = OperationType.note.value) : SamePlan copied db' := by
  have hops : ∀ o ∈ changeSetOperations db locked.changeSetId,
      o.operationType = OperationType.note.value := by
    intro o ho
    rw [changeSetOperations, (orderBy_perm _ _ _).mem_iff, List.mem_filter, decide_eq_true_eq] at ho
    exact hnotes o ho.1 ho.2
  have hsame := applyNotes_ok hops h.operations
  obtain ⟨account, revisionMetadata, changeSetMetadata, -, hresult⟩ := h.result
  rw [hresult, hsame]
  exact ⟨rfl, rfl, rfl, rfl⟩

theorem Stages.fresh
    (h : Stages py call locked db db' source revision start copied applied context₁ context₂)
    (hkeys : ForeignKeys db) : FreshRevision start revision.revisionId := by
  constructor
  · intro n hn heq
    rw [h.start_samePlan.nodes] at hn
    obtain ⟨r, hr, hid⟩ := hkeys.nodes n hn
    exact h.free r hr (hid.trans heq)
  · intro d hd heq
    rw [h.start_samePlan.dependencies] at hd
    obtain ⟨r, hr, hid⟩ := hkeys.dependencies d hd
    exact h.free r hr (hid.trans heq)

end

/-- What `value or []` leaves as it is. -/
def ListLike (v : Json) : Prop := truthy v = true ∨ v = .arr []

theorem orEmptyList_eq_self {v : Json} : orEmptyList v = v ↔ ListLike v := by
  unfold orEmptyList ListLike
  by_cases h : truthy v = true
  · simp [h]
  · rw [if_neg h]
    exact ⟨fun heq => .inr heq.symm, fun hor => (hor.resolve_left h).symm⟩

theorem listLike_orEmptyList (v : Json) : ListLike (orEmptyList v) := by
  unfold orEmptyList
  split
  · exact .inl (by assumption)
  · exact .inr rfl

/-- A node that the copy loses nothing of. -/
structure Copyable (db : PlanDb) (n : PlanNode) : Prop where
  resources : ∀ r ∈ requirementsAt db n.nodeId, r.resource = none
  requiredSkills : ListLike n.requiredSkills
  requiredResources : ListLike n.requiredResources
  completionCriteria : ListLike n.completionCriteria

theorem SameNode.lists {n m : PlanNode} (h : SameNode n m) :
    m.requiredSkills = n.requiredSkills ∧ m.requiredResources = n.requiredResources ∧
      m.completionCriteria = n.completionCriteria := by
  have hskills := congrArg PlanNode.requiredSkills h
  have hresources := congrArg PlanNode.requiredResources h
  have hcriteria := congrArg PlanNode.completionCriteria h
  exact ⟨hskills, hresources, hcriteria⟩

theorem Copyable.withLists_eq {n : PlanNode} (h : Copyable db n) : withLists n = n := by
  rw [withLists, orEmptyList_eq_self.2 h.requiredSkills, orEmptyList_eq_self.2 h.requiredResources,
    orEmptyList_eq_self.2 h.completionCriteria]

section

variable {source : PlanRevision} {context context' : ApplicationContext} {copies : List PlanNode}
  {rename : NodeId → NodeId}

theorem Copied.isCopy (h : Copied source context db db' context' copies)
    (hcontext : context'.revision = context.revision)
    (hfresh : FreshRevision db context.revision.revisionId) (hkeys : ForeignKeys db)
    (hnodes : ∀ n ∈ nodesIn db source.revisionId, Copyable db n) :
    IsCopy db db' source.revisionId context.revision.revisionId (copyName context') where
  maps n hn := (hnodes n hn).withLists_eq ▸ h.maps hfresh hn
  injective _ hn _ hm heq := h.copyName_injective hn hm heq
  surjective _ hm :=
    have ⟨n, hn, hid, _⟩ := h.surjective hfresh hm
    ⟨n, hn, hid⟩
  dependencies := h.dependencies_perm hcontext hfresh
  requirements n hn := h.requirements_perm hkeys.requirements hn (hnodes n hn).resources
  impacts _ hn := h.impacts_perm hkeys.impacts hn

theorem Copied.unchanged (h : Copied source context db db' context' copies)
    (hcontext : context'.revision = context.revision)
    (hold : source.revisionId ≠ context.revision.revisionId) :
    Unchanged db db' source.revisionId where
  nodes := h.nodesIn_old hold
  dependencies := h.dependenciesIn_old hcontext hold
  requirements _ hn := h.requirementsAt_old (mem_nodesIn.1 hn).1
  impacts _ hn := h.impactsAt_old (mem_nodesIn.1 hn).1

/-- A requirement of a new node was entered by the copy, which links no resource. -/
theorem Copied.resource_none (h : Copied source context db db' context' copies)
    (hfresh : FreshRevision db context.revision.revisionId) (hkeys : ForeignKeys db) {m : PlanNode}
    (hm : m ∈ nodesIn db' context.revision.revisionId) :
    ∀ r ∈ requirementsAt db' m.nodeId, r.resource = none := by
  intro r hr
  obtain ⟨hmem, hnode⟩ := mem_requirementsAt.1 hr
  obtain ⟨rs, hrs, hrows⟩ := h.requirements
  rw [hrows] at hmem
  rcases List.mem_append.1 hmem with hmem | hmem
  · obtain ⟨n, hn, hid⟩ := hkeys.requirements r hmem
    have hn' : n ∈ db'.nodes.rows := by
      rw [h.nodeRows]
      exact List.mem_append_left _ hn
    obtain ⟨hm, hrevision⟩ := mem_nodesIn.1 hm
    have hsame : n = m := db'.nodes.eq_of_pk hn' hm (hid.trans hnode)
    exact absurd (hsame ▸ hrevision) (hfresh.nodes n hn)
  · obtain ⟨r₀, -, -, hcopy⟩ := forall₂_right hrs hmem
    rw [hcopy]

/-- What is lost cannot be renamed back. -/
theorem Copied.copyable (h : Copied source context db db' context' copies)
    (hfresh : FreshRevision db context.revision.revisionId) (hkeys : ForeignKeys db)
    (hcopy : IsCopy db db' source.revisionId context.revision.revisionId rename) {n : PlanNode}
    (hn : n ∈ nodesIn db source.revisionId) : Copyable db n := by
  obtain ⟨m, hm, hid, hsame, -⟩ := hcopy.maps n hn
  obtain ⟨n₀, -, -, hlists⟩ := h.surjective hfresh hm
  refine ⟨fun r hr => ?_, ?_, ?_, ?_⟩
  · have hmem : requirementFields r ∈ (requirementsAt db' (rename n.nodeId)).map requirementFields :=
      (hcopy.requirements n hn).mem_iff.2 (List.mem_map_of_mem hr)
    obtain ⟨r', hr', heq⟩ := List.mem_map.1 hmem
    have hresource := congrArg PlanRequirement.resource heq
    rw [← show r'.resource = r.resource from hresource]
    exact h.resource_none hfresh hkeys hm r' (hid ▸ hr')
  · rw [← hsame.lists.1, hlists.lists.1]
    exact listLike_orEmptyList _
  · rw [← hsame.lists.2.1, hlists.lists.2.1]
    exact listLike_orEmptyList _
  · rw [← hsame.lists.2.2, hlists.lists.2.2]
    exact listLike_orEmptyList _

end

theorem IsCopy.congr {a a' b b' : PlanDb} {old new : RevisionId} {rename : NodeId → NodeId}
    (ha : SamePlan a a') (hb : SamePlan b b') (h : IsCopy a b old new rename) :
    IsCopy a' b' old new rename := by
  constructor
  · simpa only [ha.nodesIn, hb.nodesIn] using h.maps
  · simpa only [ha.nodesIn] using h.injective
  · simpa only [ha.nodesIn, hb.nodesIn] using h.surjective
  · simpa only [ha.dependenciesIn, hb.dependenciesIn] using h.dependencies
  · simpa only [ha.nodesIn, ha.requirementsAt, hb.requirementsAt] using h.requirements
  · simpa only [ha.nodesIn, ha.impactsAt, hb.impactsAt] using h.impacts

theorem Unchanged.congr {a a' b b' : PlanDb} {old : RevisionId} (ha : SamePlan a a')
    (hb : SamePlan b b') (h : Unchanged a b old) : Unchanged a' b' old := by
  constructor
  · simpa only [ha.nodesIn, hb.nodesIn] using h.nodes
  · simpa only [ha.dependenciesIn, hb.dependenciesIn] using h.dependencies
  · simpa only [ha.nodesIn, ha.requirementsAt, hb.requirementsAt] using h.requirements
  · simpa only [ha.nodesIn, ha.impactsAt, hb.impactsAt] using h.impacts

theorem SamePlan.symm (h : SamePlan db db') : SamePlan db' db :=
  ⟨h.nodes.symm, h.dependencies.symm, h.requirements.symm, h.impacts.symm⟩

theorem SamePlan.foreignKeys {start : PlanDb} (h : SamePlan db start)
    (hrevisions : db.revisions.rows <+: start.revisions.rows) (hkeys : ForeignKeys db) :
    ForeignKeys start := by
  have hsub := hrevisions.subset
  refine ⟨fun n hn => ?_, fun d hd => ?_, fun q hq => ?_, fun i hi => ?_⟩
  · obtain ⟨r, hr, hid⟩ := hkeys.nodes n (h.nodes ▸ hn)
    exact ⟨r, hsub hr, hid⟩
  · obtain ⟨r, hr, hid⟩ := hkeys.dependencies d (h.dependencies ▸ hd)
    exact ⟨r, hsub hr, hid⟩
  · rw [h.nodes]
    exact hkeys.requirements q (h.requirements ▸ hq)
  · rw [h.nodes]
    exact hkeys.impacts i (h.impacts ▸ hi)

theorem SamePlan.copyable {start : PlanDb} (h : SamePlan db start) {n : PlanNode}
    (hn : Copyable db n) : Copyable start n :=
  ⟨h.requirementsAt n.nodeId ▸ hn.resources, hn.requiredSkills, hn.requiredResources,
    hn.completionCriteria⟩

section

variable {locked : PlanChangeSet} {source revision : PlanRevision} {start copied applied : PlanDb}
  {context₁ context₂ : ApplicationContext}

/-- Where the new revision is a renaming, nothing was lost. -/
theorem Stages.copyable
    (h : Stages py call locked db db' source revision start copied applied context₁ context₂)
    (hnotes : ∀ o ∈ db.operations.rows, o.changeSet = locked.changeSetId →
      o.operationType = OperationType.note.value) (hkeys : ForeignKeys db)
    {rename : NodeId → NodeId}
    (hcopy : IsCopy db db' locked.planRevision revision.revisionId rename) {n : PlanNode}
    (hn : n ∈ nodesIn db locked.planRevision) : Copyable db n := by
  obtain ⟨-, hsourceId⟩ := Table.get?_eq_some.1 h.fetched
  obtain ⟨copies, hcopied⟩ := copyRevisionContents_ok rfl h.copy
  have hstart := h.start_samePlan
  have hkeys' : ForeignKeys start :=
    hstart.foreignKeys (h.enteredRows ▸ List.prefix_append _ _) hkeys
  rw [← hsourceId] at hcopy hn
  have hcopy' : IsCopy start copied source.revisionId revision.revisionId rename :=
    hcopy.congr hstart (h.copied_samePlan hnotes).symm
  exact hstart.symm.copyable
    (hcopied.copyable (h.fresh hkeys) hkeys' hcopy' (hstart.nodesIn _ ▸ hn))

/-- Where nothing is lost, the new revision is a renaming. -/
theorem Stages.isCopy
    (h : Stages py call locked db db' source revision start copied applied context₁ context₂)
    (hnotes : ∀ o ∈ db.operations.rows, o.changeSet = locked.changeSetId →
      o.operationType = OperationType.note.value) (hkeys : ForeignKeys db)
    (hnodes : ∀ n ∈ nodesIn db locked.planRevision, Copyable db n) :
    (∃ rename, IsCopy db db' locked.planRevision revision.revisionId rename) ∧
      Unchanged db db' locked.planRevision := by
  obtain ⟨hsource, hsourceId⟩ := Table.get?_eq_some.1 h.fetched
  obtain ⟨copies, hcopied⟩ := copyRevisionContents_ok rfl h.copy
  have hstart := h.start_samePlan
  have hend := h.copied_samePlan hnotes
  have hcontext : context₁.revision = revision := by
    rw [hcopied.remembered, (rememberCopies_frame _).1]
    rfl
  have hkeys' : ForeignKeys start :=
    hstart.foreignKeys (h.enteredRows ▸ List.prefix_append _ _) hkeys
  rw [← hsourceId] at hnodes ⊢
  have hcopy : IsCopy start copied source.revisionId revision.revisionId (copyName context₁) :=
    hcopied.isCopy hcontext (h.fresh hkeys) hkeys' fun n hn =>
      hstart.copyable (hnodes n (hstart.nodesIn _ ▸ hn))
  have hunchanged := hcopied.unchanged hcontext (h.free source hsource)
  exact ⟨⟨_, hcopy.congr hstart.symm hend⟩, hunchanged.congr hstart.symm hend⟩

end

/-- **Change sets of notes.** The new revision is the source renamed, and the source is unchanged,
exactly when no requirement of the source names a resource and no list of its nodes is falsy without
being a list. -/
theorem applyNotes_isCopy_iff {newId : RevisionId} (h : applyPlanChangeSet py call db = .ok newId db')
    {locked : PlanChangeSet} (hlocked : locked ∈ db.changeSets.rows)
    (hid : locked.changeSetId = call.changeSetId) (hstatus : locked.status ≠ .applied)
    (hnotes : ∀ o ∈ db.operations.rows, o.changeSet = locked.changeSetId →
      o.operationType = OperationType.note.value) (hkeys : ForeignKeys db) :
    ((∃ rename, IsCopy db db' locked.planRevision newId rename) ∧
      Unchanged db db' locked.planRevision) ↔
      ∀ n ∈ nodesIn db locked.planRevision, Copyable db n := by
  obtain ⟨source, revision, start, copied, applied, context₁, context₂, stages, rfl⟩ :=
    applyPlanChangeSet_stages h hlocked hid hstatus
  constructor
  · rintro ⟨⟨rename, hcopy⟩, -⟩ n hn
    exact stages.copyable hnotes hkeys hcopy hn
  · exact stages.isCopy hnotes hkeys

/-- The number as a column, cut to its range. -/
def positive (n : Nat) : PositiveInt := ⟨min n 4294967295, Nat.min_le_right _ _⟩

theorem zero_fits (digits : Nat) : (0 : Int).natAbs < 10 ^ digits := Nat.pow_pos (by decide)

/-- A planned node of the pilot plan. -/
def pilotNode (nodeId code : String) (parent : Option NodeId) (sequence : PositiveInt) :
    PlanNode where
  nodeId := keyOf key96_pos nodeId
  revision := pilotRevision.revisionId
  parent := parent
  sequence := sequence
  code := .cut code
  title := .cut code
  nodeType := .cut NodeType.workPackage
  status := .cut NodeStatus.planned
  isRequired := true
  isExpandable := false
  allowSimulationAdjustment := true
  description := ""
  plannedStartDay := none
  plannedDurationDays := positive 1
  plannedEndDay := none
  estimatedCostLow := ⟨0, zero_fits 14⟩
  estimatedCostExpected := ⟨0, zero_fits 14⟩
  estimatedCostHigh := ⟨0, zero_fits 14⟩
  requiredPeopleMin := positive 0
  requiredPeopleMax := positive 0
  requiredPersonDays := ⟨0, zero_fits 10⟩
  requiredSkills := .arr []
  requiredResources := .arr []
  completionCriteria := .arr []
  riskNotes := ""
  createdAt := 0
  updatedAt := none
  metadata := .obj []

/-- The first node of the pilot plan. -/
def pilotA : PlanNode := pilotNode "node-a" "A" none (positive 10)

/-- The second node, under the first. -/
def pilotB : PlanNode := pilotNode "node-b" "B" (some pilotA.nodeId) (positive 20)

theorem pilotNodes_unique : ([pilotA, pilotB].map PlanNode.nodeId).Nodup := by decide +kernel

/-- A requirement of the first node. -/
def pilotRequirement (resource : Option String) : PlanRequirement where
  requirementId := keyOf key96_pos "req-a"
  node := pilotA.nodeId
  resource := resource
  requirementType := .cut RequirementType.material
  name := .cut "steel"
  quantity := ⟨0, zero_fits 14⟩
  unit := .cut ""
  unitCost := ⟨0, zero_fits 14⟩
  totalCostEstimate := ⟨0, zero_fits 14⟩
  isMust := true
  notes := ""
  metadata := .obj []

/-- The pilot plan with two nodes, a dependency and a requirement. -/
def pilotPlan (resource : Option String) : PlanDb :=
  { pilotDb with
    nodes := ⟨[pilotA, pilotB], pilotNodes_unique, List.nodup_nil⟩
    dependencies := tableOf [{
      dependencyId := keyOf key96_pos "dep-a-b"
      revision := pilotRevision.revisionId
      node := pilotB.nodeId
      dependsOn := pilotA.nodeId
      dependencyType := .cut DependencyType.finishToStart
      description := ""
      metadata := .obj [] }]
    requirements := tableOf [pilotRequirement resource] }

theorem pilotPlan_notes (resource : Option String) : ∀ o ∈ (pilotPlan resource).operations.rows,
    o.changeSet = "first" → o.operationType = OperationType.note.value := by
  show ∀ o ∈ pilotDb.operations.rows, _
  decide +kernel

theorem pilotPlan_requirements (resource : Option String) :
    (pilotPlan resource).requirements.rows = [pilotRequirement resource] := rfl

theorem pilotPlan_keys (resource : Option String) : ForeignKeys (pilotPlan resource) where
  nodes n hn := by
    refine ⟨pilotRevision, List.mem_cons_self, ?_⟩
    rcases List.mem_cons.1 (show n ∈ [pilotA, pilotB] from hn) with rfl | hn
    · rfl
    · rw [List.mem_singleton.1 hn]
      rfl
  dependencies d hd := by
    refine ⟨pilotRevision, List.mem_cons_self, ?_⟩
    rw [List.mem_singleton.1 hd]
  requirements q hq := by
    obtain rfl := List.mem_singleton.1 (pilotPlan_requirements resource ▸ hq)
    exact ⟨pilotA, List.mem_cons_self, rfl⟩
  impacts _ hi := absurd hi List.not_mem_nil

theorem pilotPlan_copyable : ∀ n ∈ nodesIn (pilotPlan none) pilotRevision.revisionId,
    Copyable (pilotPlan none) n := by
  intro n hn
  have hresources : ∀ r ∈ requirementsAt (pilotPlan none) n.nodeId, r.resource = none := by
    intro r hr
    obtain rfl := List.mem_singleton.1 (mem_requirementsAt.1 hr).1
    rfl
  have hrow : n ∈ [pilotA, pilotB] := (mem_nodesIn.1 hn).1
  rcases List.mem_cons.1 hrow with rfl | hrow
  · exact ⟨hresources, .inr rfl, .inr rfl, .inr rfl⟩
  · obtain rfl := List.mem_singleton.1 hrow
    exact ⟨hresources, .inr rfl, .inr rfl, .inr rfl⟩

theorem applyNotes_isCopy_pilot : ∃ newId db',
    applyPlanChangeSet textPython publishFirst (pilotPlan none) = .ok newId db' ∧
    (∃ rename, IsCopy (pilotPlan none) db' pilotRevision.revisionId newId rename) ∧
    Unchanged (pilotPlan none) db' pilotRevision.revisionId := by
  obtain ⟨newId, db', h⟩ := returns_iff.1 (show returns (applyPlanChangeSet textPython publishFirst)
    (pilotPlan none) = true by decide +kernel)
  exact ⟨newId, db', h, (applyNotes_isCopy_iff h
    (List.mem_cons_self : pilotChangeSet "first" ∈ (pilotPlan none).changeSets.rows) rfl (by decide)
    (pilotPlan_notes none) (pilotPlan_keys none)).2 pilotPlan_copyable⟩

/-- A linked resource is lost. -/
theorem pilotPlan_resource_not_isCopy : ∃ newId db',
    applyPlanChangeSet textPython publishFirst (pilotPlan (some "steel")) = .ok newId db' ∧
    ¬ ∃ rename, IsCopy (pilotPlan (some "steel")) db' pilotRevision.revisionId newId rename := by
  obtain ⟨newId, db', h⟩ := returns_iff.1 (show returns (applyPlanChangeSet textPython publishFirst)
    (pilotPlan (some "steel")) = true by decide +kernel)
  refine ⟨newId, db', h, fun ⟨rename, hcopy⟩ => ?_⟩
  obtain ⟨source, revision, start, copied, applied, context₁, context₂, stages, rfl⟩ :=
    applyPlanChangeSet_stages h (List.mem_cons_self : pilotChangeSet "first" ∈ _) rfl (by decide)
  have hcopyable := stages.copyable (pilotPlan_notes _) (pilotPlan_keys _) hcopy
    (mem_nodesIn.2 ⟨List.mem_cons_self, rfl⟩ : pilotA ∈ _)
  have hresource := hcopyable.resources (pilotRequirement (some "steel"))
    (mem_requirementsAt.2 ⟨List.mem_cons_self, rfl⟩)
  cases hresource

end LiveOs.Planning
