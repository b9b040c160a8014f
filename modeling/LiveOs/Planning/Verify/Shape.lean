import LiveOs.Lib.Acyclic
import LiveOs.Planning.Verify.Isomorphism

/-!
# The shape of a revision

Parents and dependencies of a new revision always stay inside it. Whether they stay acyclic is up to
the operations: each addition of a dependency and each update of a parent is taken as it is.
-/

namespace LiveOs.Planning

open Lib Relation

variable {py : Python} {call : ApplyCall} {operation : PlanChangeOperation} {db db' : PlanDb}
  {context context' : ApplicationContext}

/-! ## Parents and dependencies as relations -/

/-- The node stands under the parent. -/
def ParentOf (db : PlanDb) (revision : RevisionId) (n p : NodeId) : Prop :=
  ∃ row ∈ nodesIn db revision, row.nodeId = n ∧ row.parent = some p

/-- The node depends on the other. -/
def DependsOn (db : PlanDb) (revision : RevisionId) (n d : NodeId) : Prop :=
  ∃ row ∈ dependenciesIn db revision, row.node = n ∧ row.dependsOn = d

def HasNode (db : PlanDb) (revision : RevisionId) (id : NodeId) : Prop :=
  ∃ row ∈ nodesIn db revision, row.nodeId = id

/-- Parents and the ends of dependencies are nodes of the revision. -/
structure EndsInside (db : PlanDb) (revision : RevisionId) : Prop where
  parents : ∀ n p, ParentOf db revision n p → HasNode db revision p
  dependencies : ∀ n d, DependsOn db revision n d → HasNode db revision n ∧ HasNode db revision d

def UniqueCodes (db : PlanDb) (revision : RevisionId) : Prop :=
  ((nodesIn db revision).map PlanNode.code).Nodup

/-- Two nodes of a revision with one code are one node. -/
theorem UniqueCodes.eq_of_code {revision : RevisionId} (h : UniqueCodes db revision) {n m : PlanNode}
    (hn : n ∈ nodesIn db revision) (hm : m ∈ nodesIn db revision)
    (hcode : n.code.text = m.code.text) : n = m :=
  List.inj_on_of_nodup_map h hn hm (VarChar.text_injective hcode)

/-! ## Resolved references -/

theorem resolveKeys_mem {payload : List (String × Json)} {find : String → Option LiveNode}
    {keys : List String} {n : LiveNode} {nodes : List LiveNode}
    (hfind : ∀ key n, find key = some n → n ∈ nodes)
    (h : resolveKeys py payload find keys = some n) : n ∈ nodes := by
  obtain ⟨key, -, hkey⟩ := List.exists_of_findSome?_eq_some h
  dsimp only at hkey
  split at hkey
  · cases hkey
  · exact hfind _ _ hkey

theorem nodeOfId?_mem {id : String} {n : LiveNode} (h : context.nodeOfId? id = some n) :
    n ∈ context.nodesByNewId := by
  unfold ApplicationContext.nodeOfId? at h
  split at h
  · exact List.mem_of_find?_eq_some h
  · exact List.mem_of_find?_eq_some h

theorem nodeOfCode?_mem {code : String} {n : LiveNode} (h : context.nodeOfCode? code = some n) :
    n ∈ context.nodesByNewId := by
  obtain ⟨id, -, hid⟩ := Option.bind_eq_some_iff.1 h
  exact List.mem_of_find?_eq_some hid

/-- A reference that resolves names a node of the context. -/
theorem resolveNode_mem {payload : List (String × Json)} {idKeys codeKeys : List String}
    {n : LiveNode} (h : resolveNode py payload context idKeys codeKeys = .ok n) :
    n ∈ context.nodesByNewId := by
  unfold resolveNode at h
  split at h
  · rename_i hid
    obtain rfl := Except.ok.inj h
    exact resolveKeys_mem (fun _ _ => nodeOfId?_mem) hid
  · split at h
    · rename_i hcode
      obtain rfl := Except.ok.inj h
      exact resolveKeys_mem (fun _ _ => nodeOfCode?_mem) hcode
    · cases h

theorem resolveOptionalParent_mem {payload : List (String × Json)} {p : NodeId}
    (h : resolveOptionalParent py payload context = .ok (some p)) :
    ∃ n ∈ context.nodesByNewId, n.nodeId = p := by
  unfold resolveOptionalParent at h
  split at h
  · cases h
  · cases hn : resolveNode py payload context ["parent_id"] ["parent_code"] with
    | error e =>
      rw [hn] at h
      cases h
    | ok n =>
      rw [hn] at h
      obtain rfl := Option.some.inj (Except.ok.inj h)
      exact ⟨n, resolveNode_mem hn, rfl⟩

/-! ## Assignments -/

/-- What an assignment to a field leaves alone. -/
structure Assigns (py : Python) (context : ApplicationContext) (field : String) (value : Json)
    (assignment : Assignment) : Prop where
  revision : ∀ n, (assignment.row n).revision = n.revision
  code : field ≠ "code" → ∀ n, (assignment.row n).code = n.code
  sequence : field ≠ "sequence" → ∀ n, (assignment.row n).sequence = n.sequence
  parent : (∀ n, (assignment.row n).parent = n.parent) ∨
    field ∈ ["parent", "parent_id"] ∧ ∃ p,
      resolveOptionalParent py [("parent_id", value)] context = .ok p ∧
      ∀ n, (assignment.row n).parent = p

theorem assigns_of_row {field : String} {value : Json} {row : PlanNode → PlanNode}
    {hid : ∀ n, (row n).nodeId = n.nodeId} (hrevision : ∀ n, (row n).revision = n.revision)
    (hcode : ∀ n, (row n).code = n.code) (hsequence : ∀ n, (row n).sequence = n.sequence)
    (hparent : ∀ n, (row n).parent = n.parent) :
    Assigns py context field value (.ofRow row hid) :=
  ⟨hrevision, fun _ => hcode, fun _ => hsequence, .inl hparent⟩

theorem fieldAssignment_ok {field : String} {value : Json} {assignment : Assignment}
    (h : fieldAssignment py context field value = .ok assignment) :
    Assigns py context field value assignment := by
  unfold fieldAssignment at h
  split at h
  · obtain ⟨p, hp, h⟩ := bind_eq_ok.1 h
    obtain rfl := pure_eq_ok.1 h
    exact ⟨fun _ => rfl, fun _ _ => rfl, fun _ _ => rfl, .inr ⟨by decide, p, hp, fun _ => rfl⟩⟩
  · obtain ⟨p, hp, h⟩ := bind_eq_ok.1 h
    obtain rfl := pure_eq_ok.1 h
    exact ⟨fun _ => rfl, fun _ _ => rfl, fun _ _ => rfl, .inr ⟨by decide, p, hp, fun _ => rfl⟩⟩
  · obtain ⟨v, -, h⟩ := bind_eq_ok.1 h
    obtain rfl := pure_eq_ok.1 h
    exact ⟨fun _ => rfl, fun _ _ => rfl, fun hne => absurd rfl hne, .inl fun _ => rfl⟩
  · obtain ⟨v, -, h⟩ := bind_eq_ok.1 h
    obtain rfl := pure_eq_ok.1 h
    exact ⟨fun _ => rfl, fun hne => absurd rfl hne, fun _ _ => rfl, .inl fun _ => rfl⟩
  -- the other fields, with a value that is converted first or taken as it is
  all_goals first
    | (obtain ⟨v, -, h⟩ := bind_eq_ok.1 h
       obtain rfl := pure_eq_ok.1 h
       exact assigns_of_row (fun _ => rfl) (fun _ => rfl) (fun _ => rfl) (fun _ => rfl))
    | (obtain rfl := pure_eq_ok.1 h
       exact assigns_of_row (fun _ => rfl) (fun _ => rfl) (fun _ => rfl) (fun _ => rfl))
    | cases h

/-! ## Operations on parents and dependencies -/

/-- The operation sets the parent of a node. -/
def UpdatesParent (py : Python) (operation : PlanChangeOperation) (context : ApplicationContext)
    (n p : NodeId) : Prop :=
  OperationType.ofValue? operation.operationType = some .updateNodeField ∧
    operation.targetField ∈ ["parent", "parent_id"] ∧ ∃ payload live,
    operationPayload operation = .ok payload ∧
    resolveNode py (merged [("node_id", .str operation.targetId)] payload) context
      ["node_id", "target_node_id"] ["node_code", "target_node_code", "code"] = .ok live ∧
    live.nodeId = n ∧
    resolveOptionalParent py [("parent_id", (Json.get? payload "value").getD (.obj payload))]
      context = .ok (some p)

/-- The operation makes a node depend on another. -/
def AddsDependency (py : Python) (operation : PlanChangeOperation) (context : ApplicationContext)
    (n d : NodeId) : Prop :=
  OperationType.ofValue? operation.operationType = some .addDependency ∧ ∃ payload live dependsOn,
    operationPayload operation = .ok payload ∧
    resolveNode py payload context ["node_id", "target_node_id"]
      ["node_code", "target_node_code", "code"] = .ok live ∧ live.nodeId = n ∧
    resolveNode py payload context ["depends_on_id"] ["depends_on_code"] = .ok dependsOn ∧
    dependsOn.nodeId = d

/-- The operation sets the code of a node. -/
def UpdatesCode (operation : PlanChangeOperation) : Prop :=
  OperationType.ofValue? operation.operationType = some .updateNodeField ∧
    operation.targetField = "code"

/-- The nodes and dependencies of the context's revision after an operation. -/
inductive Step (py : Python) (operation : PlanChangeOperation)
    (context context' : ApplicationContext) (db db' : PlanDb) : Prop
  | kept (nodes : nodesIn db' context.revision.revisionId = nodesIn db context.revision.revisionId)
    (dependencies : dependenciesIn db' context.revision.revisionId =
      dependenciesIn db context.revision.revisionId)
    (live : context'.nodesByNewId = context.nodesByNewId)
    (codes : context'.nodesByCode = context.nodesByCode)
  | added (payload : List (String × Json)) (node : PlanNode)
    (new : NewNode py operation context payload node)
    (fresh : ¬ HasNode db context.revision.revisionId node.nodeId)
    (nodes : nodesIn db' context.revision.revisionId =
      nodesIn db context.revision.revisionId ++ [node])
    (dependencies : dependenciesIn db' context.revision.revisionId =
      dependenciesIn db context.revision.revisionId)
    (live : context'.nodesByNewId =
      context.nodesByNewId ++ [⟨node.nodeId, node.sequence.val, .str node.code.text⟩])
    (codes : context'.nodesByCode = (node.code.text, node.nodeId) :: context.nodesByCode)
  | linked (dependency : PlanDependency)
    (adds : AddsDependency py operation context dependency.node dependency.dependsOn)
    (nodes : nodesIn db' context.revision.revisionId = nodesIn db context.revision.revisionId)
    (dependencies : dependenciesIn db' context.revision.revisionId =
      dependenciesIn db context.revision.revisionId ++ [dependency])
    (live : context'.nodesByNewId = context.nodesByNewId)
    (codes : context'.nodesByCode = context.nodesByCode)
  | updated (payload : List (String × Json)) (node : LiveNode) (assignment : Assignment)
    (type : OperationType.ofValue? operation.operationType = some .updateNodeField)
    (update : FieldUpdate py operation context payload node assignment)
    (nodes : nodesIn db' context.revision.revisionId =
      (nodesIn db context.revision.revisionId).map fun n => if n.nodeId = node.nodeId then
        { assignment.row n with updatedAt := some context.appliedAt } else n)
    (dependencies : dependenciesIn db' context.revision.revisionId =
      dependenciesIn db context.revision.revisionId)
    (live : context'.nodesByNewId.map LiveNode.nodeId = context.nodesByNewId.map LiveNode.nodeId)
    (codes : context'.nodesByCode = context.nodesByCode)

theorem Change.step (h : Change py operation context context' db db') :
    Step py operation context context' db db' := by
  cases h with
  | kept nodes dependencies maps =>
    exact .kept (by rw [nodesIn, nodesIn, nodes])
      (by rw [dependenciesIn, dependenciesIn, dependencies]) maps.nodesByNewId maps.nodesByCode
  | added payload node type new rows dependencies maps =>
    refine .added payload node new ?_ ?_ (by rw [dependenciesIn, dependenciesIn, dependencies])
      maps.nodesByNewId maps.nodesByCode
    · rintro ⟨row, hrow, hid⟩
      have hnd := db'.nodes.pkUnique
      rw [rows, List.map_append, List.nodup_append] at hnd
      exact hnd.2.2 _ (List.mem_map_of_mem (mem_nodesIn.1 hrow).1) _
        (List.mem_map_of_mem List.mem_cons_self) hid
    · rw [nodesIn, rows, List.filter_append, List.filter_singleton, new.revision,
        decide_eq_true rfl]
      rfl
  | linked payload node dependsOn dependency type new nodes rows maps =>
    refine .linked dependency ⟨type, payload, node, dependsOn, new.reads, new.target,
      new.ends.1.symm, new.prerequisite, new.ends.2.symm⟩ (by rw [nodesIn, nodesIn, nodes]) ?_
      maps.nodesByNewId maps.nodesByCode
    rw [dependenciesIn, rows, List.filter_append, List.filter_singleton, new.revision,
      decide_eq_true rfl]
    rfl
  | updated payload node assignment type update rows dependencies maps =>
    refine .updated payload node assignment type update ?_
      (by rw [dependenciesIn, dependenciesIn, dependencies]) ?_ maps.nodesByCode
    · rw [nodesIn, rows, List.filter_map]
      congr 1
      refine List.filter_congr fun n _ => ?_
      rw [Function.comp_apply]
      split
      · exact congrArg (fun r => decide (r = _)) ((fieldAssignment_ok update.assigns).revision n)
      · rfl
    · rw [maps.nodesByNewId, ApplicationContext.setLive, List.map_map]
      refine List.map_congr_left fun n _ => ?_
      rw [Function.comp_apply]
      split
      · rename_i heq
        exact (heq.trans (assignment.keepsLiveId node)).symm ▸ assignment.keepsLiveId node
      · rfl

/-! ## Inside the revision -/

/-- The nodes of the context are nodes of its revision, and so are all ends. -/
structure Linked (context : ApplicationContext) (db : PlanDb) : Prop where
  live : ∀ n ∈ context.nodesByNewId, HasNode db context.revision.revisionId n.nodeId
  ends : EndsInside db context.revision.revisionId

theorem ParentOf.inside {revision : RevisionId} {n p : NodeId} (h : ParentOf db revision n p) :
    HasNode db revision n :=
  have ⟨row, hrow, hid, _⟩ := h
  ⟨row, hrow, hid⟩

/-- Nodes are not lost. -/
theorem Step.hasNode (h : Step py operation context context' db db') {id : NodeId}
    (hid : HasNode db context.revision.revisionId id) :
    HasNode db' context.revision.revisionId id := by
  obtain ⟨row, hrow, rfl⟩ := hid
  cases h with
  | kept nodes dependencies live codes => exact ⟨row, nodes ▸ hrow, rfl⟩
  | added payload node new fresh nodes dependencies live codes =>
    exact ⟨row, nodes ▸ List.mem_append_left _ hrow, rfl⟩
  | linked dependency adds nodes dependencies live codes => exact ⟨row, nodes ▸ hrow, rfl⟩
  | updated payload node assignment type update nodes dependencies live codes =>
    refine ⟨_, nodes ▸ List.mem_map_of_mem hrow, ?_⟩
    split
    · exact assignment.keepsId row
    · rfl

/-- An operation adds at most one parent: that of the new node, or the one it assigns. -/
theorem Step.parentOf (h : Step py operation context context' db db') :
    ∃ new : Option (NodeId × NodeId),
      (∀ n p, ParentOf db' context.revision.revisionId n p →
        ParentOf db context.revision.revisionId n p ∨ new = some (n, p)) ∧
      ∀ n p, new = some (n, p) → UpdatesParent py operation context n p ∨
        ¬ HasNode db context.revision.revisionId n ∧
          ∃ live ∈ context.nodesByNewId, live.nodeId = p := by
  cases h with
  | kept nodes dependencies live codes =>
    exact ⟨none, fun n p ⟨row, hrow, hp⟩ => .inl ⟨row, nodes ▸ hrow, hp⟩, fun _ _ h => by cases h⟩
  | added payload node new fresh nodes dependencies live codes =>
    refine ⟨node.parent.map fun p => (node.nodeId, p), fun n p ⟨row, hrow, hid, hp⟩ => ?_,
      fun n p heq => ?_⟩
    · rw [nodes] at hrow
      rcases List.mem_append.1 hrow with hrow | hrow
      · exact .inl ⟨row, hrow, hid, hp⟩
      · obtain rfl := List.mem_singleton.1 hrow
        rw [hp, Option.map_some, hid]
        exact .inr rfl
    · obtain ⟨q, hq, hedge⟩ := Option.map_eq_some_iff.1 heq
      obtain ⟨rfl, rfl⟩ := Prod.mk.inj hedge
      exact .inr ⟨fresh, resolveOptionalParent_mem (hq ▸ new.parent)⟩
  | linked dependency adds nodes dependencies live codes =>
    exact ⟨none, fun n p ⟨row, hrow, hp⟩ => .inl ⟨row, nodes ▸ hrow, hp⟩, fun _ _ h => by cases h⟩
  | updated payload node assignment type update nodes dependencies live codes =>
    -- the row before an assignment, whose id it keeps
    have hold : ∀ row ∈ nodesIn db' context.revision.revisionId,
        ∃ old ∈ nodesIn db context.revision.revisionId, row.nodeId = old.nodeId ∧
          (row = old ∨ old.nodeId = node.nodeId ∧ row.parent = (assignment.row old).parent) := by
      intro row hrow
      rw [nodes] at hrow
      obtain ⟨old, hold, rfl⟩ := List.mem_map.1 hrow
      by_cases hid : old.nodeId = node.nodeId
      · rw [if_pos hid]
        exact ⟨old, hold, assignment.keepsId old, .inr ⟨hid, rfl⟩⟩
      · rw [if_neg hid]
        exact ⟨old, hold, rfl, .inl rfl⟩
    rcases (fieldAssignment_ok update.assigns).parent with hsame | ⟨hfield, q, hq, hset⟩
    · refine ⟨none, fun n p ⟨row, hrow, hid, hp⟩ => .inl ?_, fun _ _ h => by cases h⟩
      obtain ⟨old, hmem, hkeeps, rfl | ⟨-, hparent⟩⟩ := hold row hrow
      · exact ⟨row, hmem, hid, hp⟩
      · exact ⟨old, hmem, hkeeps.symm.trans hid, by rw [← hp, hparent, hsame]⟩
    · refine ⟨q.map fun p => (node.nodeId, p), fun n p ⟨row, hrow, hid, hp⟩ => ?_, fun n p heq => ?_⟩
      · obtain ⟨old, hmem, hkeeps, rfl | ⟨hnode, hparent⟩⟩ := hold row hrow
        · exact .inl ⟨row, hmem, hid, hp⟩
        · have hqp : q = some p := by rw [← hp, hparent, hset]
          rw [hqp, Option.map_some, ← hnode, ← hkeeps, hid]
          exact .inr rfl
      · obtain ⟨q, rfl, hedge⟩ := Option.map_eq_some_iff.1 heq
        obtain ⟨rfl, rfl⟩ := Prod.mk.inj hedge
        exact .inl ⟨type, hfield, payload, node, update.reads, update.target, rfl, hq⟩

/-- An operation adds at most one dependency. -/
theorem Step.dependsOn (h : Step py operation context context' db db') :
    ∃ new : Option (NodeId × NodeId),
      (∀ n d, DependsOn db' context.revision.revisionId n d →
        DependsOn db context.revision.revisionId n d ∨ new = some (n, d)) ∧
      ∀ n d, new = some (n, d) → AddsDependency py operation context n d := by
  cases h with
  | kept nodes dependencies live codes =>
    exact ⟨none, fun n d ⟨row, hrow, hd⟩ => .inl ⟨row, dependencies ▸ hrow, hd⟩,
      fun _ _ h => by cases h⟩
  | added payload node new fresh nodes dependencies live codes =>
    exact ⟨none, fun n d ⟨row, hrow, hd⟩ => .inl ⟨row, dependencies ▸ hrow, hd⟩,
      fun _ _ h => by cases h⟩
  | linked dependency adds nodes dependencies live codes =>
    refine ⟨some (dependency.node, dependency.dependsOn), fun n d ⟨row, hrow, hn, hd⟩ => ?_,
      fun n d heq => ?_⟩
    · rw [dependencies] at hrow
      rcases List.mem_append.1 hrow with hrow | hrow
      · exact .inl ⟨row, hrow, hn, hd⟩
      · obtain rfl := List.mem_singleton.1 hrow
        rw [hn, hd]
        exact .inr rfl
    · obtain ⟨rfl, rfl⟩ := Prod.mk.inj (Option.some.inj heq)
      exact adds
  | updated payload node assignment type update nodes dependencies live codes =>
    exact ⟨none, fun n d ⟨row, hrow, hd⟩ => .inl ⟨row, dependencies ▸ hrow, hd⟩,
      fun _ _ h => by cases h⟩

theorem UpdatesParent.live {n p : NodeId} (h : UpdatesParent py operation context n p) :
    ∃ live ∈ context.nodesByNewId, live.nodeId = p :=
  have ⟨_, _, _, _, _, _, _, hp⟩ := h
  resolveOptionalParent_mem hp

theorem AddsDependency.live {n d : NodeId} (h : AddsDependency py operation context n d) :
    (∃ live ∈ context.nodesByNewId, live.nodeId = n) ∧
      ∃ live ∈ context.nodesByNewId, live.nodeId = d :=
  have ⟨_, _, live, dependsOn, _, hlive, hid, hdependsOn, hd⟩ := h
  ⟨⟨live, resolveNode_mem hlive, hid⟩, dependsOn, resolveNode_mem hdependsOn, hd⟩

theorem Step.live (h : Step py operation context context' db db') {n : LiveNode}
    (hn : n ∈ context'.nodesByNewId) :
    (∃ live ∈ context.nodesByNewId, live.nodeId = n.nodeId) ∨
      HasNode db' context.revision.revisionId n.nodeId := by
  cases h with
  | kept nodes dependencies live codes => exact .inl ⟨n, live ▸ hn, rfl⟩
  | added payload node new fresh nodes dependencies live codes =>
    rw [live] at hn
    rcases List.mem_append.1 hn with hn | hn
    · exact .inl ⟨n, hn, rfl⟩
    · rw [List.mem_singleton.1 hn]
      exact .inr ⟨node, nodes ▸ List.mem_append_right _ List.mem_cons_self, rfl⟩
  | linked dependency adds nodes dependencies live codes => exact .inl ⟨n, live ▸ hn, rfl⟩
  | updated payload node assignment type update nodes dependencies live codes =>
    have hid : n.nodeId ∈ context.nodesByNewId.map LiveNode.nodeId :=
      live ▸ List.mem_map_of_mem hn
    obtain ⟨old, hold, heq⟩ := List.mem_map.1 hid
    exact .inl ⟨old, hold, heq⟩

/-- **Ends stay inside.** -/
theorem Linked.step (h : Linked context db) (hstep : Step py operation context context' db db')
    (hrevision : context'.revision.revisionId = context.revision.revisionId) :
    Linked context' db' := by
  have hlive : ∀ {id : NodeId}, (∃ live ∈ context.nodesByNewId, live.nodeId = id) →
      HasNode db' context.revision.revisionId id := by
    rintro _ ⟨live, hmem, rfl⟩
    exact hstep.hasNode (h.live live hmem)
  obtain ⟨newParent, hparents, hnewParent⟩ := hstep.parentOf
  obtain ⟨newDependency, hdependencies, hnewDependency⟩ := hstep.dependsOn
  refine ⟨fun n hn => ?_, ⟨fun n p hp => ?_, fun n d hd => ?_⟩⟩
  · rw [hrevision]
    exact (hstep.live hn).elim hlive id
  · rw [hrevision] at hp ⊢
    rcases hparents n p hp with hp | hnew
    · exact hstep.hasNode (h.ends.parents n p hp)
    · rcases hnewParent n p hnew with hupdate | ⟨-, hp⟩
      · exact hlive hupdate.live
      · exact hlive hp
  · rw [hrevision] at hd ⊢
    rcases hdependencies n d hd with hd | hnew
    · obtain ⟨hn, hd⟩ := h.ends.dependencies n d hd
      exact ⟨hstep.hasNode hn, hstep.hasNode hd⟩
    · obtain ⟨hn, hd⟩ := (hnewDependency n d hnew).live
      exact ⟨hlive hn, hlive hd⟩

/-! ## Without cycles -/

/-- **Parents.** A node does not come under itself or what stands under it. -/
theorem Linked.forest_step (h : Linked context db)
    (hstep : Step py operation context context' db db')
    (hacyclic : Acyclic (ParentOf db context.revision.revisionId))
    (hsafe : ∀ n p, UpdatesParent py operation context n p →
      ¬ ReflTransGen (ParentOf db context.revision.revisionId) p n) :
    Acyclic (ParentOf db' context.revision.revisionId) := by
  obtain ⟨new, hparents, hnew⟩ := hstep.parentOf
  cases new with
  | none => exact hacyclic.mono fun n p hp => (hparents n p hp).resolve_right (by simp)
  | some edge =>
    obtain ⟨a, b⟩ := edge
    have hno : ¬ ReflTransGen (ParentOf db context.revision.revisionId) b a := by
      rcases hnew a b rfl with hupdate | ⟨hfresh, live, hlive, rfl⟩
      · exact hsafe a b hupdate
      · apply not_reflTransGen_of_no_edge
        · intro y hy
          exact hfresh (h.ends.parents y a hy)
        · rintro rfl
          exact hfresh (h.live live hlive)
    refine (hacyclic.addEdge hno).mono fun n p hp => ?_
    rcases hparents n p hp with hp | heq
    · exact .inl hp
    · obtain ⟨rfl, rfl⟩ := Prod.mk.inj (Option.some.inj heq)
      exact .inr ⟨rfl, rfl⟩

/-- **Dependencies.** The prerequisite does not wait for the node already. -/
theorem Step.acyclic (hstep : Step py operation context context' db db')
    (hacyclic : Acyclic (DependsOn db context.revision.revisionId))
    (hsafe : ∀ n d, AddsDependency py operation context n d →
      ¬ ReflTransGen (DependsOn db context.revision.revisionId) d n) :
    Acyclic (DependsOn db' context.revision.revisionId) := by
  obtain ⟨new, hdependencies, hnew⟩ := hstep.dependsOn
  cases new with
  | none => exact hacyclic.mono fun n d hd => (hdependencies n d hd).resolve_right (by simp)
  | some edge =>
    obtain ⟨a, b⟩ := edge
    refine (hacyclic.addEdge (hsafe a b (hnew a b rfl))).mono fun n d hd => ?_
    rcases hdependencies n d hd with hd | heq
    · exact .inl hd
    · obtain ⟨rfl, rfl⟩ := Prod.mk.inj (Option.some.inj heq)
      exact .inr ⟨rfl, rfl⟩

/-! ## Codes -/

/-- All codes are different and known to the context. -/
structure KnownCodes (context : ApplicationContext) (db : PlanDb) : Prop where
  unique : UniqueCodes db context.revision.revisionId
  known : ∀ n ∈ nodesIn db context.revision.revisionId,
    lookup context.nodesByCode n.code.text ≠ none

theorem lookup_cons {entries : List (String × NodeId)} {key key' : String} {id : NodeId} :
    lookup ((key, id) :: entries) key' = if key = key' then some id else lookup entries key' := by
  unfold lookup
  by_cases h : key = key'
  · simp [h]
  · simp [h]

/-- **Codes.** A node is added under a code that no node has. -/
theorem KnownCodes.step (h : KnownCodes context db)
    (hstep : Step py operation context context' db db')
    (hrevision : context'.revision.revisionId = context.revision.revisionId)
    (hno : ¬ UpdatesCode operation) : KnownCodes context' db' := by
  cases hstep with
  | kept nodes dependencies live codes =>
    constructor
    · rw [UniqueCodes, hrevision, nodes]
      exact h.unique
    · rw [hrevision, nodes, codes]
      exact h.known
  | added payload node new fresh nodes dependencies live codes =>
    constructor
    · rw [UniqueCodes, hrevision, nodes, List.map_append, List.nodup_append]
      refine ⟨h.unique, List.nodup_singleton _, ?_⟩
      rintro _ ha _ hb rfl
      obtain ⟨n, hn, heq⟩ := List.mem_map.1 ha
      rw [List.mem_singleton.1 hb] at heq
      exact h.known n hn (heq ▸ new.unknown)
    · rw [hrevision, nodes, codes]
      intro n hn
      rw [lookup_cons]
      split
      · simp
      · rename_i hne
        rcases List.mem_append.1 hn with hn | hn
        · exact h.known n hn
        · exact absurd (congrArg (fun n => n.code.text) (List.mem_singleton.1 hn).symm) hne
  | linked dependency adds nodes dependencies live codes =>
    constructor
    · rw [UniqueCodes, hrevision, nodes]
      exact h.unique
    · rw [hrevision, nodes, codes]
      exact h.known
  | updated payload node assignment type update nodes dependencies live codes =>
    have hfield : operation.targetField ≠ "code" := fun heq => hno ⟨type, heq⟩
    have hcode := (fieldAssignment_ok update.assigns).code hfield
    have hsame : ((nodesIn db' context.revision.revisionId).map PlanNode.code) =
        (nodesIn db context.revision.revisionId).map PlanNode.code := by
      rw [nodes, List.map_map]
      refine List.map_congr_left fun n _ => ?_
      rw [Function.comp_apply]
      split
      · exact hcode n
      · rfl
    constructor
    · rw [UniqueCodes, hrevision, hsame]
      exact h.unique
    · rw [hrevision, codes]
      intro n hn
      have hmem : n.code ∈ (nodesIn db context.revision.revisionId).map PlanNode.code :=
        hsame ▸ List.mem_map_of_mem hn
      obtain ⟨old, hold, heq⟩ := List.mem_map.1 hmem
      exact heq ▸ h.known old hold

/-! ## The copy has the shape of its source -/

section

variable {source : PlanRevision} {copies : List PlanNode}

theorem Copied.hasNode (h : Copied source context db db' context' copies)
    (hfresh : FreshRevision db context.revision.revisionId) {n c : PlanNode}
    (hzip : (n, c) ∈ (revisionNodes db source.revisionId).zip copies) :
    HasNode db' context.revision.revisionId c.nodeId :=
  ⟨withParent context' n c, by rw [h.nodesIn_new hfresh]; exact zipWith_parent_mem hzip, rfl⟩

/-- A parent in the copy is the copy of a parent in the source. -/
theorem Copied.parentOf (h : Copied source context db db' context' copies)
    (hfresh : FreshRevision db context.revision.revisionId) {x y : NodeId}
    (hxy : ParentOf db' context.revision.revisionId x y) :
    ∃ n ∈ nodesIn db source.revisionId, ∃ m ∈ nodesIn db source.revisionId,
      ParentOf db source.revisionId n.nodeId m.nodeId ∧ copyName context' n.nodeId = x ∧
      copyName context' m.nodeId = y ∧ HasNode db' context.revision.revisionId y := by
  obtain ⟨row, hrow, rfl, hparent⟩ := hxy
  rw [h.nodesIn_new hfresh] at hrow
  obtain ⟨n, c, hzip, rfl⟩ := mem_zipWith_parent hrow
  obtain ⟨p, hp, hlookup⟩ := Option.bind_eq_some_iff.1 hparent
  obtain ⟨m, d, hzip', rfl, rfl⟩ := h.found p y hlookup
  exact ⟨n, Copied.source_mem hzip, m, Copied.source_mem hzip',
    ⟨n, Copied.source_mem hzip, rfl, hp⟩, (h.copyName_eq hzip).trans rfl, h.copyName_eq hzip',
    h.hasNode hfresh hzip'⟩

/-- A dependency in the copy is the copy of a dependency in the source. -/
theorem Copied.dependsOn (h : Copied source context db db' context' copies)
    (hfresh : FreshRevision db context.revision.revisionId) {x y : NodeId}
    (hxy : DependsOn db' context.revision.revisionId x y) :
    ∃ n ∈ nodesIn db source.revisionId, ∃ m ∈ nodesIn db source.revisionId,
      DependsOn db source.revisionId n.nodeId m.nodeId ∧ copyName context' n.nodeId = x ∧
      copyName context' m.nodeId = y ∧ HasNode db' context.revision.revisionId x ∧
      HasNode db' context.revision.revisionId y := by
  obtain ⟨row, hrow, rfl, rfl⟩ := hxy
  obtain ⟨ds, hds, hrows⟩ := h.dependencies
  rw [dependenciesIn, hrows,
    filter_append_of_none fun d hd => by simpa using hfresh.dependencies d hd] at hrow
  obtain ⟨d, hd, hnode, hdependsOn, -⟩ := forall₂_right hds (List.mem_filter.1 hrow).1
  obtain ⟨n, c, hzip, hn, hc⟩ := h.found _ _ hnode
  obtain ⟨m, e, hzip', hm, he⟩ := h.found _ _ hdependsOn
  rw [revisionDependencies, (orderBy_perm _ _ _).mem_iff] at hd
  refine ⟨n, Copied.source_mem hzip, m, Copied.source_mem hzip', ⟨d, hd, hn.symm, hm.symm⟩,
    (h.copyName_eq hzip).trans hc, (h.copyName_eq hzip').trans he, ?_, ?_⟩
  · exact hc ▸ h.hasNode hfresh hzip
  · exact he ▸ h.hasNode hfresh hzip'

theorem Copied.injOn (h : Copied source context db db' context' copies) :
    Set.InjOn (copyName context') {id | HasNode db source.revisionId id} := by
  rintro _ ⟨n, hn, rfl⟩ _ ⟨m, hm, rfl⟩ heq
  rw [h.copyName_injective hn hm heq]

theorem Copied.forest (h : Copied source context db db' context' copies)
    (hfresh : FreshRevision db context.revision.revisionId)
    (hacyclic : Acyclic (ParentOf db source.revisionId)) :
    Acyclic (ParentOf db' context.revision.revisionId) := by
  refine hacyclic.rename h.injOn fun x y hxy => ?_
  obtain ⟨n, hn, m, hm, hnm, hx, hy, -⟩ := h.parentOf hfresh hxy
  exact ⟨n.nodeId, ⟨n, hn, rfl⟩, m.nodeId, ⟨m, hm, rfl⟩, hnm, hx, hy⟩

theorem Copied.acyclic (h : Copied source context db db' context' copies)
    (hfresh : FreshRevision db context.revision.revisionId)
    (hacyclic : Acyclic (DependsOn db source.revisionId)) :
    Acyclic (DependsOn db' context.revision.revisionId) := by
  refine hacyclic.rename h.injOn fun x y hxy => ?_
  obtain ⟨n, hn, m, hm, hnm, hx, hy, -⟩ := h.dependsOn hfresh hxy
  exact ⟨n.nodeId, ⟨n, hn, rfl⟩, m.nodeId, ⟨m, hm, rfl⟩, hnm, hx, hy⟩

theorem Copied.linked (h : Copied source context db db' context' copies)
    (hempty : context.nodesByNewId = [])
    (hcontext : context'.revision = context.revision)
    (hfresh : FreshRevision db context.revision.revisionId) : Linked context' db' := by
  refine ⟨fun n hn => ?_, ⟨fun n p hp => ?_, fun n d hd => ?_⟩⟩
  · rw [h.remembered, rememberCopies_nodesByNewId, hempty, List.nil_append] at hn
    obtain ⟨⟨m, c⟩, hzip, rfl⟩ := List.mem_map.1 hn
    rw [hcontext]
    exact h.hasNode hfresh hzip
  · rw [hcontext] at hp ⊢
    obtain ⟨_, _, _, _, _, _, _, hhas⟩ := h.parentOf hfresh hp
    exact hhas
  · rw [hcontext] at hd ⊢
    obtain ⟨_, _, _, _, _, _, _, hn, hd⟩ := h.dependsOn hfresh hd
    exact ⟨hn, hd⟩

theorem lookup_ne_none {entries : List (String × NodeId)} {key : String} {id : NodeId}
    (h : (key, id) ∈ entries) : lookup entries key ≠ none := by
  intro hnone
  rw [lookup, Option.map_eq_none_iff, List.find?_eq_none] at hnone
  exact hnone _ h (decide_eq_true rfl)

theorem SameNode.code {n m : PlanNode} (h : SameNode n m) : m.code = n.code := by
  have hcode := congrArg PlanNode.code h
  exact hcode

theorem Copied.knownCodes (h : Copied source context db db' context' copies)
    (hempty : context.nodesByCode = [])
    (hcontext : context'.revision = context.revision)
    (hfresh : FreshRevision db context.revision.revisionId)
    (hunique : UniqueCodes db source.revisionId) : KnownCodes context' db' := by
  have hsame : List.Forall₂ (fun n c : PlanNode => n.code = c.code)
      (revisionNodes db source.revisionId) copies :=
    h.nodes.imp fun n c hcopy => hcopy.fields.code.symm
  have hcodes : (nodesIn db' context.revision.revisionId).map PlanNode.code =
      (revisionNodes db source.revisionId).map PlanNode.code := by
    rw [h.nodesIn_new hfresh, ← List.map_uncurry_zip_eq_zipWith, List.map_map,
      ← forall₂_map_eq hsame fun _ _ _ heq => heq]
    have hsnd : ((revisionNodes db source.revisionId).zip copies).map Prod.snd = copies :=
      List.map_snd_zip (le_of_eq h.nodes.length_eq.symm)
    conv_rhs => rw [← hsnd, List.map_map]
    rfl
  constructor
  · rw [UniqueCodes, hcontext, hcodes]
    exact ((orderBy_perm _ _ _).map _).nodup_iff.2 hunique
  · intro n hn
    rw [hcontext, h.nodesIn_new hfresh] at hn
    obtain ⟨m, c, hzip, rfl⟩ := mem_zipWith_parent hn
    refine lookup_ne_none (?_ : (_, c.nodeId) ∈ _)
    rw [h.remembered, rememberCopies_nodesByCode, hempty, List.append_nil, List.mem_reverse]
    exact List.mem_map_of_mem (f := fun p : PlanNode × PlanNode => (p.2.code.text, p.2.nodeId)) hzip

/-- The copy of a node has its code. -/
theorem Copied.code_eq (h : Copied source context db db' context' copies) {n c : PlanNode}
    (hzip : (n, c) ∈ (revisionNodes db source.revisionId).zip copies) : c.code = n.code :=
  ((List.forall₂_iff_zip.1 h.nodes).2 hzip).fields.code

/-- A code that the context knows after the copy is that of a node of the source. -/
theorem Copied.lookup_code (h : Copied source context db db' context' copies)
    (hempty : context.nodesByCode = []) {code : String} {id : NodeId}
    (hlookup : lookup context'.nodesByCode code = some id) :
    ∃ n c, (n, c) ∈ (revisionNodes db source.revisionId).zip copies ∧ n.code.text = code ∧
      c.nodeId = id := by
  have hmem := mem_of_lookup hlookup
  rw [h.remembered, rememberCopies_nodesByCode, hempty, List.append_nil, List.mem_reverse] at hmem
  obtain ⟨⟨n, c⟩, hzip, heq⟩ := List.mem_map.1 hmem
  obtain ⟨htext, hid⟩ := Prod.mk.inj heq
  exact ⟨n, c, hzip, by rw [← h.code_eq hzip]; exact htext, hid⟩

end

/-! ## Applications -/

/-- The operation is applied in this context and this state. -/
def AppliedIn (py : Python) (call : ApplyCall) (db db' : PlanDb) (operation : PlanChangeOperation)
    (context : ApplicationContext) (state : PlanDb) : Prop :=
  ∃ locked source revision start copied applied context₁ context₂ done rest,
    Stages py call locked db db' source revision start copied applied context₁ context₂ ∧
    changeSetOperations db locked.changeSetId = done ++ operation :: rest ∧
    done.foldlM (applyOperation py) context₁ copied = .ok context state

section

variable {locked : PlanChangeSet} {source revision : PlanRevision} {start copied applied : PlanDb}
  {context₁ context₂ : ApplicationContext}

theorem SamePlan.shape {a b : PlanDb} {r : RevisionId} (h : SamePlan a b) :
    ParentOf b r = ParentOf a r ∧ DependsOn b r = DependsOn a r ∧ HasNode b r = HasNode a r ∧
      (UniqueCodes b r ↔ UniqueCodes a r) := by
  refine ⟨?_, ?_, ?_, ?_⟩
  · funext n p
    rw [ParentOf, ParentOf, h.nodesIn]
  · funext n d
    rw [DependsOn, DependsOn, h.dependenciesIn]
  · funext n
    rw [HasNode, HasNode, h.nodesIn]
  · rw [UniqueCodes, UniqueCodes, h.nodesIn]

theorem Stages.applied_samePlan
    (h : Stages py call locked db db' source revision start copied applied context₁ context₂) :
    SamePlan applied db' := by
  obtain ⟨account, revisionMetadata, changeSetMetadata, -, hresult⟩ := h.result
  rw [hresult]
  exact ⟨rfl, rfl, rfl, rfl⟩

/-- What holds after the copy and is kept by every operation holds after the operations. -/
theorem Stages.carries
    (h : Stages py call locked db db' source revision start copied applied context₁ context₂)
    (I : ApplicationContext → PlanDb → Prop) (h₀ : I context₁ copied)
    (hstep : ∀ operation context context' state state',
      AppliedIn py call db db' operation context state →
      operation ∈ changeSetOperations db locked.changeSetId → I context state →
      Step py operation context context' state state' →
      context'.revision.revisionId = context.revision.revisionId → I context' state') :
    I context₂ applied := by
  refine foldlM_invariant_split (fun done o rest c s c' s' hsplit hdone hinv hx => ?_) h₀
    h.operations
  obtain ⟨-, hchange⟩ := applyOperation_ok hx
  exact hstep o c c' s s' ⟨locked, source, revision, start, copied, applied, context₁, context₂,
    done, rest, h, hsplit, hdone⟩ (hsplit ▸ List.mem_append_right _ List.mem_cons_self) hinv
    hchange.step (by rw [hchange.revision.1])

/-- The shape right after the copy. -/
theorem Stages.copied_shape
    (h : Stages py call locked db db' source revision start copied applied context₁ context₂)
    (hkeys : ForeignKeys db) :
    context₁.revision.revisionId = revision.revisionId ∧ Linked context₁ copied ∧
    (UniqueCodes db locked.planRevision → KnownCodes context₁ copied) ∧
    (Acyclic (ParentOf db locked.planRevision) →
      Acyclic (ParentOf copied revision.revisionId)) ∧
    (Acyclic (DependsOn db locked.planRevision) →
      Acyclic (DependsOn copied revision.revisionId)) := by
  obtain ⟨-, hsourceId⟩ := Table.get?_eq_some.1 h.fetched
  obtain ⟨copies, hcopied⟩ := copyRevisionContents_ok rfl h.copy
  obtain ⟨hparents, hdependencies, -, hcodes⟩ :=
    h.start_samePlan.shape (r := source.revisionId)
  have hfresh := h.fresh hkeys
  have hcontext : context₁.revision = revision := by
    rw [hcopied.remembered, (rememberCopies_frame _).1]
    rfl
  rw [← hsourceId]
  refine ⟨by rw [hcontext], hcopied.linked rfl hcontext hfresh, fun hunique => ?_,
    fun hforest => ?_, fun hacyclic => ?_⟩
  · exact hcopied.knownCodes rfl hcontext hfresh (hcodes.2 hunique)
  · exact hcopied.forest hfresh (hparents ▸ hforest)
  · exact hcopied.acyclic hfresh (hdependencies ▸ hacyclic)

theorem Stages.linked
    (h : Stages py call locked db db' source revision start copied applied context₁ context₂)
    (hkeys : ForeignKeys db) :
    context₂.revision.revisionId = revision.revisionId ∧ Linked context₂ applied := by
  obtain ⟨hid, hlinked, -⟩ := h.copied_shape hkeys
  refine h.carries (fun context state => context.revision.revisionId = revision.revisionId ∧
    Linked context state) ⟨hid, hlinked⟩ ?_
  rintro o c c' s s' - - ⟨hc, hinv⟩ hstep hrevision
  exact ⟨hrevision.trans hc, hinv.step hstep hrevision⟩

theorem Stages.knownCodes
    (h : Stages py call locked db db' source revision start copied applied context₁ context₂)
    (hkeys : ForeignKeys db) (hunique : UniqueCodes db locked.planRevision)
    (hno : ∀ o ∈ changeSetOperations db locked.changeSetId, ¬ UpdatesCode o) :
    KnownCodes context₂ applied := by
  obtain ⟨-, -, hcodes, -⟩ := h.copied_shape hkeys
  refine h.carries KnownCodes (hcodes hunique) ?_
  intro o c c' s s' _ ho hinv hstep hrevision
  exact hinv.step hstep hrevision (hno o ho)

theorem Stages.forest
    (h : Stages py call locked db db' source revision start copied applied context₁ context₂)
    (hkeys : ForeignKeys db) (hforest : Acyclic (ParentOf db locked.planRevision))
    (hsafe : ∀ o c s, AppliedIn py call db db' o c s → ∀ n p, UpdatesParent py o c n p →
      ¬ ReflTransGen (ParentOf s revision.revisionId) p n) :
    Acyclic (ParentOf applied revision.revisionId) := by
  obtain ⟨hid, hlinked, -, hcopied, -⟩ := h.copied_shape hkeys
  refine (h.carries (fun context state =>
    context.revision.revisionId = revision.revisionId ∧ Linked context state ∧
      Acyclic (ParentOf state revision.revisionId)) ⟨hid, hlinked, hcopied hforest⟩ ?_).2.2
  rintro o c c' s s' happlied - ⟨hc, hinv, hacyclic⟩ hstep hrevision
  refine ⟨hrevision.trans hc, hinv.step hstep hrevision, ?_⟩
  rw [← hc] at hacyclic ⊢
  exact hinv.forest_step hstep hacyclic fun n p hn => hc ▸ hsafe o c s happlied n p hn

theorem Stages.acyclic
    (h : Stages py call locked db db' source revision start copied applied context₁ context₂)
    (hkeys : ForeignKeys db) (hacyclic : Acyclic (DependsOn db locked.planRevision))
    (hsafe : ∀ o c s, AppliedIn py call db db' o c s → ∀ n d, AddsDependency py o c n d →
      ¬ ReflTransGen (DependsOn s revision.revisionId) d n) :
    Acyclic (DependsOn applied revision.revisionId) := by
  obtain ⟨hid, -, -, -, hcopied⟩ := h.copied_shape hkeys
  refine (h.carries (fun context state =>
    context.revision.revisionId = revision.revisionId ∧
      Acyclic (DependsOn state revision.revisionId)) ⟨hid, hcopied hacyclic⟩ ?_).2
  rintro o c c' s s' happlied - ⟨hc, hinv⟩ hstep hrevision
  refine ⟨hrevision.trans hc, ?_⟩
  rw [← hc] at hinv ⊢
  exact hstep.acyclic hinv fun n d hn => hc ▸ hsafe o c s happlied n d hn

end

/-- The pilot plan with a change set that makes its first node depend on the second, which depends
on the first already. -/
def circularPlan : PlanDb :=
  { pilotPlan none with
    operations := tableOf [{ pilotNote "op-first" "first" with
      operationType := OperationType.addDependency.value
      newValue := .obj [("node_code", .str "A"), ("depends_on_code", .str "B")] }] }

/-- Two nodes of the revision depend on each other. -/
def dependOnEachOther (revision : RevisionId) (db : PlanDb) : Bool :=
  decide (∃ d ∈ dependenciesIn db revision, ∃ e ∈ dependenciesIn db revision,
    d.dependsOn = e.node ∧ e.dependsOn = d.node)

theorem not_acyclic_of_dependOnEachOther {revision : RevisionId}
    (h : dependOnEachOther revision db = true) : ¬ Acyclic (DependsOn db revision) := by
  obtain ⟨d, hd, e, he, hde, hed⟩ := of_decide_eq_true h
  intro hacyclic
  have hfirst : DependsOn db revision d.node e.node := ⟨d, hd, rfl, hde⟩
  have hsecond : DependsOn db revision e.node d.node := ⟨e, he, rfl, hed⟩
  exact hacyclic d.node ((TransGen.single hfirst).tail hsecond)

/-- The rank of the nodes of the pilot plan. -/
def pilotRank (id : NodeId) : Nat := if id = pilotB.nodeId then 1 else 0

end LiveOs.Planning
