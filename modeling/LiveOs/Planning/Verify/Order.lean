import LiveOs.Planning.Verify.Shape

/-!
# The order of a revision

A run takes the nodes of a revision by sequence and id. An application keeps the prerequisites of a
revision at smaller sequences unless an operation adds a dependency or sets a sequence. A node that
is added without a sequence comes last, so a dependency on it points backwards for good.
-/

namespace LiveOs.Planning

open Lib

variable {py : Python} {call : ApplyCall} {operation : PlanChangeOperation} {db db' : PlanDb}
  {context context' : ApplicationContext} {revision : RevisionId}

/-! ## Orders -/

/-- `order_by("sequence", "node_id")` puts the first node before the second. -/
def Precedes (a b : PlanNode) : Prop :=
  a.sequence.val < b.sequence.val ∨ a.sequence.val = b.sequence.val ∧ a.nodeId.text < b.nodeId.text

instance (a b : PlanNode) : Decidable (Precedes a b) :=
  inferInstanceAs (Decidable (a.sequence.val < b.sequence.val ∨
    a.sequence.val = b.sequence.val ∧ a.nodeId.text < b.nodeId.text))

/-- The first node has the smaller sequence. -/
def Earlier (a b : PlanNode) : Prop := a.sequence.val < b.sequence.val

instance (a b : PlanNode) : Decidable (Earlier a b) :=
  inferInstanceAs (Decidable (a.sequence.val < b.sequence.val))

/-- The dependencies of the revision are between its nodes, with the prerequisite first. -/
def Ordered (before : PlanNode → PlanNode → Prop) (db : PlanDb) (revision : RevisionId) : Prop :=
  ∀ x y, DependsOn db revision x y → ∃ n ∈ nodesIn db revision, ∃ p ∈ nodesIn db revision,
    n.nodeId = x ∧ p.nodeId = y ∧ before p n

/-- Every prerequisite precedes its dependent node in the order of a run. -/
def InOrder (db : PlanDb) (revision : RevisionId) : Prop := Ordered Precedes db revision

/-- Every prerequisite has a smaller sequence than its dependent node. -/
def BySequence (db : PlanDb) (revision : RevisionId) : Prop := Ordered Earlier db revision

theorem BySequence.inOrder (h : BySequence db revision) : InOrder db revision := by
  intro x y hxy
  obtain ⟨n, hn, p, hp, hx, hy, hlt⟩ := h x y hxy
  exact ⟨n, hn, p, hp, hx, hy, .inl hlt⟩

theorem node_unique {n m : PlanNode} (hn : n ∈ nodesIn db revision) (hm : m ∈ nodesIn db revision)
    (hid : n.nodeId = m.nodeId) : n = m :=
  db.nodes.eq_of_pk (mem_nodesIn.1 hn).1 (mem_nodesIn.1 hm).1 hid

/-- A node of the revision depends on itself or on one with a larger sequence. -/
def Backwards (db : PlanDb) (revision : RevisionId) : Prop :=
  ∃ n ∈ nodesIn db revision, ∃ p ∈ nodesIn db revision,
    DependsOn db revision n.nodeId p.nodeId ∧ (Earlier n p ∨ n.nodeId = p.nodeId)

theorem Backwards.not_inOrder (h : Backwards db revision) : ¬ InOrder db revision := by
  obtain ⟨n, hn, p, hp, hdepends, hback⟩ := h
  intro horder
  obtain ⟨n', hn', p', hp', hnid, hpid, hprecedes⟩ := horder _ _ hdepends
  obtain rfl := node_unique hn' hn hnid
  obtain rfl := node_unique hp' hp hpid
  rcases hback with hlt | heq
  · rcases hprecedes with hlt' | ⟨hsame, -⟩
    · exact lt_asymm hlt hlt'
    · exact absurd hsame.symm (ne_of_lt hlt)
  · obtain rfl := node_unique hn hp heq
    rcases hprecedes with hlt | ⟨-, hlt⟩
    · exact lt_irrefl _ hlt
    · exact lt_irrefl _ hlt

/-- Every dependency of the revision is between two of its nodes that are related. -/
def JoinsAll (related : PlanNode → PlanNode → Prop) (db : PlanDb) (revision : RevisionId) : Prop :=
  ∀ d ∈ dependenciesIn db revision, ∃ n ∈ nodesIn db revision, ∃ p ∈ nodesIn db revision,
    n.nodeId = d.node ∧ p.nodeId = d.dependsOn ∧ related p n

/-- Some dependency of the revision is between two of its nodes that are related. -/
def JoinsSome (related : PlanNode → PlanNode → Prop) (db : PlanDb) (revision : RevisionId) : Prop :=
  ∃ d ∈ dependenciesIn db revision, ∃ n ∈ nodesIn db revision, ∃ p ∈ nodesIn db revision,
    n.nodeId = d.node ∧ p.nodeId = d.dependsOn ∧ related p n

instance (related : PlanNode → PlanNode → Prop) [∀ a b, Decidable (related a b)] (db : PlanDb)
    (revision : RevisionId) : Decidable (JoinsAll related db revision) :=
  inferInstanceAs (Decidable (∀ d ∈ dependenciesIn db revision, ∃ n ∈ nodesIn db revision,
    ∃ p ∈ nodesIn db revision, n.nodeId = d.node ∧ p.nodeId = d.dependsOn ∧ related p n))

instance (related : PlanNode → PlanNode → Prop) [∀ a b, Decidable (related a b)] (db : PlanDb)
    (revision : RevisionId) : Decidable (JoinsSome related db revision) :=
  inferInstanceAs (Decidable (∃ d ∈ dependenciesIn db revision, ∃ n ∈ nodesIn db revision,
    ∃ p ∈ nodesIn db revision, n.nodeId = d.node ∧ p.nodeId = d.dependsOn ∧ related p n))

theorem JoinsAll.ordered {related : PlanNode → PlanNode → Prop} (h : JoinsAll related db revision) :
    Ordered related db revision := by
  rintro x y ⟨d, hd, rfl, rfl⟩
  exact h d hd

theorem JoinsSome.not_inOrder (h : JoinsSome (fun p n => ¬ Precedes p n) db revision) :
    ¬ InOrder db revision := by
  obtain ⟨d, hd, n, hn, p, hp, hnid, hpid, hnot⟩ := h
  intro horder
  obtain ⟨n', hn', p', hp', hnid', hpid', hprecedes⟩ := horder d.node d.dependsOn ⟨d, hd, rfl, rfl⟩
  obtain rfl := node_unique hn' hn (hnid'.trans hnid.symm)
  obtain rfl := node_unique hp' hp (hpid'.trans hpid.symm)
  exact hnot hprecedes

/-! ## What an operation keeps -/

/-- The operation sets the sequence of a node. -/
def UpdatesSequence (operation : PlanChangeOperation) : Prop :=
  OperationType.ofValue? operation.operationType = some .updateNodeField ∧
    operation.targetField = "sequence"

/-- A node keeps its id and its sequence. -/
theorem Step.row (h : Step py operation context context' db db') (hno : ¬ UpdatesSequence operation)
    {n : PlanNode} (hn : n ∈ nodesIn db context.revision.revisionId) :
    ∃ m ∈ nodesIn db' context.revision.revisionId, m.nodeId = n.nodeId ∧ m.sequence = n.sequence := by
  cases h with
  | kept nodes dependencies live codes => exact ⟨n, nodes ▸ hn, rfl, rfl⟩
  | added payload node new fresh nodes dependencies live codes =>
    exact ⟨n, nodes ▸ List.mem_append_left _ hn, rfl, rfl⟩
  | linked dependency adds nodes dependencies live codes => exact ⟨n, nodes ▸ hn, rfl, rfl⟩
  | updated payload node assignment type update nodes dependencies live codes =>
    refine ⟨_, nodes ▸ List.mem_map_of_mem hn, ?_, ?_⟩
    · split
      · exact assignment.keepsId n
      · rfl
    · split
      · exact (fieldAssignment_ok update.assigns).sequence (fun hfield => hno ⟨type, hfield⟩) n
      · rfl

theorem Step.keepsDependency (h : Step py operation context context' db db') {x y : NodeId}
    (hxy : DependsOn db context.revision.revisionId x y) :
    DependsOn db' context.revision.revisionId x y := by
  obtain ⟨row, hrow, hx, hy⟩ := hxy
  cases h with
  | kept nodes dependencies live codes => exact ⟨row, dependencies ▸ hrow, hx, hy⟩
  | added payload node new fresh nodes dependencies live codes =>
    exact ⟨row, dependencies ▸ hrow, hx, hy⟩
  | linked dependency adds nodes dependencies live codes =>
    exact ⟨row, dependencies ▸ List.mem_append_left _ hrow, hx, hy⟩
  | updated payload node assignment type update nodes dependencies live codes =>
    exact ⟨row, dependencies ▸ hrow, hx, hy⟩

/-- **Kept order.** -/
theorem BySequence.step (h : BySequence db context.revision.revisionId)
    (hstep : Step py operation context context' db db') (hsequence : ¬ UpdatesSequence operation)
    (hdependency : OperationType.ofValue? operation.operationType ≠ some .addDependency) :
    BySequence db' context.revision.revisionId := by
  intro x y hxy
  obtain ⟨new, hold, hnew⟩ := hstep.dependsOn
  rcases hold x y hxy with hxy | hadded
  · obtain ⟨n, hn, p, hp, rfl, rfl, hlt⟩ := h x y hxy
    obtain ⟨n', hn', hnid, hnseq⟩ := hstep.row hsequence hn
    obtain ⟨p', hp', hpid, hpseq⟩ := hstep.row hsequence hp
    refine ⟨n', hn', p', hp', hnid, hpid, ?_⟩
    rw [Earlier, hnseq, hpseq]
    exact hlt
  · exact absurd (hnew x y hadded).1 hdependency

theorem Backwards.step (h : Backwards db context.revision.revisionId)
    (hstep : Step py operation context context' db db') (hsequence : ¬ UpdatesSequence operation) :
    Backwards db' context.revision.revisionId := by
  obtain ⟨n, hn, p, hp, hdepends, hback⟩ := h
  obtain ⟨n', hn', hnid, hnseq⟩ := hstep.row hsequence hn
  obtain ⟨p', hp', hpid, hpseq⟩ := hstep.row hsequence hp
  refine ⟨n', hn', p', hp', ?_, ?_⟩
  · rw [hnid, hpid]
    exact hstep.keepsDependency hdepends
  · rw [Earlier, hnseq, hpseq, hnid, hpid]
    exact hback

/-! ## What the copy keeps -/

section

variable {source : PlanRevision} {copies : List PlanNode}

theorem SameNode.sequence {n m : PlanNode} (h : SameNode n m) : m.sequence = n.sequence := by
  have hsequence := congrArg PlanNode.sequence h
  exact hsequence

theorem Copied.row (h : Copied source context db db' context' copies)
    (hfresh : FreshRevision db context.revision.revisionId) {n : PlanNode}
    (hn : n ∈ nodesIn db source.revisionId) :
    ∃ m ∈ nodesIn db' context.revision.revisionId, m.nodeId = copyName context' n.nodeId ∧
      m.sequence = n.sequence := by
  obtain ⟨m, hm, hid, hsame, -⟩ := h.maps hfresh hn
  exact ⟨m, hm, hid, hsame.sequence⟩

theorem Copied.bySequence (h : Copied source context db db' context' copies)
    (hfresh : FreshRevision db context.revision.revisionId)
    (horder : BySequence db source.revisionId) : BySequence db' context.revision.revisionId := by
  intro x y hxy
  obtain ⟨n, hn, p, hp, hdepends, rfl, rfl, -⟩ := h.dependsOn hfresh hxy
  obtain ⟨n₀, hn₀, p₀, hp₀, hnid, hpid, hlt⟩ := horder _ _ hdepends
  obtain rfl := node_unique hn₀ hn hnid
  obtain rfl := node_unique hp₀ hp hpid
  obtain ⟨n', hn', hnid', hnseq⟩ := h.row hfresh hn
  obtain ⟨p', hp', hpid', hpseq⟩ := h.row hfresh hp
  refine ⟨n', hn', p', hp', hnid', hpid', ?_⟩
  rw [Earlier, hnseq, hpseq]
  exact hlt

/-- The context knows the sequence of every node of its revision. -/
def KnownSequences (context : ApplicationContext) (db : PlanDb) : Prop :=
  ∀ n ∈ nodesIn db context.revision.revisionId, ∃ live ∈ context.nodesByNewId,
    live.sequence = n.sequence.val

theorem Copied.knownSequences (h : Copied source context db db' context' copies)
    (hempty : context.nodesByNewId = []) (hcontext : context'.revision = context.revision)
    (hfresh : FreshRevision db context.revision.revisionId) : KnownSequences context' db' := by
  intro n hn
  rw [hcontext, h.nodesIn_new hfresh] at hn
  obtain ⟨m, c, hzip, rfl⟩ := mem_zipWith_parent hn
  refine ⟨⟨c.nodeId, c.sequence.val, .str c.code.text⟩, ?_, rfl⟩
  rw [h.remembered, rememberCopies_nodesByNewId, hempty, List.nil_append]
  exact List.mem_map.2 ⟨(m, c), hzip, rfl⟩

end

/-! ## A node at the end -/

theorem le_foldl_max {nodes : List LiveNode} {m : Nat} :
    m ≤ nodes.foldl (fun m n => max m n.sequence) m ∧
      ∀ n ∈ nodes, n.sequence ≤ nodes.foldl (fun m n => max m n.sequence) m := by
  induction nodes generalizing m with
  | nil => simp
  | cons n nodes ih =>
    obtain ⟨hm, hall⟩ := @ih (max m n.sequence)
    refine ⟨(le_max_left _ _).trans hm, fun k hk => ?_⟩
    rcases List.mem_cons.1 hk with rfl | hk
    · exact (le_max_right _ _).trans hm
    · exact hall k hk

theorem foldl_max_mem (ns : List LiveNode) (m : Nat) :
    ns.foldl (fun m n => max m n.sequence) m = m ∨
      ∃ n ∈ ns, ns.foldl (fun m n => max m n.sequence) m = n.sequence := by
  induction ns generalizing m with
  | nil => exact .inl rfl
  | cons n ns ih =>
    rw [List.foldl_cons]
    rcases ih (max m n.sequence) with heq | ⟨k, hk, heq⟩
    · rcases Nat.le_total m n.sequence with hle | hle
      · exact .inr ⟨n, List.mem_cons_self, by rw [heq, Nat.max_eq_right hle]⟩
      · exact .inl (by rw [heq, Nat.max_eq_left hle])
    · exact .inr ⟨k, List.mem_cons_of_mem _ hk, heq⟩

/-- The next sequence follows that of a node. -/
theorem nextNodeSequence_mem (context : ApplicationContext) : nextNodeSequence context = 10 ∨
    ∃ n ∈ context.nodesByNewId, nextNodeSequence context = n.sequence + 10 := by
  unfold nextNodeSequence
  cases context.nodesByNewId with
  | nil => exact .inl rfl
  | cons n ns =>
    refine .inr ?_
    rcases foldl_max_mem ns n.sequence with heq | ⟨k, hk, heq⟩
    · exact ⟨n, List.mem_cons_self, by simp only [heq]⟩
    · exact ⟨k, List.mem_cons_of_mem _ hk, by simp only [heq]⟩

/-- `next_node_sequence` is larger than every sequence of the context. -/
theorem lt_nextNodeSequence {live : LiveNode} (h : live ∈ context.nodesByNewId) :
    live.sequence < nextNodeSequence context := by
  unfold nextNodeSequence
  cases hnodes : context.nodesByNewId with
  | nil => simp [hnodes] at h
  | cons n nodes =>
    rw [hnodes] at h
    simp only
    obtain ⟨hm, hall⟩ := @le_foldl_max nodes n.sequence
    rcases List.mem_cons.1 h with rfl | h
    · omega
    · have hle := hall live h
      omega

theorem positiveInt_store_eq {n : Nat} {v : PositiveInt} (h : PositiveInt.store n = .ok v) :
    v.val = n := by
  unfold PositiveInt.store at h
  split at h
  · obtain rfl := Except.ok.inj h
    simp
  · cases h

/-- A node without a sequence comes after all others. -/
theorem NewNode.last {payload : List (String × Json)} {node : PlanNode}
    (h : NewNode py operation context payload node) (hknown : KnownSequences context db)
    (hsequence : getKey payload "sequence" = .scalar .none) :
    ∀ n ∈ nodesIn db context.revision.revisionId, Earlier n node := by
  intro n hn
  obtain ⟨live, hlive, heq⟩ := hknown n hn
  obtain ⟨i, hi, hstore⟩ := h.sequence
  rw [hsequence] at hi
  obtain rfl : (nextNodeSequence context : Int) = i := Except.ok.inj hi
  rw [Earlier, positiveInt_store_eq hstore, ← heq]
  exact lt_nextNodeSequence hlive

/-- A code that the payload refers to is that of the latest node with it. -/
theorem resolveNode_latest {payload : List (String × Json)} {code : String} {id : NodeId}
    {entries : List (String × NodeId)} {dependsOn : LiveNode}
    (hcodes : context.nodesByCode = (code, id) :: entries)
    (hid : getKey payload "depends_on_id" = .scalar .none)
    (hcode : getKey payload "depends_on_code" = .str code) (hne : code ≠ "")
    (h : resolveNode py payload context ["depends_on_id"] ["depends_on_code"] = .ok dependsOn) :
    dependsOn.nodeId = id := by
  have hids : resolveKeys py payload context.nodeOfId? ["depends_on_id"] = none := by
    simp [resolveKeys, hid, isBlank]
  have hkeys : resolveKeys py payload context.nodeOfCode? ["depends_on_code"] =
      context.nodeOfCode? code := by
    have hstr : py.str (.str code) = code := rfl
    simp [resolveKeys, hcode, isBlank, hne, hstr]
  rw [resolveNode, hids, hkeys] at h
  cases hfind : context.nodeOfCode? code with
  | none =>
    rw [hfind] at h
    cases h
  | some live =>
    rw [hfind] at h
    obtain rfl := Except.ok.inj h
    obtain ⟨found, hfound, hlive⟩ := Option.bind_eq_some_iff.1 hfind
    rw [hcodes, lookup_cons, if_pos rfl] at hfound
    obtain rfl := Option.some.inj hfound
    simpa using List.find?_some hlive

/-- **Backwards.** A node added without a sequence, and then a dependency on it by its code. -/
theorem backwards_of_added {addition link : PlanChangeOperation} {added linked : PlanDb}
    {context₁ context₂ : ApplicationContext} {payload newValue : List (String × Json)}
    {code : String} (hlinked : Linked context db) (hknown : KnownSequences context db)
    (hadd : OperationType.ofValue? addition.operationType = some .addNode)
    (hlink : OperationType.ofValue? link.operationType = some .addDependency)
    (hadded : applyOperation py context addition db = .ok context₁ added)
    (happlied : applyOperation py context₁ link added = .ok context₂ linked)
    (hpayload : operationPayload addition = .ok payload)
    (hsequence : getKey payload "sequence" = .scalar .none)
    (hcode : requiredStr py payload "code" addition = .ok code)
    (hnewValue : operationPayload link = .ok newValue)
    (hid : getKey newValue "depends_on_id" = .scalar .none)
    (hreference : getKey newValue "depends_on_code" = .str code) (hne : code ≠ "") :
    Backwards linked context.revision.revisionId := by
  obtain ⟨-, hchange⟩ := applyOperation_ok hadded
  have hrevision : context₁.revision.revisionId = context.revision.revisionId := by
    rw [hchange.revision.1]
  have hlinked₁ := hlinked.step hchange.step hrevision
  -- the new node
  have hnode : applyAddNode py addition context db = .ok context₁ added := by
    simpa only [applyOperation, hadd] using hadded
  obtain ⟨payload', p, nodes, requirements, hnew, rfl, hrows, -, hmaps, -⟩ :=
    applyAddNode_ok hnode
  obtain rfl := Except.ok.inj (hpayload.symm.trans hnew.reads)
  have hlast := hnew.last hknown hsequence
  have hcodes : context₁.nodesByCode = (code, p.nodeId) :: context.nodesByCode := by
    rw [hmaps.nodesByCode, Except.ok.inj (hcode.symm.trans hnew.code)]
    rfl
  -- the dependency on it
  have hdependency : applyAddDependency py link context₁
      { db with nodes := nodes, requirements := requirements } = .ok context₂ linked := by
    simpa only [applyOperation, hlink] using happlied
  obtain ⟨newValue', node, dependsOn, dependency, dependencies, hnewDependency, rfl, hdependencies,
    -⟩ := applyAddDependency_ok hdependency
  obtain rfl := Except.ok.inj (hnewValue.symm.trans hnewDependency.reads)
  have hprerequisite : dependsOn.nodeId = p.nodeId :=
    resolveNode_latest hcodes hid hreference hne hnewDependency.prerequisite
  obtain ⟨n, hn, hnid⟩ := hlinked₁.live node (resolveNode_mem hnewDependency.target)
  rw [hrevision] at hn
  have hp : p ∈ nodesIn { db with nodes := nodes, requirements := requirements }
      context.revision.revisionId :=
    mem_nodesIn.2 ⟨hrows ▸ List.mem_append_right _ List.mem_cons_self, hnew.revision⟩
  refine ⟨n, hn, p, hp, ⟨dependency, ?_, ?_, ?_⟩, ?_⟩
  · refine List.mem_filter.2 ⟨hdependencies ▸ List.mem_append_right _ List.mem_cons_self, ?_⟩
    rw [hnewDependency.revision, hrevision, decide_eq_true_eq]
  · rw [hnewDependency.ends.1, hnid]
  · rw [hnewDependency.ends.2, hprerequisite]
  · obtain ⟨hnrow, hnrevision⟩ := mem_nodesIn.1 hn
    rcases List.mem_append.1 (hrows ▸ hnrow : n ∈ db.nodes.rows ++ [p]) with hold | hnew
    · exact .inl (hlast n (mem_nodesIn.2 ⟨hold, hnrevision⟩))
    · exact .inr (by rw [List.mem_singleton.1 hnew])

/-! ## Applications -/

/-- The dependencies of the nodes of the revision belong to the revision. -/
def OwnDependencies (db : PlanDb) (revision : RevisionId) : Prop :=
  ∀ d ∈ db.dependencies.rows, HasNode db revision d.node → d.revision = revision

/-- Nodes stay in their revisions, and new dependencies belong to the given one. -/
structure KeepsOwners (revision : RevisionId) (db db' : PlanDb) : Prop where
  nodes : ∀ n ∈ db.nodes.rows, ∃ m ∈ db'.nodes.rows, m.nodeId = n.nodeId ∧ m.revision = n.revision
  dependencies : ∀ d ∈ db'.dependencies.rows, d ∈ db.dependencies.rows ∨ d.revision = revision

theorem KeepsOwners.refl (revision : RevisionId) (db : PlanDb) : KeepsOwners revision db db :=
  ⟨fun n hn => ⟨n, hn, rfl, rfl⟩, fun _ hd => .inl hd⟩

theorem KeepsOwners.trans {a b c : PlanDb} (h : KeepsOwners revision a b)
    (h' : KeepsOwners revision b c) : KeepsOwners revision a c := by
  refine ⟨fun n hn => ?_, fun d hd => ?_⟩
  · obtain ⟨m, hm, hid, hrevision⟩ := h.nodes n hn
    obtain ⟨k, hk, hkid, hkrevision⟩ := h'.nodes m hm
    exact ⟨k, hk, hkid.trans hid, hkrevision.trans hrevision⟩
  · exact (h'.dependencies d hd).elim (h.dependencies d) .inr

theorem Change.keepsOwners (h : Change py operation context context' db db') :
    KeepsOwners context.revision.revisionId db db' := by
  cases h with
  | kept nodes dependencies maps =>
    exact ⟨fun n hn => ⟨n, nodes ▸ hn, rfl, rfl⟩, fun d hd => .inl (dependencies ▸ hd)⟩
  | added payload node type new rows dependencies maps =>
    exact ⟨fun n hn => ⟨n, rows ▸ List.mem_append_left _ hn, rfl, rfl⟩,
      fun d hd => .inl (dependencies ▸ hd)⟩
  | linked payload node dependsOn dependency type new nodes rows maps =>
    refine ⟨fun n hn => ⟨n, nodes ▸ hn, rfl, rfl⟩, fun d hd => ?_⟩
    rcases List.mem_append.1 (rows ▸ hd : d ∈ db.dependencies.rows ++ [dependency]) with hd | hd
    · exact .inl hd
    · rw [List.mem_singleton.1 hd]
      exact .inr new.revision
  | updated payload node assignment type update rows dependencies maps =>
    refine ⟨fun n hn => ⟨_, rows ▸ List.mem_map_of_mem hn, ?_, ?_⟩,
      fun d hd => .inl (dependencies ▸ hd)⟩
    · split
      · exact assignment.keepsId n
      · rfl
    · split
      · exact (fieldAssignment_ok update.assigns).revision n
      · rfl

theorem Copied.keepsOwners {source : PlanRevision} {copies : List PlanNode}
    (h : Copied source context db db' context' copies) :
    KeepsOwners context'.revision.revisionId db db' := by
  obtain ⟨ds, hds, hrows⟩ := h.dependencies
  refine ⟨fun n hn => ⟨n, h.nodeRows ▸ List.mem_append_left _ hn, rfl, rfl⟩, fun d hd => ?_⟩
  rcases List.mem_append.1 (hrows ▸ hd : d ∈ db.dependencies.rows ++ ds) with hd | hd
  · exact .inl hd
  · obtain ⟨source, -, hcopied⟩ := forall₂_right hds hd
    exact .inr (congrArg PlanDependency.revision hcopied.2.2)

/-- What every change keeps stays true over all operations. -/
theorem applyOperations_carries (I : ApplicationContext → PlanDb → Prop)
    {operations : List PlanChangeOperation}
    (hstep : ∀ o ∈ operations, ∀ c c' s s', I c s → Change py o c c' s s' → I c' s')
    (h₀ : I context db) (h : operations.foldlM (applyOperation py) context db = .ok context' db') :
    I context' db' :=
  foldlM_invariant (fun o ho c s c' s' hinv hx => hstep o ho c c' s s' hinv (applyOperation_ok hx).2)
    h₀ h

theorem applyOperations_keepsOwners {operations : List PlanChangeOperation}
    (h : operations.foldlM (applyOperation py) context db = .ok context' db') :
    KeepsOwners context.revision.revisionId db db' :=
  (applyOperations_carries (fun c s => c.revision.revisionId = context.revision.revisionId ∧
      KeepsOwners context.revision.revisionId db s)
    (fun _ _ _ _ _ _ hinv hchange => ⟨by rw [hchange.revision.1]; exact hinv.1,
      hinv.2.trans (hinv.1 ▸ hchange.keepsOwners)⟩) ⟨rfl, .refl _ db⟩ h).2

section

variable {locked : PlanChangeSet} {newId : RevisionId}

/-- Where no operation adds a dependency or sets a sequence, the order by sequence is kept. -/
theorem applyPlanChangeSet_bySequence (h : applyPlanChangeSet py call db = .ok newId db')
    (hlocked : locked ∈ db.changeSets.rows) (hid : locked.changeSetId = call.changeSetId)
    (hstatus : locked.status ≠ .applied) (hkeys : ForeignKeys db)
    (hno : ∀ o ∈ changeSetOperations db locked.changeSetId, ¬ UpdatesSequence o ∧
      OperationType.ofValue? o.operationType ≠ some .addDependency)
    (horder : BySequence db locked.planRevision) : BySequence db' newId := by
  obtain ⟨source, revision, start, copied, applied, context₁, context₂, stages, rfl⟩ :=
    applyPlanChangeSet_stages h hlocked hid hstatus
  obtain ⟨-, hsourceId⟩ := Table.get?_eq_some.1 stages.fetched
  obtain ⟨copies, hcopied⟩ := copyRevisionContents_ok rfl stages.copy
  have hcontext : context₁.revision = revision := by
    rw [hcopied.remembered, (rememberCopies_frame _).1]
    rfl
  have hstart : BySequence start source.revisionId := by
    obtain ⟨-, hdependencies, -⟩ := stages.start_samePlan.shape (r := source.revisionId)
    unfold BySequence Ordered
    rw [hdependencies, stages.start_samePlan.nodesIn, hsourceId]
    exact horder
  have hcopy := hcopied.bySequence (stages.fresh hkeys) hstart
  have happlied := stages.carries (fun context state =>
    context.revision.revisionId = revision.revisionId ∧
      BySequence state context.revision.revisionId) ⟨by rw [hcontext], by rw [hcontext]; exact hcopy⟩
    fun o c c' s s' _ ho hinv hstep hrevision => ⟨hrevision.trans hinv.1, by
      rw [hrevision]
      exact hinv.2.step hstep (hno o ho).1 (hno o ho).2⟩
  obtain ⟨-, hdependencies, -⟩ := stages.applied_samePlan.shape (r := revision.revisionId)
  unfold BySequence Ordered
  rw [hdependencies, stages.applied_samePlan.nodesIn, ← happlied.1]
  exact happlied.2

/-- Where the operations begin with a node without a sequence and a dependency on it, the new
revision has a dependency that points backwards. -/
theorem applyPlanChangeSet_backwards (h : applyPlanChangeSet py call db = .ok newId db')
    (hlocked : locked ∈ db.changeSets.rows) (hid : locked.changeSetId = call.changeSetId)
    (hstatus : locked.status ≠ .applied) (hkeys : ForeignKeys db)
    {addition link : PlanChangeOperation} {rest : List PlanChangeOperation}
    {payload newValue : List (String × Json)} {code : String}
    (hoperations : changeSetOperations db locked.changeSetId = addition :: link :: rest)
    (hrest : ∀ o ∈ rest, ¬ UpdatesSequence o)
    (hadd : OperationType.ofValue? addition.operationType = some .addNode)
    (hlink : OperationType.ofValue? link.operationType = some .addDependency)
    (hpayload : operationPayload addition = .ok payload)
    (hsequence : getKey payload "sequence" = .scalar .none)
    (hcode : requiredStr py payload "code" addition = .ok code)
    (hnewValue : operationPayload link = .ok newValue)
    (hnoId : getKey newValue "depends_on_id" = .scalar .none)
    (hreference : getKey newValue "depends_on_code" = .str code) (hne : code ≠ "") :
    Backwards db' newId := by
  obtain ⟨source, revision, start, copied, applied, context₁, context₂, stages, rfl⟩ :=
    applyPlanChangeSet_stages h hlocked hid hstatus
  obtain ⟨copies, hcopied⟩ := copyRevisionContents_ok rfl stages.copy
  have hcontext : context₁.revision = revision := by
    rw [hcopied.remembered, (rememberCopies_frame _).1]
    rfl
  have hlinked : Linked context₁ copied := (stages.copied_shape hkeys).2.1
  have hknown : KnownSequences context₁ copied :=
    hcopied.knownSequences rfl hcontext (stages.fresh hkeys)
  have hfold := stages.operations
  rw [hoperations, List.foldlM_cons] at hfold
  obtain ⟨contextAdded, added, hadded, hfold⟩ := run_bind_ok.1 hfold
  rw [List.foldlM_cons] at hfold
  obtain ⟨contextLinked, linked, happlied, hfold⟩ := run_bind_ok.1 hfold
  have hback := backwards_of_added hlinked hknown hadd hlink hadded happlied hpayload hsequence
    hcode hnewValue hnoId hreference hne
  have hrevision : contextLinked.revision.revisionId = context₁.revision.revisionId := by
    rw [(applyOperation_ok happlied).2.revision.1, (applyOperation_ok hadded).2.revision.1]
  have hcarried : context₂.revision.revisionId = revision.revisionId ∧
      Backwards applied context₂.revision.revisionId := by
    refine applyOperations_carries (fun c s => c.revision.revisionId = revision.revisionId ∧
      Backwards s c.revision.revisionId) (fun o ho c c' s s' hinv hchange => ?_)
      ⟨by rw [hrevision, hcontext], by rw [hrevision]; exact hback⟩ hfold
    have hsame : c'.revision.revisionId = c.revision.revisionId := by rw [hchange.revision.1]
    exact ⟨hsame.trans hinv.1, hsame ▸ hinv.2.step hchange.step (hrest o ho)⟩
  obtain ⟨-, hdependencies, -⟩ := stages.applied_samePlan.shape (r := revision.revisionId)
  unfold Backwards
  rw [hdependencies, stages.applied_samePlan.nodesIn, ← hcarried.1]
  exact hcarried.2

/-- The nodes of a new revision have its own dependencies only. -/
theorem applyPlanChangeSet_ownDependencies (h : applyPlanChangeSet py call db = .ok newId db')
    (hlocked : locked ∈ db.changeSets.rows) (hid : locked.changeSetId = call.changeSetId)
    (hstatus : locked.status ≠ .applied) (hkeys : ForeignKeys db)
    (hends : ∀ d ∈ db.dependencies.rows, ∃ n ∈ db.nodes.rows, n.nodeId = d.node) :
    OwnDependencies db' newId := by
  obtain ⟨source, revision, start, copied, applied, context₁, context₂, stages, rfl⟩ :=
    applyPlanChangeSet_stages h hlocked hid hstatus
  obtain ⟨copies, hcopied⟩ := copyRevisionContents_ok rfl stages.copy
  have hcontext : context₁.revision = revision := by
    rw [hcopied.remembered, (rememberCopies_frame _).1]
    rfl
  have howners := hcopied.keepsOwners.trans (applyOperations_keepsOwners stages.operations)
  rw [hcontext] at howners
  have hstart := stages.start_samePlan
  have hfinal := stages.applied_samePlan
  intro d hd ⟨row, hrow, hrowId⟩
  rw [hfinal.dependencies] at hd
  rcases howners.dependencies d hd with hold | hnew
  · -- the node is an old one, and old nodes stay in their revisions
    rw [hstart.dependencies] at hold
    obtain ⟨n, hn, hnid⟩ := hends d hold
    obtain ⟨m, hm, hmid, hmrevision⟩ := howners.nodes n (hstart.nodes ▸ hn)
    rw [hfinal.nodesIn] at hrow
    obtain ⟨hrow, hrevision⟩ := mem_nodesIn.1 hrow
    have heq : m = row := applied.nodes.eq_of_pk hm hrow (by rw [hmid, hnid, hrowId])
    have hfresh := (stages.fresh hkeys).nodes n (hstart.nodes ▸ hn)
    exact absurd ((hmrevision.symm.trans (congrArg PlanNode.revision heq)).trans hrevision) hfresh
  · exact hnew

end

/-! ## Ties -/

/-- Two nodes of one sequence, the second of which depends on the first. -/
def tiedPlan : PlanDb :=
  { pilotDb with
    nodes := tableOf [pilotNode "n" "A" none (positive 10), pilotNode "n-a" "B" none (positive 10)]
    dependencies := tableOf [{
      dependencyId := keyOf key96_pos "dep-a-b"
      revision := pilotRevision.revisionId
      node := keyOf key96_pos "n-a"
      dependsOn := keyOf key96_pos "n"
      dependencyType := .cut DependencyType.finishToStart
      description := ""
      metadata := .obj [] }] }

/-- The ids of the copies need not stand in the order of the ids: `n` precedes `n-a`, and
`n-a-v0-0-2` precedes `n-v0-0-2`. -/
theorem tiedPlan_outOfOrder : InOrder tiedPlan pilotRevision.revisionId ∧ ∃ newId db',
    applyPlanChangeSet textPython publishFirst tiedPlan = .ok newId db' ∧ ¬ InOrder db' newId := by
  have horder : JoinsAll Precedes tiedPlan pilotRevision.revisionId := by decide +kernel
  obtain ⟨newId, db', h, hback⟩ := returnsWith_iff.1 (show returnsWith
    (fun newId db' => decide (JoinsSome (fun p n => ¬ Precedes p n) db' newId))
    (applyPlanChangeSet textPython publishFirst) tiedPlan = true by decide +kernel)
  exact ⟨horder.ordered, newId, db', h, (of_decide_eq_true hback).not_inOrder⟩

end LiveOs.Planning
