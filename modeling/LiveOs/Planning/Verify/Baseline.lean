import LiveOs.Planning.Verify.Application

/-!
# Runs of applications

The calls of `apply_plan_change_set` in any order, on any change sets, returned or raised. An applied
change set is never written again, ids only accumulate, and the revisions published by the calls are
one in each plan.
-/

namespace LiveOs.Planning

open Lib

variable {py : Python} {call : ApplyCall} {db db' : PlanDb} {newId : RevisionId}

/-! ## Published rows -/

/-- What a publication does to a row. -/
def publishedRow (revision : PlanRevision) (publishedAt : Nat) (r : PlanRevision) : PlanRevision :=
  if r.revisionId = revision.revisionId then
    if revision.status ≠ .published ∨ revision.publishedAt = none then
      { r with status := .published, publishedAt := some publishedAt }
    else r
  else if r.plan = revision.plan ∧ r.status = .published then { r with status := .retired }
  else r

variable {revision r : PlanRevision} {publishedAt : Nat}

theorem retiredTable_rows (revisions : RevisionTable) :
    (retiredTable revision revisions).rows = revisions.rows.map fun r =>
      if (r.plan = revision.plan && r.status = .published && r.revisionId ≠ revision.revisionId) = true
      then { r with status := .retired } else r := rfl

theorem publishedTable_rows (revisions : RevisionTable) :
    (publishedTable revision publishedAt revisions).rows =
      revisions.rows.map (publishedRow revision publishedAt) := by
  by_cases hnew : revision.status ≠ .published ∨ revision.publishedAt = none
  · rw [publishedTable, if_pos hnew, Table.modify_rows, retiredTable_rows, List.map_map]
    refine List.map_congr_left fun r _ => ?_
    unfold publishedRow
    by_cases hid : r.revisionId = revision.revisionId
    · simp [hid, hnew]
    · by_cases hother : r.plan = revision.plan ∧ r.status = .published
      · simp [hid, hother.1, hother.2]
      · have hcond : (r.plan = revision.plan && r.status = .published &&
            r.revisionId ≠ revision.revisionId) = false := by
          simpa using fun h h' => absurd ⟨h, h'⟩ hother
        simp only [Function.comp_apply, hcond, if_neg hid, if_neg hother]
        simp [hid]
  · rw [publishedTable, if_neg hnew, retiredTable_rows]
    refine List.map_congr_left fun r _ => ?_
    unfold publishedRow
    by_cases hid : r.revisionId = revision.revisionId
    · simp [hid, hnew]
    · simp [hid]

@[simp] theorem publishedRow_revisionId :
    (publishedRow revision publishedAt r).revisionId = r.revisionId := by
  unfold publishedRow
  repeat' split
  all_goals rfl

@[simp] theorem publishedRow_plan : (publishedRow revision publishedAt r).plan = r.plan := by
  unfold publishedRow
  repeat' split
  all_goals rfl

@[simp] theorem publishedRow_revisionCode :
    (publishedRow revision publishedAt r).revisionCode = r.revisionCode := by
  unfold publishedRow
  repeat' split
  all_goals rfl

@[simp] theorem publishedRow_metadata :
    (publishedRow revision publishedAt r).metadata = r.metadata := by
  unfold publishedRow
  repeat' split
  all_goals rfl

/-- Of the plan, only the revision itself is published afterwards. -/
theorem publishedRow_published (h : (publishedRow revision publishedAt r).status = .published)
    (hplan : r.plan = revision.plan) : r.revisionId = revision.revisionId := by
  by_contra hid
  rw [publishedRow, if_neg hid] at h
  by_cases hstatus : r.status = .published
  · rw [if_pos ⟨hplan, hstatus⟩] at h
    cases h
  · rw [if_neg (fun hboth => hstatus hboth.2)] at h
    exact hstatus h

/-- Other plans are left alone. -/
theorem publishedRow_other (hid : r.revisionId ≠ revision.revisionId)
    (hplan : r.plan ≠ revision.plan) : publishedRow revision publishedAt r = r := by
  rw [publishedRow, if_neg hid, if_neg (fun hboth => hplan hboth.1)]

/-! ## One baseline in each plan -/

/-- At most one published revision in each plan. -/
def OneBaseline (revisions : List PlanRevision) : Prop :=
  ∀ r ∈ revisions, ∀ s ∈ revisions, r.plan = s.plan → r.status = .published →
    s.status = .published → r.revisionId = s.revisionId

instance (revisions : List PlanRevision) : Decidable (OneBaseline revisions) :=
  inferInstanceAs (Decidable (∀ r ∈ revisions, ∀ s ∈ revisions, _ → _))

/-- The columns that the baseline of a plan depends on. -/
def baselineColumns (r : PlanRevision) : RevisionId × String × RevisionStatus :=
  (r.revisionId, r.plan, r.status)

theorem OneBaseline.congr {rows rows' : List PlanRevision}
    (h : rows'.map baselineColumns = rows.map baselineColumns) (hone : OneBaseline rows) :
    OneBaseline rows' := by
  have hold : ∀ r' ∈ rows', ∃ r ∈ rows, baselineColumns r = baselineColumns r' := by
    intro r' hr'
    exact List.mem_map.1 (h ▸ List.mem_map_of_mem hr')
  intro r' hr' s' hs' hplan hr hs
  obtain ⟨r₀, hr₀, hrcols⟩ := hold r' hr'
  obtain ⟨s₀, hs₀, hscols⟩ := hold s' hs'
  simp only [baselineColumns, Prod.mk.injEq] at hrcols hscols
  rw [← hrcols.1, ← hscols.1]
  apply hone r₀ hr₀ s₀ hs₀
  · rw [hrcols.2.1, hscols.2.1, hplan]
  · rw [hrcols.2.2, hr]
  · rw [hscols.2.2, hs]

theorem OneBaseline.append_draft {rows : List PlanRevision} (hone : OneBaseline rows)
    (hdraft : r.status = .draft) : OneBaseline (rows ++ [r]) := by
  have hrow : ∀ x ∈ rows ++ [r], x.status = .published → x ∈ rows := by
    intro x hx hpub
    rcases List.mem_append.1 hx with hx | hx
    · exact hx
    · rw [List.mem_singleton.1 hx, hdraft] at hpub
      cases hpub
  intro x hx y hy hplan hxpub hypub
  exact hone x (hrow x hx hxpub) y (hrow y hy hypub) hplan hxpub hypub

/-- **Publication.** The revision that is published replaces the one that was. -/
theorem OneBaseline.publish {rows : List PlanRevision} (hone : OneBaseline rows)
    (hplan : ∀ r ∈ rows, r.revisionId = revision.revisionId → r.plan = revision.plan) :
    OneBaseline (rows.map (publishedRow revision publishedAt)) := by
  intro x hx y hy hxy hxpub hypub
  obtain ⟨r, hr, rfl⟩ := List.mem_map.1 hx
  obtain ⟨s, hs, rfl⟩ := List.mem_map.1 hy
  rw [publishedRow_plan, publishedRow_plan] at hxy
  rw [publishedRow_revisionId, publishedRow_revisionId]
  by_cases hin : r.plan = revision.plan
  · rw [publishedRow_published hxpub hin, publishedRow_published hypub (hxy ▸ hin)]
  · have hrid : r.revisionId ≠ revision.revisionId := fun hid => hin (hplan r hr hid)
    have hsid : s.revisionId ≠ revision.revisionId := fun hid => hin (hxy ▸ hplan s hs hid)
    rw [publishedRow_other hrid hin] at hxpub
    rw [publishedRow_other hsid (hxy ▸ hin)] at hypub
    exact hone r hr s hs hxy hxpub hypub

/-! ## Columns that are never written again -/

/-- The name of a revision in the database. -/
def revisionName (r : PlanRevision) : RevisionId × String × VarChar 64 :=
  (r.revisionId, r.plan, r.revisionCode)

/-- Rows are only appended, and no row changes its ids. -/
structure Grows (db db' : PlanDb) : Prop where
  revisions : db.revisions.rows.map revisionName <+: db'.revisions.rows.map revisionName
  nodes : db.nodes.rows.map PlanNode.nodeId <+: db'.nodes.rows.map PlanNode.nodeId
  requirements : db.requirements.rows <+: db'.requirements.rows
  impacts : db.impacts.rows <+: db'.impacts.rows
  dependencies : db.dependencies.rows <+: db'.dependencies.rows

theorem prefix_of_eq {α : Type} {xs ys : List α} (h : xs = ys) : xs <+: ys := h ▸ List.prefix_rfl

theorem Grows.refl (db : PlanDb) : Grows db db :=
  ⟨List.prefix_refl _, List.prefix_refl _, List.prefix_refl _, List.prefix_refl _,
    List.prefix_refl _⟩

theorem Grows.trans {a b c : PlanDb} (h : Grows a b) (h' : Grows b c) : Grows a c :=
  ⟨h.1.trans h'.1, h.2.trans h'.2, h.3.trans h'.3, h.4.trans h'.4, h.5.trans h'.5⟩

theorem SameRevisions.map_eq {α : Type} {id : RevisionId} {f : PlanRevision → α}
    (hf : ∀ r, f (forgetMetadata id r) = f r) (h : SameRevisions id db db') :
    db'.revisions.rows.map f = db.revisions.rows.map f := by
  have hcomp : f = f ∘ forgetMetadata id := funext fun r => (hf r).symm
  rw [hcomp, ← List.map_map, ← List.map_map, h]

theorem forgetMetadata_name (id : RevisionId) (r : PlanRevision) :
    revisionName (forgetMetadata id r) = revisionName r := by
  unfold forgetMetadata
  split <;> rfl

theorem forgetMetadata_baseline (id : RevisionId) (r : PlanRevision) :
    baselineColumns (forgetMetadata id r) = baselineColumns r := by
  unfold forgetMetadata
  split <;> rfl

/-- An operation appends rows and keeps ids. -/
theorem Change.grows {operation : PlanChangeOperation} {context context' : ApplicationContext}
    (hframe : Frame context.revision.revisionId db db')
    (h : Change py operation context context' db db') : Grows db db' := by
  have hrevisions := (hframe.revisions.map_eq (forgetMetadata_name _)).symm
  cases h with
  | kept nodes dependencies maps =>
    exact ⟨prefix_of_eq hrevisions, prefix_of_eq (by rw [nodes]), hframe.requirements, hframe.impacts,
      prefix_of_eq (by rw [dependencies])⟩
  | added payload node type new rows dependencies maps =>
    exact ⟨prefix_of_eq hrevisions, by rw [rows, List.map_append]; exact List.prefix_append _ _,
      hframe.requirements, hframe.impacts, prefix_of_eq (by rw [dependencies])⟩
  | linked payload node dependsOn dependency type new nodes rows maps =>
    exact ⟨prefix_of_eq hrevisions, prefix_of_eq (by rw [nodes]), hframe.requirements, hframe.impacts,
      rows ▸ List.prefix_append _ _⟩
  | updated payload node assignment type update rows dependencies maps =>
    refine ⟨prefix_of_eq hrevisions, prefix_of_eq ?_, hframe.requirements, hframe.impacts,
      prefix_of_eq (by rw [dependencies])⟩
    rw [rows, List.map_map]
    refine List.map_congr_left fun n _ => ?_
    rw [Function.comp_apply]
    split
    · exact (assignment.keepsId n).symm
    · rfl

theorem applyOperations_grows {operations : List PlanChangeOperation}
    {context context' : ApplicationContext}
    (h : operations.foldlM (applyOperation py) context db = .ok context' db') : Grows db db' :=
  foldlM_rel (R := fun p q => Grows p.2 q.2) (fun p => .refl p.2) (fun _ _ _ => Grows.trans)
    (fun _ _ _ _ _ _ hx => (applyOperation_ok hx).2.grows (applyOperation_ok hx).1) h

theorem Copied.grows {source : PlanRevision} {context context' : ApplicationContext}
    {copies : List PlanNode} (h : Copied source context db db' context' copies) : Grows db db' := by
  obtain ⟨rs, -, hrs⟩ := h.requirements
  obtain ⟨is, -, his⟩ := h.impacts
  obtain ⟨ds, -, hds⟩ := h.dependencies
  refine ⟨?_, ?_, hrs ▸ List.prefix_append _ _, his ▸ List.prefix_append _ _,
    hds ▸ List.prefix_append _ _⟩
  · exact prefix_of_eq (by rw [h.frame])
  · rw [h.nodeRows, List.map_append]
    exact List.prefix_append _ _

/-! ## A fresh application -/

section

variable {locked : PlanChangeSet} {source : PlanRevision} {start copied applied : PlanDb}
  {context₁ context₂ : ApplicationContext}

/-- The revision of the context is the new one, but for its metadata. -/
theorem Stages.context_revision
    (h : Stages py call locked db db' source revision start copied applied context₁ context₂) :
    context₂.revision = { revision with metadata := context₂.revision.metadata } ∧
      ∀ key ≠ "capacity_policy",
        metadataKey context₂.revision.metadata key = metadataKey revision.metadata key := by
  obtain ⟨copies, hcopied⟩ := copyRevisionContents_ok rfl h.copy
  have hframe := applyOperations_frame h.operations
  have hcontext : context₁.revision = revision := by
    rw [hcopied.remembered, (rememberCopies_frame _).1]
    rfl
  rw [← hcontext]
  exact ⟨hframe.revision, hframe.metadata⟩

/-- The revisions before the last writes: the old ones and the new draft. -/
theorem Stages.revisions {α : Type} {f : PlanRevision → α}
    (hf : ∀ r, f (forgetMetadata revision.revisionId r) = f r)
    (h : Stages py call locked db db' source revision start copied applied context₁ context₂) :
    applied.revisions.rows.map f = (db.revisions.rows ++ [revision]).map f := by
  obtain ⟨copies, hcopied⟩ := copyRevisionContents_ok rfl h.copy
  have hframe := (applyOperations_frame h.operations).frame
  have hcontext : context₁.revision.revisionId = revision.revisionId := by
    rw [hcopied.remembered, (rememberCopies_frame _).1]
    rfl
  rw [hcontext] at hframe
  rw [hframe.revisions.map_eq hf, hcopied.frame, h.enteredRows]

theorem Stages.id_eq
    (h : Stages py call locked db db' source revision start copied applied context₁ context₂) :
    context₂.revision.revisionId = revision.revisionId := by
  rw [h.context_revision.1]

/-- A column that neither the metadata nor a publication changes. -/
theorem finishedRevisions_map {α : Type} {f : PlanRevision → α} {metadata : Json}
    (revisions : RevisionTable) (hmetadata : ∀ r v, f { r with metadata := v } = f r)
    (hpublished : ∀ r s t, f (publishedRow s t r) = f r) :
    (finishedRevisions call revision metadata revisions).rows.map f = revisions.rows.map f := by
  have hsaved : (revisions.modify revision.revisionId (fun r => { r with metadata := metadata })
      (fun _ => rfl) fun _ => rfl).rows.map f = revisions.rows.map f := by
    rw [Table.modify_rows, List.map_map]
    refine List.map_congr_left fun r _ => ?_
    rw [Function.comp_apply]
    split
    · exact hmetadata r metadata
    · rfl
  rw [finishedRevisions]
  split
  · rw [publishedTable_rows, List.map_map]
    exact (List.map_congr_left fun r _ => hpublished r _ _).trans hsaved
  · exact hsaved

theorem Stages.grows
    (h : Stages py call locked db db' source revision start copied applied context₁ context₂) :
    Grows db db' := by
  obtain ⟨copies, hcopied⟩ := copyRevisionContents_ok rfl h.copy
  have hstart : Grows db start := by
    rw [h.entered]
    refine ⟨?_, List.prefix_refl _, List.prefix_refl _, List.prefix_refl _, List.prefix_refl _⟩
    show db.revisions.rows.map revisionName <+: start.revisions.rows.map revisionName
    rw [h.enteredRows, List.map_append]
    exact List.prefix_append _ _
  have happlied := (hstart.trans hcopied.grows).trans (applyOperations_grows h.operations)
  obtain ⟨account, revisionMetadata, changeSetMetadata, -, rfl⟩ := h.result
  refine ⟨?_, happlied.nodes, happlied.requirements, happlied.impacts, happlied.dependencies⟩
  show _ <+: (finishedRevisions _ _ _ _).rows.map revisionName
  rw [finishedRevisions_map applied.revisions (fun _ _ => rfl) (fun r s t => by simp [revisionName])]
  exact happlied.revisions

theorem Stages.oneBaseline
    (h : Stages py call locked db db' source revision start copied applied context₁ context₂)
    (hone : OneBaseline db.revisions.rows) : OneBaseline db'.revisions.rows := by
  obtain ⟨-, -, -, hdraft, -⟩ := newRevision_ok h.new
  have hcols := h.revisions (f := baselineColumns) (forgetMetadata_baseline _)
  have happlied : OneBaseline applied.revisions.rows := (hone.append_draft hdraft).congr hcols
  obtain ⟨account, metadata, changeSetMetadata, -, rfl⟩ := h.result
  show OneBaseline (finishedRevisions _ _ _ _).rows
  have hsaved : ((applied.revisions.modify context₂.revision.revisionId
      (fun r => { r with metadata := metadata }) (fun _ => rfl) fun _ => rfl).rows.map
        baselineColumns) = (db.revisions.rows ++ [revision]).map baselineColumns := by
    rw [← hcols, Table.modify_rows, List.map_map]
    refine List.map_congr_left fun r _ => ?_
    rw [Function.comp_apply]
    split <;> rfl
  have honesaved := (hone.append_draft hdraft).congr hsaved
  rw [finishedRevisions]
  split
  · rw [publishedTable_rows]
    refine honesaved.publish fun r hr hid => ?_
    have hmem : baselineColumns r ∈ (db.revisions.rows ++ [revision]).map baselineColumns :=
      hsaved ▸ List.mem_map_of_mem hr
    obtain ⟨r₀, hr₀, hcolumns⟩ := List.mem_map.1 hmem
    simp only [baselineColumns, Prod.mk.injEq] at hcolumns
    have hid₀ : r₀.revisionId = revision.revisionId := hcolumns.1.trans (hid.trans h.id_eq)
    rcases List.mem_append.1 hr₀ with hr₀ | hr₀
    · exact absurd hid₀ (h.free r₀ hr₀)
    · rw [← hcolumns.2.1, List.mem_singleton.1 hr₀]
      show revision.plan = context₂.revision.plan
      rw [h.context_revision.1]
  · exact honesaved

/-- Change sets that are applied already stay as they are. -/
theorem Stages.applied_kept
    (h : Stages py call locked db db' source revision start copied applied context₁ context₂)
    (hlocked : locked ∈ db.changeSets.rows) (hstatus : locked.status ≠ .applied)
    {c : PlanChangeSet} (hc : c ∈ db.changeSets.rows) (happlied : c.status = .applied) :
    c ∈ db'.changeSets.rows := by
  obtain ⟨copies, hcopied⟩ := copyRevisionContents_ok rfl h.copy
  have hsets : applied.changeSets = db.changeSets := by
    rw [(applyOperations_frame h.operations).frame.changeSets, hcopied.frame, h.entered]
  obtain ⟨account, metadata, changeSetMetadata, -, rfl⟩ := h.result
  show c ∈ (finishedChangeSets _ _ _ _ _).rows
  rw [finishedChangeSets, Table.modify_rows, hsets, List.mem_map]
  refine ⟨c, hc, if_neg fun hid => hstatus ?_⟩
  rw [← db.changeSets.eq_of_pk hc hlocked hid, happlied]

end

/-! ## Calls and runs -/

/-- Everything but what a publication writes. -/
structure SameContents (db db' : PlanDb) : Prop where
  revisions : db'.revisions.rows.map revisionName = db.revisions.rows.map revisionName
  nodes : db'.nodes = db.nodes
  requirements : db'.requirements = db.requirements
  impacts : db'.impacts = db.impacts
  dependencies : db'.dependencies = db.dependencies
  changeSets : db'.changeSets = db.changeSets

theorem SameContents.refl (db : PlanDb) : SameContents db db := ⟨rfl, rfl, rfl, rfl, rfl, rfl⟩

theorem sameContents_publish {existing : PlanRevision} {now : Nat} :
    SameContents db { db with revisions := publishedTable existing now db.revisions } := by
  refine ⟨?_, rfl, rfl, rfl, rfl, rfl⟩
  show (publishedTable existing now db.revisions).rows.map revisionName = _
  rw [publishedTable_rows, List.map_map]
  exact List.map_congr_left fun r _ => by simp [revisionName]

theorem SameContents.grows (h : SameContents db db') : Grows db db' :=
  ⟨prefix_of_eq h.revisions.symm, prefix_of_eq (by rw [h.nodes]),
    prefix_of_eq (by rw [h.requirements]), prefix_of_eq (by rw [h.impacts]),
    prefix_of_eq (by rw [h.dependencies])⟩

/-- What every call keeps, returned or raised. -/
structure Kept (db db' : PlanDb) : Prop where
  grows : Grows db db'
  applied : ∀ c ∈ db.changeSets.rows, c.status = .applied → c ∈ db'.changeSets.rows
  oneBaseline : OneBaseline db.revisions.rows → OneBaseline db'.revisions.rows

theorem Kept.refl (db : PlanDb) : Kept db db := ⟨.refl db, fun _ hc _ => hc, id⟩

theorem Kept.trans {a b c : PlanDb} (h : Kept a b) (h' : Kept b c) : Kept a c :=
  ⟨h.grows.trans h'.grows, fun s hs hstatus => h'.applied s (h.applied s hs hstatus) hstatus,
    h'.oneBaseline ∘ h.oneBaseline⟩

/-- **Calls.** -/
theorem applyPlanChangeSet_kept : Kept db (finalState (applyPlanChangeSet py call) db) := by
  cases h : applyPlanChangeSet py call db with
  | error e db' =>
    rw [finalState_of_error h, applyPlanChangeSet_error h]
    exact .refl db
  | ok newId db' =>
    rw [finalState_of_ok h]
    cases applyPlanChangeSet_ok h with
    | again locked existing mem id status applied existing_mem existing_id result =>
      rw [result]
      split
      · refine ⟨sameContents_publish.grows, fun c hc _ => hc, fun hone => ?_⟩
        show OneBaseline (publishedTable _ _ _).rows
        rw [publishedTable_rows]
        exact hone.publish fun r hr hid => by rw [db.revisions.eq_of_pk hr existing_mem hid]
      · exact .refl db
    | fresh locked source revision start copied applied context₁ context₂ mem id status stages new =>
      exact ⟨stages.grows, fun c hc => stages.applied_kept mem status.1 hc, stages.oneBaseline⟩

theorem runTx_kept (calls : List ApplyCall) : Kept db (runTx (applyPlanChangeSet py) db calls) :=
  runTx_invariant (I := Kept db) (fun _ _ h => h.trans applyPlanChangeSet_kept) (.refl db) calls

/-- Applying an applied change set again. -/
theorem applyPlanChangeSet_again {c : PlanChangeSet} (hc : c ∈ db.changeSets.rows)
    (happlied : c.status = .applied) (hid : call.changeSetId = c.changeSetId) :
    SameContents db (finalState (applyPlanChangeSet py call) db) ∧
      ∀ newId db', applyPlanChangeSet py call db = .ok newId db' →
        c.appliedRevision = some newId := by
  cases h : applyPlanChangeSet py call db with
  | error e db' =>
    rw [finalState_of_error h, applyPlanChangeSet_error h]
    exact ⟨.refl db, fun _ _ hok => by cases hok⟩
  | ok newId db' =>
    rw [finalState_of_ok h]
    cases applyPlanChangeSet_ok h with
    | again locked existing mem id status applied existing_mem existing_id result =>
      have hsame : locked = c := db.changeSets.eq_of_pk mem hc (id.trans hid)
      refine ⟨?_, fun _ _ hok => ?_⟩
      · rw [result]
        split
        · exact sameContents_publish
        · exact .refl db
      · obtain ⟨rfl, -⟩ := by simpa using hok
        rw [← hsame, applied]
    | fresh locked source revision start copied applied context₁ context₂ mem id status stages new =>
      have hsame : locked = c := db.changeSets.eq_of_pk mem hc (id.trans hid)
      exact absurd (hsame ▸ happlied) status.1

/-- All ids and all revision codes are different. -/
structure UniqueNames (db : PlanDb) : Prop where
  revisions : (db.revisions.rows.map PlanRevision.revisionId).Nodup
  codes : (db.revisions.rows.map fun r => (r.plan, r.revisionCode)).Nodup
  nodes : (db.nodes.rows.map PlanNode.nodeId).Nodup
  requirements : (db.requirements.rows.map PlanRequirement.requirementId).Nodup
  impacts : (db.impacts.rows.map PlanCapacityImpact.impactId).Nodup
  dependencies : (db.dependencies.rows.map PlanDependency.dependencyId).Nodup

theorem uniqueNames (db : PlanDb) : UniqueNames db where
  revisions := db.revisions.pkUnique
  codes := by
    have hcodes := db.revisions.altUnique
    rwa [List.filterMap_eq_map'] at hcodes
  nodes := db.nodes.pkUnique
  requirements := db.requirements.pkUnique
  impacts := db.impacts.pkUnique
  dependencies := db.dependencies.pkUnique

/-- **Application is atomic, repeatable and single-baseline.** -/
theorem applyRun_singleBaseline (py : Python) (db₀ : PlanDb) (calls : List ApplyCall)
    (hone : OneBaseline db₀.revisions.rows) :
    let db := runTx (applyPlanChangeSet py) db₀ calls
    (∀ call e db', applyPlanChangeSet py call db = .error e db' → db' = db) ∧
    (∀ c ∈ db.changeSets.rows, c.status = .applied →
      (∀ later, c ∈ (runTx (applyPlanChangeSet py) db₀ (calls ++ later)).changeSets.rows) ∧
      ∀ call : ApplyCall, call.changeSetId = c.changeSetId →
        SameContents db (finalState (applyPlanChangeSet py call) db) ∧
        ∀ newId db', applyPlanChangeSet py call db = .ok newId db' →
          c.appliedRevision = some newId) ∧
    UniqueNames db ∧ Grows db₀ db ∧ OneBaseline db.revisions.rows := by
  intro db
  have hkept : Kept db₀ db := runTx_kept calls
  refine ⟨fun call e db' h => applyPlanChangeSet_error h, fun c hc happlied => ⟨fun later => ?_,
    fun call hid => applyPlanChangeSet_again hc happlied hid⟩, uniqueNames db, hkept.grows,
    hkept.oneBaseline hone⟩
  rw [runTx_append]
  exact (runTx_kept later).applied c hc happlied

/-! ## A pilot plan -/

def textPython : Python := ⟨textRuntime, .asciiOnly⟩

theorem item_ne_empty : "item" ≠ "" := by decide

/-- The text as a key, cut to its column. -/
def keyOf {n : Nat} (hn : 0 < n) (s : String) : Key n :=
  Key.cut hn (textOr s "item") (textOr_ne_empty item_ne_empty)

/-- The rows in a table, without those that break a constraint. -/
def tableOf {ρ κ α : Type} {pk : ρ → κ} {alt : ρ → Option α} [DecidableEq κ] [DecidableEq α]
    (rows : List ρ) : Table ρ κ α pk alt :=
  rows.foldl (fun t r => match t.insert r () with
    | .ok t' => t'
    | .error _ => t) .empty

/-- The published revision of the pilot plan. -/
def pilotRevision : PlanRevision where
  revisionId := keyOf key64_pos "pilot-rev-v0_0_1"
  plan := "pilot"
  revisionCode := .cut "v0.0.1"
  status := .published
  title := .cut "Pilot"
  changeSummary := ""
  createdAt := 0
  createdBy := .obj []
  publishedAt := some 0
  metadata := .obj []

/-- A change set drafted against the published revision. -/
def pilotChangeSet (changeSetId : String) : PlanChangeSet where
  changeSetId := changeSetId
  run := "run"
  proposal := "proposal"
  planRevision := pilotRevision.revisionId
  status := .draft
  appliedAt := none
  appliedRevision := none
  metadata := .obj []

/-- A note in a change set. -/
def pilotNote (operationId changeSetId : String) : PlanChangeOperation where
  operationId := operationId
  changeSet := changeSetId
  sequence := 10
  operationType := OperationType.note.value
  targetId := ""
  targetField := ""
  newValue := .obj []
  rationale := "note"
  isRequired := true

/-- The pilot plan with two change sets drafted against its one revision. -/
def pilotDb : PlanDb where
  revisions := tableOf [pilotRevision]
  nodes := .empty
  dependencies := .empty
  requirements := .empty
  impacts := .empty
  changeSets := tableOf [pilotChangeSet "first", pilotChangeSet "second"]
  operations := tableOf [pilotNote "op-first" "first", pilotNote "op-second" "second"]

/-- The first change set of the pilot plan, published. -/
def publishFirst : ApplyCall := { changeSetId := "first", publish := true, now := 1 }

/-- The second change set of the pilot plan, published. -/
def publishSecond : ApplyCall := { changeSetId := "second", publish := true, now := 2 }

theorem applyRun_singleBaseline_pilot :
    OneBaseline (runTx (applyPlanChangeSet textPython) pilotDb
      [publishFirst, publishSecond, publishFirst]).revisions.rows :=
  (applyRun_singleBaseline textPython pilotDb _ (by decide +kernel)).2.2.2.2

/-! ## What was published before -/

/-- `metadata["source_revision_id"]`. -/
def copiedFrom (r : PlanRevision) : Option String :=
  match metadataKey r.metadata "source_revision_id" with
  | some (.str s) => some s
  | _ => none

/-- Every revision that is published after the call was copied from the one that its plan had
published before. -/
def CopiedFromBaseline (db db' : PlanDb) : Prop :=
  ∀ before ∈ db.revisions.rows, ∀ after ∈ db'.revisions.rows, before.plan = after.plan →
    before.status = .published → after.status = .published →
    copiedFrom after = some before.revisionId.text

instance (db db' : PlanDb) : Decidable (CopiedFromBaseline db db') :=
  inferInstanceAs (Decidable (∀ before ∈ db.revisions.rows, ∀ after ∈ db'.revisions.rows, _ → _))

/-- **Published after a fresh application.** The plan of the revision that the change set was
drafted against has one published revision, and it is the new one, copied from that revision. -/
theorem Stages.published {locked : PlanChangeSet} {source : PlanRevision}
    {start copied applied : PlanDb} {context₁ context₂ : ApplicationContext}
    (h : Stages py call locked db db' source revision start copied applied context₁ context₂)
    (hpublish : call.publish = true) : ∃ new ∈ db'.revisions.rows,
      new.revisionId = revision.revisionId ∧ new.plan = source.plan ∧ new.status = .published ∧
      copiedFrom new = some locked.planRevision.text ∧
      ∀ r ∈ db'.revisions.rows, r.plan = source.plan → r.status = .published → r = new := by
  obtain ⟨-, -, hplan, hdraft, hpublishedAt, metadata₀, hspread, hmetadata⟩ := newRevision_ok h.new
  obtain ⟨hcontext, hkeys⟩ := h.context_revision
  have hsource : source.revisionId = locked.planRevision := (Table.get?_eq_some.1 h.fetched).2
  obtain ⟨account, metadata, changeSetMetadata, hassigned, hresult⟩ := h.result
  have hname := h.revisions (f := revisionName) (forgetMetadata_name _)
  -- the row of the new revision before the last writes
  have hmem : revisionName revision ∈ applied.revisions.rows.map revisionName := by
    rw [hname]
    exact List.mem_map_of_mem (List.mem_append_right _ List.mem_cons_self)
  obtain ⟨old, hold, holdName⟩ := List.mem_map.1 hmem
  simp only [revisionName, Prod.mk.injEq] at holdName
  have holdId : old.revisionId = context₂.revision.revisionId := by rw [holdName.1, h.id_eq]
  have hrows : db'.revisions.rows = applied.revisions.rows.map fun r =>
      publishedRow { context₂.revision with metadata := metadata } call.now
        (if r.revisionId = context₂.revision.revisionId then { r with metadata := metadata }
        else r) := by
    rw [hresult]
    show (finishedRevisions _ _ _ _).rows = _
    rw [finishedRevisions, if_pos hpublish, publishedTable_rows, Table.modify_rows, List.map_map]
    rfl
  have hstatus : context₂.revision.status ≠ .published := by
    rw [hcontext, hdraft]
    decide
  have hcontextPlan : context₂.revision.plan = source.plan := by rw [hcontext, hplan]
  refine ⟨_, hrows ▸ List.mem_map_of_mem hold, ?_, ?_, ?_, ?_, ?_⟩
  · rw [publishedRow_revisionId, if_pos holdId]
    exact holdName.1
  · rw [publishedRow_plan, if_pos holdId]
    exact holdName.2.1.trans hplan
  · rw [if_pos holdId, publishedRow, if_pos holdId, if_pos (.inl hstatus)]
  · rw [copiedFrom, publishedRow_metadata, if_pos holdId]
    have hkey : metadataKey metadata "source_revision_id" = some (.str locked.planRevision.text) := by
      rw [assigned_keeps hassigned (by decide), hkeys _ (by decide), hmetadata, ← hsource]
      simp [metadataKey, merged, get?_upsert]
    rw [hkey]
  · intro r hr hrplan hrstatus
    apply db'.revisions.eq_of_pk hr (hrows ▸ List.mem_map_of_mem hold)
    rw [publishedRow_revisionId, if_pos holdId]
    rw [hrows] at hr
    obtain ⟨r₀, hr₀, rfl⟩ := List.mem_map.1 hr
    rw [publishedRow_plan] at hrplan
    rw [publishedRow_revisionId, publishedRow_published hrstatus (hrplan.trans hcontextPlan.symm)]
    exact holdId.symm

/-- **No published change is lost where the change set was drafted against the baseline.** -/
theorem applyRun_published (py : Python) (db₀ : PlanDb) (calls : List ApplyCall) {call : ApplyCall}
    (hpublish : call.publish = true) {locked : PlanChangeSet}
    (hlocked : locked ∈ (runTx (applyPlanChangeSet py) db₀ calls).changeSets.rows)
    (hid : locked.changeSetId = call.changeSetId) (hstatus : locked.status ≠ .applied)
    (h : applyPlanChangeSet py call (runTx (applyPlanChangeSet py) db₀ calls) = .ok newId db') :
    ∃ source ∈ (runTx (applyPlanChangeSet py) db₀ calls).revisions.rows,
      source.revisionId = locked.planRevision ∧ ∃ new ∈ db'.revisions.rows,
        new.revisionId = newId ∧ new.plan = source.plan ∧ new.status = .published ∧
        (∀ r ∈ db'.revisions.rows, r.plan = source.plan → r.status = .published → r = new) ∧
        copiedFrom new = some locked.planRevision.text ∧
        ∀ before ∈ (runTx (applyPlanChangeSet py) db₀ calls).revisions.rows,
          before.plan = source.plan → before.status = .published →
          (copiedFrom new = some before.revisionId.text ↔
            before.revisionId = locked.planRevision) := by
  obtain ⟨source, revision, start, copied, applied, context₁, context₂, stages, hnew⟩ :=
    applyPlanChangeSet_stages h hlocked hid hstatus
  obtain ⟨hsource, hsourceId⟩ := Table.get?_eq_some.1 stages.fetched
  obtain ⟨row, hrow, hrowId, hrowPlan, hrowStatus, hfrom, hunique⟩ := stages.published hpublish
  refine ⟨source, hsource, hsourceId, row, hrow, hrowId.trans hnew, hrowPlan, hrowStatus, hunique,
    hfrom, fun before _ _ _ => ?_⟩
  rw [hfrom, Option.some.injEq]
  exact ⟨fun htext => (Key.text_injective htext).symm, fun heq => by rw [heq]⟩

theorem applyRun_published_first : ∃ newId db',
    applyPlanChangeSet textPython publishFirst pilotDb = .ok newId db' ∧
    ∃ new ∈ db'.revisions.rows, new.revisionId = newId ∧
      copiedFrom new = some pilotRevision.revisionId.text := by
  obtain ⟨newId, db', h⟩ := returns_iff.1 (show returns (applyPlanChangeSet textPython publishFirst)
    pilotDb = true by decide +kernel)
  obtain ⟨source, -, -, new, hnew, hid, -, -, -, hfrom, -⟩ := applyRun_published textPython pilotDb
    [] rfl (List.mem_cons_self : pilotChangeSet "first" ∈ _) rfl (by decide) h
  exact ⟨newId, db', h, new, hnew, hid, hfrom⟩

/-- The second change set was drafted against what the first one has replaced. -/
theorem publishSecond_not_copiedFromBaseline :
    (∀ c ∈ (runTx (applyPlanChangeSet textPython) pilotDb [publishFirst]).changeSets.rows,
      c.changeSetId = "second" → c.status = .draft) ∧
    returns (applyPlanChangeSet textPython publishSecond)
      (runTx (applyPlanChangeSet textPython) pilotDb [publishFirst]) = true ∧
    ¬ CopiedFromBaseline (runTx (applyPlanChangeSet textPython) pilotDb [publishFirst])
      (runTx (applyPlanChangeSet textPython) pilotDb [publishFirst, publishSecond]) := by
  decide +kernel

end LiveOs.Planning
