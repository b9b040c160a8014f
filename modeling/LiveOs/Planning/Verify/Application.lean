import LiveOs.Planning.Verify.Operations

/-!
# What a call does

A call that succeeds returns the revision of an applied change set, or has gone through all the
stages of an application. A call that raises has changed nothing.
-/

namespace LiveOs.Planning

open Lib

variable {py : Python} {call : ApplyCall} {locked : PlanChangeSet} {db db' : PlanDb}
  {newId : RevisionId}

/-! ## Publication -/

theorem retired_id (r : PlanRevision) :
    PlanRevision.revisionId { r with status := .retired } = r.revisionId := rfl

theorem retired_code (r : PlanRevision) :
    some (PlanRevision.plan { r with status := .retired },
      PlanRevision.revisionCode { r with status := .retired }) = some (r.plan, r.revisionCode) := rfl

theorem published_id (moment : Nat) (r : PlanRevision) :
    PlanRevision.revisionId { r with status := .published, publishedAt := some moment } =
      r.revisionId := rfl

theorem published_code (moment : Nat) (r : PlanRevision) :
    some (PlanRevision.plan { r with status := .published, publishedAt := some moment },
      PlanRevision.revisionCode { r with status := .published, publishedAt := some moment }) =
      some (r.plan, r.revisionCode) := rfl

theorem noted_id (metadata : Json) (r : PlanRevision) :
    PlanRevision.revisionId { r with metadata := metadata } = r.revisionId := rfl

theorem noted_code (metadata : Json) (r : PlanRevision) :
    some (PlanRevision.plan { r with metadata := metadata },
      PlanRevision.revisionCode { r with metadata := metadata }) =
      some (r.plan, r.revisionCode) := rfl

/-- The change set of an application that is done. -/
def PlanChangeSet.finished (now : Nat) (newId : RevisionId) (metadata : Json) (c : PlanChangeSet) :
    PlanChangeSet :=
  { c with
    status := .applied
    appliedAt := some now
    appliedRevision := some newId
    metadata := metadata }

theorem finished_id (now : Nat) (newId : RevisionId) (metadata : Json) (c : PlanChangeSet) :
    (c.finished now newId metadata).changeSetId = c.changeSetId := rfl

theorem finished_alt (_ : PlanChangeSet) : (none : Option Unit) = none := rfl

/-- The other published revisions of the plan, retired. -/
def retiredTable (revision : PlanRevision) (revisions : RevisionTable) : RevisionTable :=
  revisions.update
    (fun r => r.plan = revision.plan && r.status = .published && r.revisionId ≠ revision.revisionId)
    (fun r => { r with status := .retired }) retired_id retired_code

/-- The revisions after `publish_plan_revision`. -/
def publishedTable (revision : PlanRevision) (publishedAt : Nat) (revisions : RevisionTable) :
    RevisionTable :=
  if revision.status ≠ .published ∨ revision.publishedAt = none then
    (retiredTable revision revisions).modify revision.revisionId
      (fun r => { r with status := .published, publishedAt := some publishedAt })
      (published_id publishedAt) (published_code publishedAt)
  else retiredTable revision revisions

theorem publishPlanRevision_eq (revision : PlanRevision) (publishedAt : Nat) (db : PlanDb) :
    publishPlanRevision revision publishedAt db =
      .ok () { db with revisions := publishedTable revision publishedAt db.revisions } := by
  by_cases hnew : revision.status ≠ .published ∨ revision.publishedAt = none
  · simp only [publishPlanRevision, publishedTable, if_pos hnew]
    rfl
  · simp only [publishPlanRevision, publishedTable, if_neg hnew]
    rfl

/-! ## The stages of an application -/

/-- The context in which the copy begins. -/
def startContext (call : ApplyCall) (revision : PlanRevision) : ApplicationContext :=
  { revision := revision
    revisionSlug := slugify revision.revisionCode.text '-'
    appliedAt := call.now }

/-- The revisions at the end of an application. -/
def finishedRevisions (call : ApplyCall) (revision : PlanRevision) (metadata : Json)
    (revisions : RevisionTable) : RevisionTable :=
  let saved := revisions.modify revision.revisionId (fun r => { r with metadata := metadata })
    (noted_id metadata) (noted_code metadata)
  if call.publish then publishedTable { revision with metadata := metadata } call.now saved
  else saved

/-- The change sets at the end of an application. -/
def finishedChangeSets (call : ApplyCall) (changeSetId : String) (newId : RevisionId)
    (metadata : Json) (changeSets : ChangeSetTable) : ChangeSetTable :=
  changeSets.modify changeSetId (PlanChangeSet.finished call.now newId metadata)
    (finished_id call.now newId metadata) finished_alt

/-- An application of a change set: the new revision is entered, the source is copied, the
operations are applied and the accounts are written. -/
structure Stages (py : Python) (call : ApplyCall) (locked : PlanChangeSet) (db db' : PlanDb)
    (source revision : PlanRevision) (start copied applied : PlanDb)
    (context₁ context₂ : ApplicationContext) : Prop where
  valid : validatePlanChangeSetOperations py db locked.changeSetId = []
  fetched : db.revisions.get? locked.planRevision = some source
  code : nextRevisionCode py db source = .ok revision.revisionCode.text
  free : ∀ r ∈ db.revisions.rows, r.revisionId ≠ revision.revisionId
  new : newRevision locked source call revision.revisionId revision.revisionCode.text = .ok revision
  entered : start = { db with revisions := start.revisions }
  enteredRows : start.revisions.rows = db.revisions.rows ++ [revision]
  copy : copyRevisionContents source (startContext call revision) start = .ok context₁ copied
  operations : (changeSetOperations db locked.changeSetId).foldlM (applyOperation py) context₁
    copied = .ok context₂ applied
  result : ∃ account revisionMetadata changeSetMetadata,
    assigned context₂.revision.metadata "plan_change_application" account = .ok revisionMetadata ∧
    db' = { applied with
    revisions := finishedRevisions call context₂.revision revisionMetadata applied.revisions
    changeSets := finishedChangeSets call locked.changeSetId revision.revisionId changeSetMetadata
      applied.changeSets }

theorem varChar_store_ok {n : Nat} {s : String} {v : VarChar n} (h : VarChar.store s = .ok v) :
    v.text = s := by
  unfold VarChar.store at h
  split at h
  · obtain rfl := Except.ok.inj h
    rfl
  · cases h

/-- What is known of a new revision. -/
theorem newRevision_ok {source revision : PlanRevision} {revisionCode : String}
    (h : newRevision locked source call newId revisionCode = .ok revision) :
    revision.revisionId = newId ∧ revision.revisionCode.text = revisionCode ∧
      revision.plan = source.plan ∧ revision.status = .draft ∧ revision.publishedAt = none ∧
      ∃ metadata, spread source.metadata = .ok metadata ∧ revision.metadata =
        .obj (merged metadata [("source_revision_id", .str source.revisionId.text),
          ("source_revision_code", .str source.revisionCode.text),
          ("applied_change_set_id", .str locked.changeSetId),
          ("source_simulation_run_id", .str locked.run)]) := by
  obtain ⟨metadata, hmetadata, h⟩ := bind_eq_ok.1 h
  obtain ⟨code, hcode, h⟩ := bind_eq_ok.1 h
  obtain ⟨title, -, h⟩ := bind_eq_ok.1 h
  obtain rfl := pure_eq_ok.1 h
  exact ⟨rfl, varChar_store_ok hcode, rfl, rfl, rfl, metadata, hmetadata, rfl⟩

theorem getRevision_bind_ok {α : Type} {revisionId : RevisionId} {f : PlanRevision → PlanM α}
    {a : α} : (getRevision revisionId >>= f) db = .ok a db' ↔
      ∃ revision, db.revisions.get? revisionId = some revision ∧ f revision db = .ok a db' := by
  rw [run_bind_ok]
  unfold getRevision
  rw [run_get_bind]
  cases db.revisions.get? revisionId with
  | none => simp
  | some r => simp

theorem applyFresh_ok (h : applyFresh py call locked db = .ok newId db') :
    ∃ source revision start copied applied context₁ context₂,
      Stages py call locked db db' source revision start copied applied context₁ context₂ ∧
      revision.revisionId = newId := by
  rw [applyFresh, run_get_bind] at h
  by_cases hvalid : validatePlanChangeSetOperations py db locked.changeSetId ≠ []
  · rw [if_pos hvalid] at h
    cases h
  · rw [if_neg hvalid] at h
    beta_reduce at h
    obtain ⟨source, hsource, h⟩ := getRevision_bind_ok.1 h
    rw [run_get_bind] at h
    obtain ⟨code, hcode, h⟩ := run_compute_bind_ok.1 h
    obtain ⟨id, hid, h⟩ := run_compute_bind_ok.1 h
    obtain ⟨revision, hnew, h⟩ := run_compute_bind_ok.1 h
    obtain ⟨hrevId, hrevCode, -⟩ := newRevision_ok hnew
    obtain ⟨_, start, hcreate, h⟩ := run_bind_ok.1 h
    obtain ⟨revisions, hins, hcreate⟩ := bind_eq_ok.1 (run_update_ok.1 hcreate)
    obtain rfl := pure_eq_ok.1 hcreate
    obtain ⟨context₁, copied, hcopy, h⟩ := run_bind_ok.1 h
    rw [run_get_bind] at h
    obtain ⟨context₂, applied, hops, h⟩ := run_bind_ok.1 h
    obtain ⟨revisionMetadata, hrevMeta, h⟩ := run_compute_bind_ok.1 h
    obtain ⟨_, saved, hsave, h⟩ := run_bind_ok.1 h
    obtain rfl := pure_eq_ok.1 (run_update_ok.1 hsave)
    obtain ⟨copies, hcopied⟩ := copyRevisionContents_ok rfl hcopy
    have hsame : changeSetOperations copied locked.changeSetId =
        changeSetOperations db locked.changeSetId := by
      rw [hcopied.frame]
      rfl
    rw [hsame] at hops
    have hcontext : context₂.revision.revisionId = revision.revisionId := by
      have hkept := congrArg PlanRevision.revisionId (applyOperations_frame hops).revision
      rw [hcopied.remembered, (rememberCopies_frame _).1] at hkept
      exact hkept
    subst hrevId
    subst hrevCode
    have hstages : ∀ db', (∃ changeSetMetadata, db' = { applied with
        revisions := finishedRevisions call context₂.revision revisionMetadata applied.revisions
        changeSets := finishedChangeSets call locked.changeSetId revision.revisionId
          changeSetMetadata applied.changeSets }) →
        Stages py call locked db db' source revision { db with revisions := revisions } copied
          applied context₁ context₂ := fun db' ⟨changeSetMetadata, hresult⟩ =>
      ⟨not_not.1 hvalid, hsource, hcode, newRevisionId_fresh hid, hnew, rfl, (Table.insert_ok hins).1,
        hcopy, hops, _, revisionMetadata, changeSetMetadata, hrevMeta, hresult⟩
    by_cases hpublish : call.publish = true
    · rw [if_pos hpublish] at h
      obtain ⟨_, _, hpub, h⟩ := run_bind_ok.1 h
      rw [publishPlanRevision_eq] at hpub
      obtain ⟨-, rfl⟩ := by simpa using hpub
      obtain ⟨changeSetMetadata, -, h⟩ := run_compute_bind_ok.1 h
      obtain ⟨_, _, hsets, h⟩ := run_bind_ok.1 h
      obtain rfl := pure_eq_ok.1 (run_update_ok.1 hsets)
      obtain ⟨rfl, rfl⟩ := by simpa using h
      refine ⟨source, revision, _, copied, applied, context₁, context₂,
        hstages _ ⟨changeSetMetadata, ?_⟩, rfl⟩
      rw [finishedRevisions, if_pos hpublish]
      simp only [hcontext]
      rfl
    · rw [if_neg hpublish] at h
      obtain ⟨changeSetMetadata, -, h⟩ := run_compute_bind_ok.1 h
      obtain ⟨_, _, hsets, h⟩ := run_bind_ok.1 h
      obtain rfl := pure_eq_ok.1 (run_update_ok.1 hsets)
      obtain ⟨rfl, rfl⟩ := by simpa using h
      refine ⟨source, revision, _, copied, applied, context₁, context₂,
        hstages _ ⟨changeSetMetadata, ?_⟩, rfl⟩
      rw [finishedRevisions, if_neg hpublish]
      simp only [hcontext]
      rfl

/-! ## Calls -/

/-- How a call returns. -/
inductive Returned (py : Python) (call : ApplyCall) (db db' : PlanDb) (newId : RevisionId) : Prop
  /-- The change set is applied already; its revision may be published again. -/
  | again (locked : PlanChangeSet) (existing : PlanRevision)
    (mem : locked ∈ db.changeSets.rows) (id : locked.changeSetId = call.changeSetId)
    (status : locked.status = .applied) (applied : locked.appliedRevision = some newId)
    (existing_mem : existing ∈ db.revisions.rows) (existing_id : existing.revisionId = newId)
    (result : db' = if call.publish then
      { db with revisions := publishedTable existing call.now db.revisions } else db)
  | fresh (locked : PlanChangeSet) (source revision : PlanRevision) (start copied applied : PlanDb)
    (context₁ context₂ : ApplicationContext)
    (mem : locked ∈ db.changeSets.rows) (id : locked.changeSetId = call.changeSetId)
    (status : locked.status ≠ .applied ∧ locked.status ≠ .rejected)
    (stages : Stages py call locked db db' source revision start copied applied context₁ context₂)
    (new : revision.revisionId = newId)

/-- **Calls.** -/
theorem applyPlanChangeSet_ok (h : applyPlanChangeSet py call db = .ok newId db') :
    Returned py call db db' newId := by
  rw [applyPlanChangeSet, run_atomic_ok, run_get_bind] at h
  cases hget : db.changeSets.get? call.changeSetId with
  | none =>
    simp only [hget] at h
    cases h
  | some locked =>
    simp only [hget] at h
    obtain ⟨hmem, hid⟩ := Table.get?_eq_some.1 hget
    have hfresh : locked.status ≠ .applied → locked.status ≠ .rejected →
        applyFresh py call locked db = .ok newId db' → Returned py call db db' newId := by
      intro happlied hrejected h
      obtain ⟨source, revision, start, copied, applied, context₁, context₂, hstages, hnew⟩ :=
        applyFresh_ok h
      exact .fresh locked source revision start copied applied context₁ context₂ hmem hid
        ⟨happlied, hrejected⟩ hstages hnew
    cases hstatus : locked.status with
    | applied =>
      simp only [hstatus] at h
      cases hrevision : locked.appliedRevision with
      | none =>
        simp only [hrevision] at h
        cases h
      | some revisionId =>
        simp only [hrevision] at h
        obtain ⟨existing, hexisting, h⟩ := getRevision_bind_ok.1 h
        obtain ⟨hexistingMem, hexistingId⟩ := Table.get?_eq_some.1 hexisting
        by_cases hpublish : call.publish = true
        · rw [if_pos hpublish] at h
          obtain ⟨_, _, hpub, h⟩ := run_bind_ok.1 h
          rw [publishPlanRevision_eq] at hpub
          obtain ⟨-, rfl⟩ := by simpa using hpub
          obtain ⟨rfl, rfl⟩ := by simpa using h
          exact .again locked existing hmem hid hstatus (by rw [hrevision, hexistingId])
            hexistingMem rfl (by rw [if_pos hpublish])
        · rw [if_neg hpublish] at h
          obtain ⟨rfl, rfl⟩ := by simpa using h
          exact .again locked existing hmem hid hstatus (by rw [hrevision, hexistingId])
            hexistingMem rfl (by rw [if_neg hpublish])
    | rejected =>
      simp only [hstatus] at h
      cases h
    | draft =>
      simp only [hstatus] at h
      exact hfresh (by rw [hstatus]; decide) (by rw [hstatus]; decide) h
    | reviewed =>
      simp only [hstatus] at h
      exact hfresh (by rw [hstatus]; decide) (by rw [hstatus]; decide) h
    | accepted =>
      simp only [hstatus] at h
      exact hfresh (by rw [hstatus]; decide) (by rw [hstatus]; decide) h

/-- A call for a change set that is not applied yet goes through the stages. -/
theorem applyPlanChangeSet_stages (h : applyPlanChangeSet py call db = .ok newId db')
    (hlocked : locked ∈ db.changeSets.rows) (hid : locked.changeSetId = call.changeSetId)
    (hstatus : locked.status ≠ .applied) :
    ∃ source revision start copied applied context₁ context₂,
      Stages py call locked db db' source revision start copied applied context₁ context₂ ∧
      revision.revisionId = newId := by
  cases applyPlanChangeSet_ok h with
  | again locked' existing mem id status applied existing_mem existing_id result =>
    obtain rfl := db.changeSets.eq_of_pk mem hlocked (id.trans hid.symm)
    exact absurd status hstatus
  | fresh locked' source revision start copied applied context₁ context₂ mem id status stages new =>
    obtain rfl := db.changeSets.eq_of_pk mem hlocked (id.trans hid.symm)
    exact ⟨source, revision, start, copied, applied, context₁, context₂, stages, new⟩

/-- **Rollback.** A call that raises changes nothing, whatever it has written before. -/
theorem applyPlanChangeSet_error {e : PyError} (h : applyPlanChangeSet py call db = .error e db') :
    db' = db := (run_atomic_error.1 h).1

end LiveOs.Planning
