import LiveOs.Archive.Verify.Index

/-!
# Archiving and verifying

Verification recomputes hashes, counts and metadata from what lies on disk. On an untouched archive
it finds what archiving wrote, so the one thing that can go wrong is archiving itself: two items of
a run with the same id.
-/

namespace LiveOs.Archive

open Lib EventLedger Planning Roles

variable {lib : Libraries} {py : Python} {fs : FileSystem} {env : ArchiveEnv} {s : ArchiveState}
  {world : World} {run : RunRow} {args : ArchiveArgs} {snapshotId dir : String}
  {records : RunRecords}

/-! ## Reading back -/

/-- Values under one key of objects that are the same. -/
theorem same_getKey {es fs : List (String × Json)} (h : Json.Same (.obj es) (.obj fs))
    (hnd : (fs.map Prod.fst).Nodup) (key : String) :
    Json.Same (getKey es key) (getKey fs key) := by
  have hmem : ∀ {es : List (String × Json)} {v : Json}, Json.get? es key = some v →
      (key, v) ∈ es := by
    intro es v hv
    obtain ⟨e, he, rfl⟩ := Option.map_eq_some_iff.1 hv
    have hkey : e.1 = key := by simpa using List.find?_some he
    rw [← hkey]
    exact List.mem_of_find?_eq_some he
  have hnone : ∀ {es : List (String × Json)}, Json.get? es key = none →
      key ∉ es.map Prod.fst := by
    intro es hv hkey
    obtain ⟨e, he, hek⟩ := List.mem_map.1 hkey
    exact List.find?_eq_none.1 (Option.map_eq_none_iff.1 hv) e he (decide_eq_true hek)
  unfold getKey
  cases hes : Json.get? es key with
  | some v =>
    cases hfs : Json.get? fs key with
    | some w => exact h.member hnd (hmem hes) (hmem hfs)
    | none =>
      exact absurd (h.keys.1 (List.mem_map_of_mem (f := Prod.fst) (hmem hes))) (hnone hfs)
  | none =>
    cases hfs : Json.get? fs key with
    | some w =>
      exact absurd (h.keys.2 (List.mem_map_of_mem (f := Prod.fst) (hmem hfs))) (hnone hes)
    | none => exact .scalar .none

/-- The libraries read back what archiving writes with them. -/
structure ReadsBack (lib : Libraries) (env : ArchiveEnv) (world : World) (run : RunRow)
    (snapshotId : String) : Prop where
  manifest : ∃ es,
    lib.loads (lib.dumps (.obj (newManifest lib env world run snapshotId))) = .ok (.obj es) ∧
      Json.Same (.obj es) (.obj (newManifest lib env world run snapshotId))
  /-- A serialized table is a list with one object for each row. -/
  content : ∀ m ∈ (env.source world).rawModels, ∃ rows,
    lib.loads m.content = .ok (.arr rows) ∧ rows.length = m.count
  digest : ∀ data, lib.digest data ≠ ""
  labels : ∀ m ∈ (env.source world).rawModels, m.label ≠ ""

/-- The files of an archive are on disk as they were written. -/
structure Untouched (fs : FileSystem) (dir : String) (models : List RawModel)
    (files : List (String × String)) : Prop where
  isDir : fs.isDir (fs.resolve dir) = true
  isFile : ∀ f ∈ files, fs.isFile (fs.resolve f.1) = true
  read : ∀ f ∈ files, fs.read (fs.resolve f.1) = f.2.toUTF8
  readText : ∀ f ∈ files, fs.readText (fs.resolve f.1) = some f.2
  inside : ∀ m ∈ models, fs.resolve dir <+: fs.resolve (joinPath dir m.path)

theorem intOr_natCast (n : Nat) : intOr py (.scalar (.int n)) 0 = .ok (n : Int) := by
  cases n with
  | zero => rfl
  | succ n =>
    have htruthy : truthy (.scalar (.int ((n + 1 : Nat) : Int))) = true := by
      simp only [truthy, Json.toPy, PyVal.truthy, Scalar.truthy, bne_iff_ne]
      omega
    rw [intOr, if_pos htruthy]
    rfl

/-! ## Raw models -/

theorem setCount_of_new {counts : List (String × Int)} {label : String} {n : Int}
    (h : label ∉ counts.map Prod.fst) : setCount counts label n = counts ++ [(label, n)] := by
  induction counts with
  | nil => rfl
  | cons c counts ih =>
    rw [List.map_cons, List.mem_cons, not_or] at h
    obtain ⟨hhead, htail⟩ := h
    rw [setCount, if_neg fun heq => hhead heq.symm, ih htail]
    rfl

/-- The file of a model as it was written. -/
structure FileOf (lib : Libraries) (fs : FileSystem) (dir : String) (m : RawModel) : Prop where
  isFile : fs.isFile (fs.resolve (joinPath dir m.path)) = true
  read : fs.read (fs.resolve (joinPath dir m.path)) = m.content.toUTF8
  readText : fs.readText (fs.resolve (joinPath dir m.path)) = some m.content
  inside : fs.resolve dir <+: fs.resolve (joinPath dir m.path)
  rows : ∃ rows, lib.loads m.content = .ok (.arr rows) ∧ rows.length = m.count
  digest : lib.digest m.content.toUTF8 ≠ ""
  label : m.label ≠ ""

/-- The entry of an untouched file passes. -/
theorem verifyRawModel_of_file {index : Nat} {item : List (String × Json)} {m : RawModel}
    {acc : RawCheck} (hlists : Lists lib item m) (hfile : FileOf lib fs dir m) :
    verifyRawModel lib fs dir index (.obj item) acc = .ok {
      errors := acc.errors
      tableCounts := setCount acc.tableCounts m.label m.count
      normalizedRawModels := acc.normalizedRawModels ++ [item] } := by
  obtain ⟨rows, hrows, hcount⟩ := hfile.rows
  have hpath : archiveChildPath fs dir m.path = some (fs.resolve (joinPath dir m.path)) :=
    if_pos (List.isPrefixOf_iff_prefix.2 hfile.inside)
  have hload : ∀ invalid : String → String, loadFile lib fs (fs.resolve (joinPath dir m.path))
      invalid (.arr []) = .ok (.arr rows, []) := by
    intro invalid
    simp only [loadFile, hfile.readText, hrows]
  have hcounts : countErrors (.arr rows) (m.count : Int) m.path = [] := by
    simp [countErrors, hcount]
  simp only [verifyRawModel, verifyRawFile, hlists.model, hlists.path, hlists.sha256, hlists.count,
    strOr_str, hfile.label, m.path_ne_empty, hfile.digest, hpath, hfile.isFile, hfile.read, hload,
    intOr_natCast, hcounts, ok_bind, decide_false, Bool.or_self, if_true, Bool.false_eq_true,
    if_false, failing, decide_true, List.append_nil]
  rfl

/-- The entries of untouched files pass. -/
theorem verifyEntries_of_files {items : List (List (String × Json))} {models : List RawModel}
    (hlists : List.Forall₂ (Lists lib) items models) (hfiles : ∀ m ∈ models, FileOf lib fs dir m)
    (hlabels : (models.map RawModel.label).Nodup) (index : Nat) (acc : RawCheck)
    (hnew : ∀ m ∈ models, m.label ∉ acc.tableCounts.map Prod.fst) :
    verifyEntries lib fs dir index (items.map .obj) acc = .ok {
      errors := acc.errors
      tableCounts := acc.tableCounts ++ models.map fun m => (m.label, (m.count : Int))
      normalizedRawModels := acc.normalizedRawModels ++ items } := by
  induction hlists generalizing index acc with
  | nil => simp [verifyEntries]
  | @cons item m items models hitem _ ih =>
    obtain ⟨hfresh, hrest⟩ := List.nodup_cons.1 hlabels
    obtain ⟨hfile, hfiles⟩ := List.forall_mem_cons.1 hfiles
    obtain ⟨hlabel, hnew⟩ := List.forall_mem_cons.1 hnew
    rw [List.map_cons, verifyEntries, verifyRawModel_of_file hitem hfile, ok_bind,
      setCount_of_new hlabel, ih hfiles hrest]
    · simp only [List.append_assoc, List.singleton_append, List.map_cons]
    · intro m' hm' hmem
      rw [List.map_append, List.mem_append, List.map_singleton, List.mem_singleton] at hmem
      rcases hmem with hmem | hmem
      · exact hnew m' hm' hmem
      · exact hfresh (List.mem_map.2 ⟨m', hm', hmem⟩)

theorem stableText_of_lists {item : List (String × Json)} {m : RawModel}
    (h : Lists lib item m) : stableText item = stableText (m.entry lib) := by
  have hentry : Lists lib (m.entry lib) m := lists_entry m
  simp only [stableText, stablePayload, h.count, h.dbTable, h.model, h.path, h.sha256,
    hentry.count, hentry.dbTable, hentry.model, hentry.path, hentry.sha256]

theorem sortLabel_of_lists {item : List (String × Json)} {m : RawModel} (h : Lists lib item m) :
    sortLabel py item = m.label := by
  have hmodel := h.model
  unfold getKey at hmodel
  unfold sortLabel getKeyOr
  cases hget : Json.get? item "model" with
  | none =>
    rw [hget] at hmodel
    cases hmodel
  | some v =>
    rw [hget] at hmodel
    rw [show v = .str m.label from hmodel]
    rfl

/-- Entries of models in the order of their labels have the text of the archived entries. -/
theorem hashedText_of_lists {items : List (List (String × Json))} {models : List RawModel}
    (hlists : List.Forall₂ (Lists lib) items models)
    (hsorted : (models.map RawModel.label).Pairwise (· < ·)) :
    hashedText py items = (models.map fun m => stableText (m.entry lib)).flatten := by
  have hlabels : items.map (sortLabel py) = models.map RawModel.label := by
    induction hlists with
    | nil => rfl
    | cons h _ ih => rw [List.map_cons, List.map_cons, sortLabel_of_lists h,
        ih (List.pairwise_cons.1 hsorted).2]
  have horder : items.Pairwise fun a b => sortLabel py a ≤ sortLabel py b := by
    rw [← hlabels] at hsorted
    exact (List.pairwise_map.1 hsorted).imp le_of_lt
  have htexts : items.map stableText = models.map fun m => stableText (m.entry lib) := by
    clear hlabels horder hsorted
    induction hlists with
    | nil => rfl
    | cons h _ ih => rw [List.map_cons, List.map_cons, stableText_of_lists h, ih]
  rw [hashedText, List.Pairwise.insertionSort_eq horder, htexts]

theorem rawModels_sorted (db : SourceDb) : (db.rawModels.map RawModel.label).Pairwise (· < ·) :=
  List.Pairwise.sublist (List.filter_sublist.map RawModel.label) db.sorted

theorem forall₂_lists_entries (models : List RawModel) :
    List.Forall₂ (Lists lib) (models.map (RawModel.entry lib)) models :=
  List.forall₂_map_left_iff.2 (List.forall₂_same.2 fun m _ => lists_entry m)

/-! ## The index -/

theorem countP_numbered {p : ItemType → Bool} {base : Nat} {fields : List ItemFields} :
    (numbered snapshotId base fields).countP (fun row => p row.itemType) =
      fields.countP fun f => p f.itemType := by
  induction fields generalizing base with
  | nil => rfl
  | cons f fields ih =>
    rw [numbered, List.countP_cons, List.countP_cons, ih]
    rfl

/-- Fields of one kind. -/
theorem countP_fields {α : Type} {f : α → ItemFields} (itemType : ItemType)
    (hf : ∀ a, (f a).itemType = itemType) (t : ItemType) (xs : List α) :
    (xs.map f).countP (fun g => decide (g.itemType = t)) =
      if itemType = t then xs.length else 0 := by
  rw [List.countP_map]
  by_cases h : itemType = t
  · rw [if_pos h, List.countP_eq_length]
    intro x _
    simp [hf, h]
  · rw [if_neg h, List.countP_eq_zero]
    intro x _
    simp [hf, h]

theorem countP_changeSetFields (t : ItemType) (changeSets : List ChangeSetRow) :
    (changeSets.flatMap changeSetFields).countP (fun g => decide (g.itemType = t)) =
      (if ItemType.changeSet = t then changeSets.length else 0) +
        if ItemType.changeOperation = t then (changeSets.flatMap ChangeSetRow.operations).length
        else 0 := by
  induction changeSets with
  | nil => simp
  | cons c changeSets ih =>
    rw [List.flatMap_cons, List.countP_append, ih, changeSetFields, List.countP_cons,
      countP_fields .changeOperation fun _ => rfl]
    cases t <;> simp
    omega

/-- The items of a type. -/
theorem countP_normalizedItems (t : ItemType) :
    (normalizedItems snapshotId run records).countP (fun row => decide (row.itemType = t)) =
      match t with
      | .run => 1
      | .nodeState => records.nodeStates.length
      | .turn => records.turns.length
      | .failure => records.failures.length
      | .event => records.events.length
      | .proposal => records.proposals.length
      | .changeSet => records.changeSets.length
      | .changeOperation => (records.changeSets.flatMap ChangeSetRow.operations).length := by
  simp only [normalizedItems, List.countP_append, List.countP_singleton,
    @countP_numbered _ (fun x => decide (x = t)), countP_changeSetFields]
  rw [countP_fields .nodeState fun _ => rfl,
    countP_fields .turn fun _ => rfl,
    countP_fields .failure fun _ => rfl,
    countP_fields .event fun _ => rfl,
    countP_fields .proposal fun _ => rfl]
  cases t <;> simp [item, runFields]

theorem length_numbered {base : Nat} {fields : List ItemFields} :
    (numbered snapshotId base fields).length = fields.length := by
  induction fields generalizing base with
  | nil => rfl
  | cons f fields ih => rw [numbered, List.length_cons, List.length_cons, ih]

theorem length_changeSetFields (changeSets : List ChangeSetRow) :
    (changeSets.flatMap changeSetFields).length =
      changeSets.length + (changeSets.flatMap ChangeSetRow.operations).length := by
  induction changeSets with
  | nil => rfl
  | cons c changeSets ih =>
    simp only [List.flatMap_cons, List.length_append, ih, changeSetFields, List.length_cons,
      List.length_map]
    omega

theorem length_normalizedItems : (normalizedItems snapshotId run records).length =
    1 + records.turns.length + records.events.length + records.nodeStates.length +
      records.failures.length + records.proposals.length + records.changeSets.length +
      (records.changeSets.flatMap ChangeSetRow.operations).length := by
  simp only [normalizedItems, List.length_append, length_numbered, length_changeSetFields,
    List.length_map, List.length_singleton]
  omega

/-- The index of a snapshot agrees with the counts in its row. -/
theorem verifyNormalizedItems_of_items {snapshot : Snapshot}
    (hitems : itemsOf s snapshot.snapshotId = normalizedItems snapshotId run records)
    (hcounts : getKey snapshot.normalizedSummary "counts" = .obj (summaryCounts records)) :
    verifyNormalizedItems py s snapshot =
      .ok ((normalizedItems snapshotId run records).length, []) := by
  have hexpected : expectedCounts py (summaryCounts records) expectedTypes = .ok [
      (.turn, (records.turns.length : Int)), (.event, (records.events.length : Int)),
      (.nodeState, (records.nodeStates.length : Int)),
      (.failure, (records.failures.length : Int)), (.proposal, (records.proposals.length : Int)),
      (.changeSet, (records.changeSets.length : Int)),
      (.changeOperation,
        ((records.changeSets.flatMap ChangeSetRow.operations).length : Int))] := by
    have hkeys : ∀ key n, getKey (summaryCounts records) key = .scalar (.int (n : Nat)) →
        intOr py (getKey (summaryCounts records) key) 0 = .ok (n : Int) :=
      fun key n h => by rw [h, intOr_natCast]
    simp only [expectedTypes, expectedCounts, hkeys "turns" _ rfl, hkeys "events" _ rfl,
      hkeys "node_states" _ rfl, hkeys "failures" _ rfl, hkeys "proposals" _ rfl,
      hkeys "change_sets" _ rfl, hkeys "change_operations" _ rfl, ok_bind]
    rfl
  simp only [verifyNormalizedItems, hitems, hcounts, hexpected, ok_bind, List.flatMap_cons,
    List.flatMap_nil, List.append_nil, countP_normalizedItems, decide_true, failing, if_true,
    List.map_cons, List.map_nil, List.sum_cons, List.sum_nil, Nat.cast_one]
  have htotal : ((normalizedItems snapshotId run records).length : Int) =
      1 + ((records.turns.length : Int) + ((records.events.length : Int) +
        ((records.nodeStates.length : Int) + ((records.failures.length : Int) +
        ((records.proposals.length : Int) + ((records.changeSets.length : Int) +
        (((records.changeSets.flatMap ChangeSetRow.operations).length : Int) + 0))))))) := by
    rw [length_normalizedItems]
    omega
  rw [decide_eq_true htotal]
  rfl

/-! ## The manifest -/

theorem newManifest_nodup (run : RunRow) (snapshotId : String) :
    ((newManifest lib env world run snapshotId).map Prod.fst).Nodup := by
  have hkeys : (newManifest lib env world run snapshotId).map Prod.fst = ["snapshot_id",
      "snapshot_schema_version", "raw_archive_format_version", "created_at", "source",
      "code_version", "archive_path", "raw_scope", "raw_models", "migrations",
      "raw_archive_hash"] := rfl
  rw [hkeys]
  decide

theorem entry_nodup (m : RawModel) : ((m.entry lib).map Prod.fst).Nodup := by
  have hkeys : (m.entry lib).map Prod.fst =
      ["model", "db_table", "count", "path", "sha256"] := rfl
  rw [hkeys]
  decide

theorem lists_of_same_obj {item : List (String × Json)} {m : RawModel}
    (h : Json.Same (.obj item) (.obj (m.entry lib))) : Lists lib item m := by
  have hentry : Lists lib (m.entry lib) m := lists_entry m
  have hkey := same_getKey h (entry_nodup m)
  exact ⟨same_scalar (hentry.count ▸ hkey "count"), same_text (hentry.dbTable ▸ hkey "db_table"),
    same_text (hentry.model ▸ hkey "model"), same_text (hentry.path ▸ hkey "path"),
    same_text (hentry.sha256 ▸ hkey "sha256")⟩

/-- A value that is the same as an object is one. -/
theorem same_obj {v : Json} {fs : List (String × Json)} (h : Json.Same v (.obj fs)) :
    ∃ es, v = .obj es := by
  cases h
  exact ⟨_, rfl⟩

theorem exists_items_of_same {models : List RawModel} : ∀ {xs : List Json},
    List.Forall₂ Json.Same xs ((models.map (RawModel.entry lib)).map .obj) →
      ∃ items : List (List (String × Json)), xs = items.map Json.obj ∧
        List.Forall₂ (Lists lib) items models := by
  induction models with
  | nil =>
    intro xs h
    cases h
    exact ⟨[], rfl, .nil⟩
  | cons m models ih =>
    intro xs h
    rw [List.map_cons, List.map_cons] at h
    cases h with
    | cons hhead htail =>
      obtain ⟨item, rfl⟩ := same_obj hhead
      obtain ⟨items, rfl, hitems⟩ := ih htail
      exact ⟨item :: items, rfl, .cons (lists_of_same_obj hhead) hitems⟩

/-- The entries of a manifest that is read back. -/
theorem entries_readBack {es : List (String × Json)}
    (h : Json.Same (.obj es) (.obj (newManifest lib env world run snapshotId))) :
    ∃ items, getKey es "raw_models" = .arr (items.map .obj) ∧
      List.Forall₂ (Lists lib) items (env.source world).rawModels := by
  have hraw : Json.Same (getKey es "raw_models")
      (.arr (((env.source world).rawModels.map (RawModel.entry lib)).map .obj)) :=
    same_getKey h (newManifest_nodup run snapshotId) "raw_models"
  generalize getKey es "raw_models" = v at hraw
  cases hraw with
  | arr hitems =>
    obtain ⟨items, rfl, hlists⟩ := exists_items_of_same hitems
    exact ⟨items, rfl, hlists⟩

theorem sourceKeys_nodup (a b c d e f g : Json) : ([("world_id", a), ("world_type", b),
    ("database_alias", c), ("database_name", d), ("run_id", e), ("run_status", f),
    ("plan_revision_id", g)].map Prod.fst).Nodup := by
  rw [show [("world_id", a), ("world_type", b), ("database_alias", c), ("database_name", d),
      ("run_id", e), ("run_status", f), ("plan_revision_id", g)].map Prod.fst = ["world_id",
      "world_type", "database_alias", "database_name", "run_id", "run_status",
      "plan_revision_id"] from rfl]
  decide

/-- Its metadata agrees with the row. -/
theorem metadata_readBack {es : List (String × Json)}
    (h : Json.Same (.obj es) (.obj (newManifest lib env world run snapshotId))) :
    verifyManifestMetadata (newSnapshot lib env s world run records args snapshotId) es = [] := by
  have hkey := same_getKey h (newManifest_nodup run snapshotId)
  have hid : getKey es "snapshot_id" = .str snapshotId := same_text (hkey "snapshot_id")
  obtain ⟨source, hsource⟩ := same_obj (hkey "source")
  have hsame := hkey "source"
  rw [hsource] at hsame
  have hmember := same_getKey hsame (sourceKeys_nodup ..)
  have hworld : getKey source "world_id" = .str world.worldId := same_text (hmember "world_id")
  have hrun : getKey source "run_id" = .str run.runId := same_text (hmember "run_id")
  have hstatus : getKey source "run_status" = .str run.status.value :=
    same_text (hmember "run_status")
  simp only [verifyManifestMetadata, hid, hsource, dictOf, hworld, hrun, hstatus, isText,
    newSnapshot, failing, decide_true, if_true, List.append_nil]

/-- **The manifest of an untouched archive passes.** -/
theorem verifyManifest_readBack {es : List (String × Json)}
    (hsame : Json.Same (.obj es) (.obj (newManifest lib env world run snapshotId)))
    (hfiles : ∀ m ∈ (env.source world).rawModels,
      FileOf lib fs (joinPath env.archiveRoot snapshotId) m) :
    ∃ check, verifyManifest lib fs (newSnapshot lib env s world run records args snapshotId)
      (.obj es) = .ok check ∧ check.errors = [] := by
  obtain ⟨items, hraw, hlists⟩ := entries_readBack hsame
  have hkey := same_getKey hsame (newManifest_nodup run snapshotId)
  have hversion : getKey es "raw_archive_format_version" = .scalar (.int 2) :=
    same_scalar (hkey "raw_archive_format_version")
  have hhash : getKey es "raw_archive_hash" = .str (hashRawManifestEntries lib
      ((env.source world).rawModels.map (RawModel.entry lib))) := same_text (hkey "raw_archive_hash")
  have hsorted := rawModels_sorted (env.source world)
  have hentries : hashRawManifestEntries lib items = hashRawManifestEntries lib
      ((env.source world).rawModels.map (RawModel.entry lib)) := by
    rw [hashRawManifestEntries, hashRawManifestEntries, hashedText_of_lists hlists hsorted,
      hashedText_of_lists (forall₂_lists_entries _) hsorted]
  have hversion_int : intOr lib.toPython (.scalar (.int 2)) 1 = .ok 2 := rfl
  have hchecked := verifyEntries_of_files hlists hfiles (hsorted.imp ne_of_lt) 1 ⟨[], [], []⟩
    (fun _ _ => List.not_mem_nil)
  have htruthy : truthy (.obj es) = true := by
    cases es with
    | nil => cases hraw
    | cons e es => rfl
  unfold verifyManifest
  rw [if_pos htruthy]
  simp only [hraw]
  have hfound : verifyRawModels lib fs (newSnapshot lib env s world run records args snapshotId) es
      (items.map .obj) = .ok ([], []) := by
    unfold verifyRawModels
    simp only [newSnapshot, hchecked, ok_bind, hversion, hversion_int, hhash, strOr_str,
      List.nil_append, hentries, List.isPerm_iff.2 (List.Perm.refl _), failing, decide_true,
      if_true, Bool.or_true, List.append_nil, le_refl]
    rfl
  rw [hfound, ok_bind, metadata_readBack hsame]
  exact ⟨_, rfl, rfl⟩

/-! ## The round trip -/

/-- What archiving a run needs of its surroundings. -/
structure Archivable (env : ArchiveEnv) (s : ArchiveState) (world : World) (run : RunRow)
    (snapshotId : String) : Prop where
  found : related (env.source world).runs run.runId "SimulationRun" = .ok run
  absent : snapshotOf s world run = none
  drawn : generateSnapshotId env s = .ok snapshotId
  dispositionDrawn : ∃ dispositionId, generateDispositionId env s = .ok dispositionId
  free : env.onDisk (joinPath (joinPath env.archiveRoot snapshotId) "raw") = false

/-- A run is archived, its snapshot verifies, and archiving it again changes nothing. -/
structure RoundTrip (lib : Libraries) (env : ArchiveEnv) (s : ArchiveState) (world : World)
    (run : RunRow) (args : ArchiveArgs) (snapshotId : String)
    (r : ArchiveState × ArchiveResult) : Prop where
  archive : archiveSimulationRun lib env s world run.runId args = .ok r
  created : r.2.created = true
  named : r.2.snapshot.snapshotId = snapshotId
  items : itemsOf r.1 snapshotId =
    normalizedItems snapshotId run ((env.source world).records run.runId)
  ids : ((itemsOf r.1 snapshotId).map SnapshotItem.itemId).Nodup
  files : r.1.files = s.files ++ newFiles lib env world run
    ((env.source world).records run.runId) snapshotId
  verified : ∀ fs, Untouched fs (joinPath env.archiveRoot snapshotId) (env.source world).rawModels
      (newFiles lib env world run ((env.source world).records run.runId) snapshotId) →
    ∃ result, verifySimulationSnapshot lib fs r.1 snapshotId = .ok result ∧ result.errors = []
  again : ∀ (env' : ArchiveEnv) (run' : RunRow) (args' : ArchiveArgs),
    related (env'.source world).runs run.runId "SimulationRun" = .ok run' →
    archiveSimulationRun lib env' r.1 world run.runId args' = .ok (r.1, ⟨r.2.snapshot, false⟩)

theorem RoundTrip.apart {r : ArchiveState × ArchiveResult}
    (h : RoundTrip lib env s world run args snapshotId r) :
    Apart (kindsOf ((env.source world).records run.runId)) := by
  have hids := h.ids
  rw [h.items] at hids
  exact nodup_itemIds_iff.1 hids

theorem allocate_free {head message : String} {draws : List String} {taken : String → Bool}
    {id : String} (h : allocate head draws taken message = .ok id) : taken id = false := by
  unfold allocate at h
  cases hfind : (draws.map (head ++ ·)).find? fun id => !taken id with
  | none =>
    rw [hfind] at h
    cases h
  | some found =>
    rw [hfind] at h
    obtain rfl := Except.ok.inj h
    simpa using List.find?_some hfind

theorem Archivable.fresh (h : Archivable env s world run snapshotId) :
    s.snapshots.get? snapshotId = none :=
  Option.not_isSome_iff_eq_none.1 (Bool.eq_false_iff.1 (allocate_free h.drawn))

/-- A disposition can be recorded when an id for it can be drawn. -/
theorem recordDisposition_of_draw {decision : Decision}
    (h : ∃ dispositionId, generateDispositionId env s = .ok dispositionId) :
    ∃ r, recordDisposition py env s world run decision = .ok r := by
  cases hd : dispositionOf s world run with
  | some d => exact ⟨_, recordDisposition_of_some hd⟩
  | none =>
    obtain ⟨dispositionId, hdraw⟩ := h
    have hfree : s.dispositions.get? dispositionId = none :=
      Option.not_isSome_iff_eq_none.1 (Bool.eq_false_iff.1 (allocate_free hdraw))
    obtain ⟨dispositions, hinsert, -⟩ := @Table.insert_of_fresh _ _ _ _ _ _ _ _ s.dispositions
      (newDisposition py env s world run decision dispositionId) Error.integrity
      (Table.get?_eq_none.1 hfree) (by
        intro key hkey d hd' hsame
        exact dispositionOf_eq_none.1 hd d hd' (Option.some.inj (hsame.trans hkey.symm)))
    refine ⟨({ s with dispositions := dispositions },
      newDisposition py env s world run decision dispositionId), ?_⟩
    rw [recordDisposition, hd]
    simp only [hdraw, ok_bind, hinsert]
    rfl

/-- A run whose items have distinct ids is archived. -/
theorem archiveSimulationRun_of_apart (howned : Owned s)
    (h : Archivable env s world run snapshotId)
    (hapart : Apart (kindsOf ((env.source world).records run.runId))) :
    ∃ r, archiveSimulationRun lib env s world run.runId args = .ok r ∧ r.2.created = true ∧
      r.2.snapshot.snapshotId = snapshotId := by
  obtain ⟨snapshots, hsnapshots, -⟩ := @Table.insert_of_fresh _ _ _ _ _ _ _ _ s.snapshots
    (newSnapshot lib env s world run ((env.source world).records run.runId) args snapshotId)
    Error.integrity (Table.get?_eq_none.1 h.fresh) (by
      intro key hkey p hp hsame
      exact snapshotOf_eq_none.1 h.absent p hp (Option.some.inj (hsame.trans hkey.symm)))
  obtain ⟨items, hitems⟩ := bulkCreate_of_fresh (nodup_itemIds_iff.2 hapart)
    fun _ hrow _ hold => @Owned.fresh s snapshotId run _ howned h.fresh _ hrow _ hold
  set s₁ : ArchiveState := ⟨snapshots, items, s.dispositions, s.files ++ newFiles lib env world run
    ((env.source world).records run.runId) snapshotId⟩ with hs₁
  obtain ⟨recorded, hrecorded⟩ : ∃ recorded, recordArchivedDisposition lib.toPython env s₁ world run
      (newSnapshot lib env s world run ((env.source world).records run.runId) args snapshotId)
      args.dispositionReason args.decidedBy = .ok recorded := recordDisposition_of_draw
    h.dispositionDrawn
  refine ⟨(recorded.1, ⟨newSnapshot lib env s world run ((env.source world).records run.runId) args
    snapshotId, true⟩), ?_, rfl, rfl⟩
  unfold archiveSimulationRun
  simp only [h.found, ok_bind, h.absent, h.drawn, h.free, hsnapshots, hitems]
  rw [rejectIf_neg (by decide), ok_bind, ← hs₁, hrecorded, ok_bind]
  rfl

theorem strOr_str_self (s : String) : strOr py (.str s) s = s := by
  unfold strOr
  split
  · rfl
  · rfl

/-- The items of a new snapshot. -/
theorem itemsOf_archived (howned : Owned s) (hfresh : s.snapshots.get? snapshotId = none)
    {r : ArchiveState × ArchiveResult} (h : Archived lib env s world run args snapshotId r) :
    itemsOf r.1 snapshotId =
      normalizedItems snapshotId run ((env.source world).records run.runId) := by
  rw [itemsOf, (bulkCreate_rows h.items).1, List.filter_append, List.filter_eq_nil_iff.2,
    List.filter_eq_self.2, List.nil_append]
  · intro row hrow
    obtain ⟨n, f, rfl⟩ := mem_normalizedItems hrow
    exact decide_eq_true rfl
  · intro row hrow hsame
    obtain ⟨⟨p, hp, hsnapshot⟩, -⟩ := howned row hrow
    exact Table.get?_eq_none.1 hfresh p hp (hsnapshot.trans (of_decide_eq_true hsame))

/-- **An untouched archive verifies.** -/
theorem verifySimulationSnapshot_of_untouched (hlib : ReadsBack lib env world run snapshotId)
    (howned : Owned s)
    (hfresh : s.snapshots.get? snapshotId = none) {r : ArchiveState × ArchiveResult}
    (h : Archived lib env s world run args snapshotId r)
    (hfs : Untouched fs (joinPath env.archiveRoot snapshotId) (env.source world).rawModels
      (newFiles lib env world run ((env.source world).records run.runId) snapshotId)) :
    ∃ result, verifySimulationSnapshot lib fs r.1 snapshotId = .ok result ∧
      result.errors = [] := by
  have hsnapshot := h.snapshot
  have hid : r.2.snapshot.snapshotId = snapshotId := by
    rw [hsnapshot]
    rfl
  have hrow := h.row
  rw [hid, hsnapshot] at hrow
  obtain ⟨es, hload, hsame⟩ := hlib.manifest
  have hfiles : ∀ m ∈ (env.source world).rawModels,
      FileOf lib fs (joinPath env.archiveRoot snapshotId) m := by
    intro m hm
    have hmem : (joinPath (joinPath env.archiveRoot snapshotId) m.path, m.content) ∈
        newFiles lib env world run ((env.source world).records run.runId) snapshotId :=
      List.mem_append_left _ (List.mem_map.2 ⟨m, hm, rfl⟩)
    exact ⟨hfs.isFile _ hmem, hfs.read _ hmem, hfs.readText _ hmem, hfs.inside m hm,
      hlib.content m hm, hlib.digest _, hlib.labels m hm⟩
  have hmanifest : loadManifest lib fs (newSnapshot lib env s world run
      ((env.source world).records run.runId) args snapshotId) = .ok (.obj es, []) := by
    have hmem : (joinPath (joinPath env.archiveRoot snapshotId) "manifest.json",
        lib.dumps (.obj (newManifest lib env world run snapshotId))) ∈
        newFiles lib env world run ((env.source world).records run.runId) snapshotId :=
      List.mem_append_right _ List.mem_cons_self
    have hpath : manifestPath lib.toPython (newSnapshot lib env s world run
        ((env.source world).records run.runId) args snapshotId) =
        joinPath (joinPath env.archiveRoot snapshotId) "manifest.json" := strOr_str_self _
    simp only [loadManifest, loadFile, hpath, hfs.isFile _ hmem, hfs.readText _ hmem, hload,
      if_true]
  have hreport : (joinPath (joinPath env.archiveRoot snapshotId) "report.html",
      lib.report (normalizedSummary world run ((env.source world).records run.runId))) ∈
      newFiles lib env world run ((env.source world).records run.runId) snapshotId :=
    List.mem_append_right _ (List.mem_cons_of_mem _ List.mem_cons_self)
  obtain ⟨check, hcheck, hclean⟩ := @verifyManifest_readBack lib fs env s world run args snapshotId
    ((env.source world).records run.runId) es hsame hfiles
  have hindex := @verifyNormalizedItems_of_items lib.toPython r.1 run snapshotId
    ((env.source world).records run.runId) (newSnapshot lib env s world run
      ((env.source world).records run.runId) args snapshotId)
    (itemsOf_archived howned hfresh h) rfl
  unfold verifySimulationSnapshot
  rw [hrow]
  simp only [verifySnapshot, hmanifest, ok_bind, hcheck, hindex]
  refine ⟨_, rfl, ?_⟩
  have hdir : fs.isDir (fs.resolve (newSnapshot lib env s world run
      ((env.source world).records run.runId) args snapshotId).rawArchivePath) = true := hfs.isDir
  have hfile : fs.isFile (fs.resolve (newSnapshot lib env s world run
      ((env.source world).records run.runId) args snapshotId).reportPath) = true :=
    hfs.isFile _ hreport
  simp only [hdir, hfile, hclean, failing, Bool.or_true, if_true, List.append_nil]

/-- Archiving a run again returns its snapshot and changes nothing. -/
theorem archiveSimulationRun_again {r : ArchiveState × ArchiveResult} {env' : ArchiveEnv}
    {run' : RunRow} {args' : ArchiveArgs} (h : Archived lib env s world run args snapshotId r)
    (hfound : related (env'.source world).runs run.runId "SimulationRun" = .ok run') :
    archiveSimulationRun lib env' r.1 world run.runId args' =
      .ok (r.1, ⟨r.2.snapshot, false⟩) := by
  have hrun : run'.runId = run.runId := (Table.get?_eq_some.1 (related_eq_ok.1 hfound)).2
  have hsnapshot : snapshotOf r.1 world run' = some r.2.snapshot := by
    have habsent : s.snapshots.rows.find? (fun p => p.sourceWorldId = world.worldId &&
        p.sourceRunId = run'.runId) = none := by
      rw [hrun]
      exact h.absent
    rw [snapshotOf, h.snapshots, List.find?_append, habsent, Option.none_or]
    refine List.find?_cons_of_pos ?_
    simp only [h.snapshot, newSnapshot, hrun, decide_true, Bool.and_self]
  obtain ⟨d, hd⟩ := Option.isSome_iff_exists.1 h.disposition
  have hdisposition : dispositionOf r.1 world run' = some d := by
    rw [dispositionOf, hrun]
    exact hd
  unfold archiveSimulationRun
  simp only [hfound, ok_bind, hsnapshot, recordArchivedDisposition,
    recordDisposition_of_some hdisposition]
  rfl

/-- **Archive, verify, archive again.** After every history, and for a run whose surroundings let it
be archived, this succeeds exactly when the ranges of the item numbers are apart. -/
theorem archiveSimulationRun_roundTrip_iff (hlib : ReadsBack lib env world run snapshotId)
    {s₀ : ArchiveState}
    (hitems : s₀.items.rows = []) (cs : List WorldCall)
    (h : Archivable env (runCalls (archiveStep lib) s₀ cs) world run snapshotId)
    (args : ArchiveArgs) :
    (∃ r, RoundTrip lib env (runCalls (archiveStep lib) s₀ cs) world run args snapshotId r) ↔
      Apart (kindsOf ((env.source world).records run.runId)) := by
  have howned := @runCalls_owned lib s₀ hitems cs
  generalize runCalls (archiveStep lib) s₀ cs = s at h howned
  constructor
  · rintro ⟨r, hr⟩
    exact hr.apart
  · intro hapart
    obtain ⟨r, harchive, hcreated, hnamed⟩ :=
      @archiveSimulationRun_of_apart lib env s world run args snapshotId howned h hapart
    obtain ⟨run', snapshotId', hrun, harchived⟩ := archived_of_created harchive hcreated
    obtain rfl : run' = run := by
      have hfound := harchived.found
      rw [hrun, h.found] at hfound
      exact (Except.ok.inj hfound).symm
    obtain rfl : snapshotId' = snapshotId := by
      rw [← hnamed, harchived.snapshot]
      rfl
    have hindex := itemsOf_archived howned h.fresh harchived
    refine ⟨r, harchive, hcreated, hnamed, hindex, ?_, harchived.files,
      fun fs hfs => verifySimulationSnapshot_of_untouched hlib howned h.fresh harchived hfs,
      fun env' again args' hagain => archiveSimulationRun_again harchived hagain⟩
    rw [hindex]
    exact nodup_itemIds_iff.2 hapart

/-! ## The pilot archive -/

theorem pilotLoads_manifest : pilotLoads pilotManifestText = .ok pilotManifest := by
  unfold pilotLoads
  rw [if_pos rfl]

theorem pilotLoads_content : pilotLoads pilotContent = .ok (.arr []) := by
  unfold pilotLoads
  rw [if_neg (by decide +kernel : pilotContent ≠ pilotManifestText), if_pos rfl]

/-- The manifest on disk is the one that archiving writes. -/
theorem pilotManifest_same : Json.Same pilotManifest (.obj (newManifest pilotLibraries pilotEnv
    rehearsalWorld (rehearsalRun "run-1") "snapshot-a")) :=
  Json.same_of_canonicalTree _ _ (Json.text_injective (by decide +kernel))

theorem pilot_readsBack :
    ReadsBack pilotLibraries pilotEnv rehearsalWorld (rehearsalRun "run-1") "snapshot-a" where
  manifest := ⟨_, pilotLoads_manifest, pilotManifest_same⟩
  content := by
    intro m hm
    obtain rfl := List.mem_singleton.1 hm
    exact ⟨[], pilotLoads_content, rfl⟩
  digest := pilotDigest_hexDigest.nonempty
  labels := by
    intro m hm
    obtain rfl := List.mem_singleton.1 hm
    exact (by decide : "core.Member" ≠ "")

theorem pilot_archivable :
    Archivable pilotEnv emptyArchive rehearsalWorld (rehearsalRun "run-1") "snapshot-a" :=
  ⟨rfl, rfl, rfl, ⟨_, rfl⟩, rfl⟩

/-- The pilot run, with a state of a node for each of 900 nodes or with one more. -/
def crowdedEnv (nodes : Nat) : ArchiveEnv :=
  { pilotEnv with databases := fun _ => { pilotDb with records := fun _ => {
      pilotDb.records "run-1" with nodeStates := (List.range nodes).map fun n =>
        ⟨"state-" ++ toString n, "node-" ++ toString n, "", "", "", "", []⟩ } } }

/-- The pilot run is archived and verifies. -/
theorem archiveSimulationRun_roundTrip_pilot : ∃ r, RoundTrip pilotLibraries pilotEnv emptyArchive
    rehearsalWorld (rehearsalRun "run-1") {} "snapshot-a" r :=
  (@archiveSimulationRun_roundTrip_iff pilotLibraries pilotEnv rehearsalWorld (rehearsalRun "run-1")
    "snapshot-a" pilot_readsBack emptyArchive rfl [] pilot_archivable {}).2 (by decide)

/-- The item of the 901st node state has the id of the item of the first turn. -/
theorem archiveSimulationRun_crowded :
    Archivable (crowdedEnv 901) emptyArchive rehearsalWorld (rehearsalRun "run-1") "snapshot-a" ∧
    ¬ ∃ r, RoundTrip pilotLibraries (crowdedEnv 901) emptyArchive rehearsalWorld
      (rehearsalRun "run-1") {} "snapshot-a" r := by
  refine ⟨⟨rfl, rfl, rfl, ⟨_, rfl⟩, rfl⟩, ?_⟩
  rintro ⟨r, hr⟩
  have hapart := hr.apart
  simp [Apart, kindsOf, crowdedEnv, ArchiveEnv.source, pilotDb, pilotEnv] at hapart

end LiveOs.Archive
