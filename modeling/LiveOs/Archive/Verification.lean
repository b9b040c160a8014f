import LiveOs.Archive.Services

/-!
# Verifying a snapshot

`verify_simulation_snapshot` of `simulation/archive.py`: the manifest and the files of an archive
against the row of its snapshot, and the index against the counts in the row.
-/

namespace LiveOs.Archive

open Lib Planning

/-- A JSON value is a given text. -/
def isText (v : Json) (s : String) : Bool :=
  match v with
  | .str t => t = s
  | _ => false

/-- `value if isinstance(value, dict) else {}`. -/
def dictOf : Json → List (String × Json)
  | .obj es => es
  | _ => []

/-- `int(value or default)`. -/
def intOr (py : Python) (v : Json) (default : Int) : Except PyError Int :=
  if truthy v then intOf py v else .ok default

/-- The message, where the check fails. -/
def failing (ok : Bool) (message : String) : List String := if ok then [] else [message]

/-! ## Files -/

/-- The JSON of a file; text that is no JSON is an error and counts as the given value. -/
def loadFile (lib : Libraries) (fs : FileSystem) (path : List String) (invalid : String → String)
    (fallback : Json) : Except PyError (Json × List String) :=
  match fs.readText path with
  | none => .error .value
  | some text =>
    match lib.loads text with
    | .ok v => .ok (v, [])
    | .error exc => .ok (fallback, [invalid exc])

/-- `_archive_child_path(snapshot_dir, relative_path)`. -/
def archiveChildPath (fs : FileSystem) (snapshotDir relativePath : String) :
    Option (List String) :=
  let path := fs.resolve (joinPath snapshotDir relativePath)
  if (fs.resolve snapshotDir).isPrefixOf path then some path else none

/-- `Path(str(snapshot.metadata.get("manifest_path") or snapshot_dir / "manifest.json"))`. -/
def manifestPath (py : Python) (snapshot : Snapshot) : String :=
  strOr py (getKey snapshot.metadata "manifest_path")
    (joinPath snapshot.rawArchivePath "manifest.json")

/-- The manifest of a snapshot. -/
def loadManifest (lib : Libraries) (fs : FileSystem) (snapshot : Snapshot) :
    Except PyError (Json × List String) :=
  let path := manifestPath lib.toPython snapshot
  if fs.isFile (fs.resolve path) then
    loadFile lib fs (fs.resolve path)
      (fun exc => "manifest is not valid JSON: " ++ path ++ ": " ++ exc) (.obj [])
  else .ok (.obj [], ["manifest is missing: " ++ path])

/-! ## The manifest -/

/-- `_verify_manifest_metadata(...)`. -/
def verifyManifestMetadata (snapshot : Snapshot) (manifest : List (String × Json)) : List String :=
  let source := dictOf (getKey manifest "source")
  failing (isText (getKey manifest "snapshot_id") snapshot.snapshotId)
      "manifest.snapshot_id does not match SimulationSnapshot.snapshot_id" ++
    failing (isText (getKey source "world_id") snapshot.sourceWorldId)
      "manifest.source.world_id does not match SimulationSnapshot.source_world_id" ++
    failing (isText (getKey source "run_id") snapshot.sourceRunId)
      "manifest.source.run_id does not match SimulationSnapshot.source_run_id" ++
    failing (isText (getKey source "run_status") snapshot.runStatus)
      "manifest.source.run_status does not match SimulationSnapshot.run_status"

/-- The variables of `_verify_raw_models(...)`. -/
structure RawCheck where
  errors : List String
  tableCounts : List (String × Int)
  normalizedRawModels : List (List (String × Json))

def RawCheck.error (acc : RawCheck) (message : String) : RawCheck :=
  { acc with errors := acc.errors ++ [message] }

/-- `table_counts[model_label] = expected_count`. -/
def setCount (counts : List (String × Int)) (label : String) (count : Int) :
    List (String × Int) :=
  match counts with
  | [] => [(label, count)]
  | c :: counts =>
    if c.1 = label then (label, count) :: counts else c :: setCount counts label count

/-- The count of the records in a file against that of its entry. -/
def countErrors (rawRecords : Json) (expectedCount : Int) (relativePath : String) : List String :=
  match rawRecords with
  | .arr records =>
    failing (records.length = expectedCount) ("raw model count mismatch: " ++ relativePath)
  | _ => ["raw model file must contain a JSON list: " ++ relativePath]

/-- An entry whose file is there. -/
def verifyRawFile (lib : Libraries) (fs : FileSystem) (rawPath : List String)
    (item : List (String × Json)) (acc : RawCheck) : Except PyError RawCheck := do
  let relativePath := strOr lib.toPython (getKey item "path") ""
  let shaErrors := failing
    (lib.digest (fs.read rawPath) = strOr lib.toPython (getKey item "sha256") "")
    ("raw model file sha256 mismatch: " ++ relativePath)
  let rawRecords ← loadFile lib fs rawPath
    (fun exc => "raw model file is not valid JSON: " ++ relativePath ++ ": " ++ exc) (.arr [])
  let expectedCount ← intOr lib.toPython (getKey item "count") 0
  return {
    errors := acc.errors ++ shaErrors ++ rawRecords.2 ++
      countErrors rawRecords.1 expectedCount relativePath
    tableCounts := setCount acc.tableCounts (strOr lib.toPython (getKey item "model") "")
      expectedCount
    normalizedRawModels := acc.normalizedRawModels ++ [item] }

/-- An entry of the manifest. -/
def verifyRawModel (lib : Libraries) (fs : FileSystem) (snapshotDir : String) (index : Nat)
    (entry : Json) (acc : RawCheck) : Except PyError RawCheck :=
  match entry with
  | .obj item =>
    let relativePath := strOr lib.toPython (getKey item "path") ""
    if strOr lib.toPython (getKey item "model") "" = "" || relativePath = "" ||
        strOr lib.toPython (getKey item "sha256") "" = "" then
      .ok (acc.error ("manifest.raw_models[" ++ toString index ++
        "] is missing model, path, or sha256"))
    else
      match archiveChildPath fs snapshotDir relativePath with
      | none => .ok (acc.error ("raw model path escapes archive directory: " ++ relativePath))
      | some rawPath =>
        if fs.isFile rawPath then verifyRawFile lib fs rawPath item acc
        else .ok (acc.error ("raw model file is missing: " ++ relativePath))
  | _ => .ok (acc.error ("manifest.raw_models[" ++ toString index ++ "] must be an object"))

/-- The entries from an index on. -/
def verifyEntries (lib : Libraries) (fs : FileSystem) (snapshotDir : String) :
    Nat → List Json → RawCheck → Except PyError RawCheck
  | _, [], acc => .ok acc
  | index, entry :: rest, acc => do
    let acc ← verifyRawModel lib fs snapshotDir index entry acc
    verifyEntries lib fs snapshotDir (index + 1) rest acc

/-- The text that `_legacy_hash_archive_files_v1(...)` feeds to its digest. -/
def legacyText (lib : Libraries) (fs : FileSystem) (snapshotDir : String)
    (manifest : List (String × Json)) : List Char :=
  ((fs.filesUnder snapshotDir).filter (· != "report.html")).flatMap fun relativePath =>
    relativePath.toList ++ (lib.digest
      (if relativePath = "manifest.json" then
        (lib.dumps (.obj (Json.upsert manifest ("raw_archive_hash", .str "")))).toUTF8
      else fs.read (fs.resolve (joinPath snapshotDir relativePath)))).toList

/-- `_legacy_hash_archive_files_v1(...)`. -/
def legacyHashArchiveFilesV1 (lib : Libraries) (fs : FileSystem) (snapshotDir : String)
    (manifest : List (String × Json)) : String :=
  lib.digest (String.ofList (legacyText lib fs snapshotDir manifest)).toUTF8

/-- `_verify_raw_models(...)`: the errors and the warnings. -/
def verifyRawModels (lib : Libraries) (fs : FileSystem) (snapshot : Snapshot)
    (manifest : List (String × Json)) (rawModels : List Json) :
    Except PyError (List String × List String) := do
  let check ← verifyEntries lib fs snapshot.rawArchivePath 1 rawModels ⟨[], [], []⟩
  let expectedHash := strOr lib.toPython (getKey manifest "raw_archive_hash") ""
  let rawFormatVersion ← intOr lib.toPython (getKey manifest "raw_archive_format_version") 1
  let actualHash :=
    if 2 ≤ rawFormatVersion then hashRawManifestEntries lib check.normalizedRawModels
    else legacyHashArchiveFilesV1 lib fs snapshot.rawArchivePath manifest
  return (check.errors ++
      failing (check.tableCounts.isPerm snapshot.rawTableCounts)
        "manifest raw model counts do not match SimulationSnapshot.raw_table_counts" ++
      failing (expectedHash = snapshot.rawArchiveHash)
        "manifest.raw_archive_hash does not match SimulationSnapshot.raw_archive_hash" ++
      failing (expectedHash = "" || actualHash = expectedHash) "raw archive hash mismatch",
    failing (2 ≤ rawFormatVersion)
      "legacy raw archive format verified with v1 manifest hash semantics")

/-- What the checks of the manifest find. -/
structure ManifestCheck where
  errors : List String
  warnings : List String
  rawModelCount : Nat

/-- The checks of a manifest that is not empty. -/
def verifyManifest (lib : Libraries) (fs : FileSystem) (snapshot : Snapshot) (manifest : Json) :
    Except PyError ManifestCheck :=
  if truthy manifest then
    match manifest with
    | .obj manifest =>
      match getKey manifest "raw_models" with
      | .arr rawModels => do
        let found ← verifyRawModels lib fs snapshot manifest rawModels
        return ⟨verifyManifestMetadata snapshot manifest ++ found.1, found.2, rawModels.length⟩
      | _ => do
        let found ← verifyRawModels lib fs snapshot manifest []
        return ⟨"manifest.raw_models must be a list" ::
          (verifyManifestMetadata snapshot manifest ++ found.1), found.2, 0⟩
    | _ => .error .attribute
  else .ok ⟨[], [], 0⟩

/-! ## The index -/

/-- `expected_by_type`, without the run, which is expected once. -/
def expectedTypes : List (ItemType × String) := [(.turn, "turns"), (.event, "events"),
  (.nodeState, "node_states"), (.failure, "failures"), (.proposal, "proposals"),
  (.changeSet, "change_sets"), (.changeOperation, "change_operations")]

/-- The counts that `counts` gives for the types. -/
def expectedCounts (py : Python) (counts : List (String × Json)) :
    List (ItemType × String) → Except PyError (List (ItemType × Int))
  | [] => .ok []
  | (itemType, key) :: types => do
    let count ← intOr py (getKey counts key) 0
    let rest ← expectedCounts py counts types
    return (itemType, count) :: rest

/-- The items of a snapshot. -/
def itemsOf (s : ArchiveState) (snapshotId : String) : List SnapshotItem :=
  s.items.rows.filter fun row => row.snapshot = snapshotId

/-- `_verify_normalized_items(...)`: the number of items and the errors. -/
def verifyNormalizedItems (py : Python) (s : ArchiveState) (snapshot : Snapshot) :
    Except PyError (Nat × List String) :=
  let items := itemsOf s snapshot.snapshotId
  match getKey snapshot.normalizedSummary "counts" with
  | .obj counts => do
    let expected ← expectedCounts py counts expectedTypes
    let expectedByType := (ItemType.run, (1 : Int)) :: expected
    return (items.length, (expectedByType.flatMap fun e =>
        failing (((items.countP fun row => row.itemType = e.1 : Nat) : Int) = e.2)
          ("normalized item count mismatch: " ++ e.1.value)) ++
      failing (items.length = (expectedByType.map Prod.snd).sum)
        "normalized item total count mismatch")
  | _ => .ok (items.length, ["SimulationSnapshot.normalized_summary.counts is missing"])

/-! ## The snapshot -/

structure ArchiveVerificationResult where
  snapshot : Snapshot
  errors : List String
  warnings : List String
  rawModelCount : Nat
  normalizedItemCount : Nat

def ArchiveVerificationResult.ok (r : ArchiveVerificationResult) : Bool := r.errors.isEmpty

/-- The checks of a snapshot. -/
def verifySnapshot (lib : Libraries) (fs : FileSystem) (s : ArchiveState) (snapshot : Snapshot) :
    Except PyError ArchiveVerificationResult := do
  let (manifest, manifestErrors) ← loadManifest lib fs snapshot
  let check ← verifyManifest lib fs snapshot manifest
  let (itemCount, itemErrors) ← verifyNormalizedItems lib.toPython s snapshot
  return {
    snapshot := snapshot
    errors := failing (fs.isDir (fs.resolve snapshot.rawArchivePath))
        ("raw archive directory is missing: " ++ snapshot.rawArchivePath) ++
      manifestErrors ++ check.errors ++
      failing (snapshot.reportPath = "" || fs.isFile (fs.resolve snapshot.reportPath))
        ("report file is missing: " ++ snapshot.reportPath) ++ itemErrors
    warnings := check.warnings
    rawModelCount := check.rawModelCount
    normalizedItemCount := itemCount }

/-- `verify_simulation_snapshot(snapshot_id)`. -/
def verifySimulationSnapshot (lib : Libraries) (fs : FileSystem) (s : ArchiveState)
    (snapshotId : String) : Except PyError ArchiveVerificationResult :=
  match s.snapshots.get? snapshotId with
  | none => .error .doesNotExist
  | some snapshot => verifySnapshot lib fs s snapshot

end LiveOs.Archive
