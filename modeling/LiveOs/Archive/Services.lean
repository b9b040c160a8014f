import LiveOs.Archive.Model

/-!
# Archiving and discarding a run

`archive_simulation_run` of `simulation/archive.py` and the dispositions of
`simulation/disposition.py`. The rows of an archive are written in one transaction; its files are
written before.
-/

namespace LiveOs.Archive

open Lib EventLedger Planning Roles

/-! ## Dispositions -/

/-- `CONTROL_DATABASE_ALIAS`. -/
def controlDatabaseAlias : String := "default"

/-- `source_alias_for_world(world)` and `archive_source_alias(world.database_alias)`. -/
def sourceAliasForWorld (env : ArchiveEnv) (world : World) : String :=
  if !env.routing then controlDatabaseAlias else world.databaseAlias

/-- The database of the world. -/
def ArchiveEnv.source (env : ArchiveEnv) (world : World) : SourceDb :=
  env.databases (sourceAliasForWorld env world)

/-- `FINISHED_RUN_STATUSES`. -/
def RunStatus.isFinished : RunStatus → Bool
  | failed | completed | paused | aborted => true
  | _ => false

/-- `run.metadata if isinstance(run.metadata, dict) else {}`. -/
def RunRow.metadataDict (run : RunRow) : List (String × Json) :=
  match run.metadata with
  | .obj es => es
  | _ => []

/-- `is_continuable_zero_start_observation_run(run)`. -/
def isContinuableZeroStartObservationRun (run : RunRow) : Bool :=
  run.status = .failed &&
    (match getKey run.metadataDict "scenario" with
      | .str scenario => scenario = "zero_start"
      | _ => false) &&
    !truthy (getKey run.metadataDict "startup_gate_satisfied") &&
    !truthy (getKey run.metadataDict "system_interaction_failed")

/-- The runs that a world has a disposition or a snapshot of. -/
def resolvedRunIds (s : ArchiveState) (worldId : String) : List String :=
  ((s.dispositions.rows.filter fun d => d.sourceWorldId = worldId).map Disposition.sourceRunId) ++
    ((s.snapshots.rows.filter fun p => p.sourceWorldId = worldId).map Snapshot.sourceRunId)

/-- `order_by("started_at", "run_id")`, runs that have not started first. -/
def startedFirst (a b : RunRow) : Bool :=
  match a.startedAt, b.startedAt with
  | none, none => a.runId ≤ b.runId
  | none, some _ => true
  | some _, none => false
  | some x, some y => x < y || x = y && a.runId ≤ b.runId

/-- `unresolved_finished_runs(world=...)`. -/
def unresolvedFinishedRuns (env : ArchiveEnv) (s : ArchiveState) (world : World) : List RunRow :=
  (((env.source world).runs.rows.filter fun run => run.status.isFinished).insertionSort
    fun a b => startedFirst a b).filter fun run =>
      !(resolvedRunIds s world.worldId).contains run.runId &&
        !isContinuableZeroStartObservationRun run

/-- `next_simulation_round(world_id=...)`. -/
def nextSimulationRound (s : ArchiveState) (worldId : String) : Nat :=
  (((s.dispositions.rows.filter fun d => d.sourceWorldId = worldId).map
      Disposition.simulationRound) ++
    ((s.snapshots.rows.filter fun p => p.sourceWorldId = worldId).map
      Snapshot.simulationRound)).foldr max 0 + 1

/-- `simulation_round or next_simulation_round(world_id=world.world_id)`. -/
def roundOr (s : ArchiveState) (worldId : String) (simulationRound : Option Nat) : Nat :=
  match simulationRound with
  | none | some 0 => nextSimulationRound s worldId
  | some round => round

/-- `scenario_from_run(run)`. -/
def scenarioFromRun (py : Python) (run : RunRow) : String :=
  strOr py (getKey run.metadataDict "scenario") ""

/-- The first of the draws whose id is free. -/
def allocate (head : String) (draws : List String) (taken : String → Bool) (message : String) :
    Except Error String :=
  match (draws.map (head ++ ·)).find? fun id => !taken id with
  | some id => .ok id
  | none => .error (.runtime message)

/-- `_generate_disposition_id()`. -/
def generateDispositionId (env : ArchiveEnv) (s : ArchiveState) : Except Error String :=
  allocate "sim-disposition-" (env.dispositionDraws.take 10)
    (fun id => (s.dispositions.get? id).isSome) "Unable to allocate SimulationRunDisposition id."

/-- The disposition of a run, if there is one. -/
def dispositionOf (s : ArchiveState) (world : World) (run : RunRow) : Option Disposition :=
  s.dispositions.rows.find? fun d =>
    d.sourceWorldId = world.worldId && d.sourceRunId = run.runId

/-- The snapshot of a run, if there is one. -/
def snapshotOf (s : ArchiveState) (world : World) (run : RunRow) : Option Snapshot :=
  s.snapshots.rows.find? fun p => p.sourceWorldId = world.worldId && p.sourceRunId = run.runId

/-- The decision that a disposition records. -/
structure Decision where
  disposition : DispositionKind
  reason : String
  decidedBy : String
  snapshot : Option String
  simulationRound : Option Nat

/-- The row of a new disposition. -/
def newDisposition (py : Python) (env : ArchiveEnv) (s : ArchiveState) (world : World)
    (run : RunRow) (decision : Decision) (dispositionId : String) : Disposition where
  dispositionId := dispositionId
  sourceWorldId := world.worldId
  sourceWorldType := world.worldType
  sourceDatabaseAlias := sourceAliasForWorld env world
  sourceDatabaseName := orText world.databaseName (env.source world).name
  sourceRunId := run.runId
  runStatus := run.status.value
  runStartedAt := run.startedAt
  runEndedAt := run.endedAt
  simulationRound := roundOr s world.worldId decision.simulationRound
  scenario := scenarioFromRun py run
  disposition := decision.disposition
  reason := decision.reason
  decidedBy := decision.decidedBy
  decidedAt := env.now
  snapshot := decision.snapshot

/-- `_record_disposition(...)`. -/
def recordDisposition (py : Python) (env : ArchiveEnv) (s : ArchiveState) (world : World)
    (run : RunRow) (decision : Decision) : Except Error (ArchiveState × Disposition) :=
  match dispositionOf s world run with
  | some existing => .ok (s, existing)
  | none => do
    let dispositionId ← generateDispositionId env s
    let row := newDisposition py env s world run decision dispositionId
    let dispositions ← s.dispositions.insert row Error.integrity
    return ({ s with dispositions := dispositions }, row)

/-- `record_archived_disposition(...)`. -/
def recordArchivedDisposition (py : Python) (env : ArchiveEnv) (s : ArchiveState) (world : World)
    (run : RunRow) (snapshot : Snapshot) (reason decidedBy : String) :
    Except Error (ArchiveState × Disposition) :=
  recordDisposition py env s world run {
    disposition := .archived
    reason := orText reason "仿真运行已归档为永久快照。"
    decidedBy := decidedBy
    snapshot := some snapshot.snapshotId
    simulationRound := some snapshot.simulationRound }

/-- `record_discarded_disposition(...)`. -/
def recordDiscardedDisposition (py : Python) (env : ArchiveEnv) (s : ArchiveState) (world : World)
    (run : RunRow) (reason decidedBy : String) : Except Error (ArchiveState × Disposition) := do
  rejectIf (strip reason = "") (.value "reason is required when discarding a simulation run.")
  rejectIf (snapshotOf s world run).isSome (.value "Archived simulation run cannot be discarded.")
  recordDisposition py env s world run {
    disposition := .discarded
    reason := reason
    decidedBy := decidedBy
    snapshot := none
    simulationRound := none }

/-! ## Raw models -/

/-- `EXCLUDED_RAW_MODELS`. -/
def excludedRawModels : List String := ["core.SimulationSnapshot", "core.SimulationSnapshotItem"]

/-- The models that are exported. -/
def SourceDb.rawModels (db : SourceDb) : List RawModel :=
  db.models.filter fun m => !excludedRawModels.contains m.label

/-- The path of the export of a model, relative to the archive. -/
def RawModel.path (m : RawModel) : String := "raw/" ++ m.label ++ ".json"

/-- The entry of a model in the manifest. -/
def RawModel.entry (lib : Libraries) (m : RawModel) : List (String × Json) := [
  ("model", .str m.label),
  ("db_table", .str m.dbTable),
  ("count", .scalar (.int m.count)),
  ("path", .str m.path),
  ("sha256", .str (lib.digest m.content.toUTF8))]

/-- `_export_raw_core_models(...)`: the entries and the files. -/
def exportRawCoreModels (lib : Libraries) (db : SourceDb) (snapshotDir : String) :
    List (List (String × Json)) × List (String × String) :=
  (db.rawModels.map (RawModel.entry lib),
    db.rawModels.map fun m => (joinPath snapshotDir m.path, m.content))

/-- The members of an entry that its hash covers. -/
def stablePayload (item : List (String × Json)) : Json :=
  .obj [("count", getKey item "count"), ("db_table", getKey item "db_table"),
    ("model", getKey item "model"), ("path", getKey item "path"), ("sha256", getKey item "sha256")]

/-- `json.dumps(stable_payload, ensure_ascii=False, sort_keys=True, separators=(",", ":"))`. -/
def stableText (item : List (String × Json)) : List Char :=
  (stablePayload item).toPy.canonicalTree.text

/-- `str(value.get("model", ""))`. -/
def sortLabel (py : Python) (item : List (String × Json)) : String :=
  py.str (getKeyOr item "model" (.str ""))

/-- The text that `_hash_raw_manifest_entries(raw_models)` feeds to its digest. -/
def hashedText (py : Python) (rawModels : List (List (String × Json))) : List Char :=
  ((rawModels.insertionSort fun a b => sortLabel py a ≤ sortLabel py b).map stableText).flatten

/-- `_hash_raw_manifest_entries(raw_models)`. -/
def hashRawManifestEntries (lib : Libraries) (rawModels : List (List (String × Json))) : String :=
  lib.digest (String.ofList (hashedText lib.toPython rawModels)).toUTF8

/-- `_build_manifest(...)`, with the hash of the raw archive. -/
def buildManifest (env : ArchiveEnv) (world : World) (run : RunRow) (snapshotId snapshotDir : String)
    (rawModels : List (List (String × Json))) (rawArchiveHash : String) : List (String × Json) := [
  ("snapshot_id", .str snapshotId),
  ("snapshot_schema_version", .scalar (.int 1)),
  ("raw_archive_format_version", .scalar (.int 2)),
  ("created_at", .str (isoFormat env.now)),
  ("source", .obj [("world_id", .str world.worldId), ("world_type", .str world.worldType),
    ("database_alias", .str (sourceAliasForWorld env world)),
    ("database_name", .str (orText world.databaseName (env.source world).name)),
    ("run_id", .str run.runId), ("run_status", .str run.status.value),
    ("plan_revision_id", .str run.planRevisionId)]),
  ("code_version", .str env.codeVersion),
  ("archive_path", .str snapshotDir),
  ("raw_scope", .str "all_core_domain_models"),
  ("raw_models", .arr (rawModels.map .obj)),
  ("migrations", .obj [("source", (env.source world).migrations),
    ("control", env.controlMigrations)]),
  ("raw_archive_hash", .str rawArchiveHash)]

/-! ## The index -/

/-- What an item is made of besides its place. -/
structure ItemFields where
  itemType : ItemType
  sourceModel : String
  sourcePk : String
  title : String
  summary : String
  payload : Json

/-- `_item(...)`. -/
def item (snapshotId : String) (sequence : Nat) (fields : ItemFields) : SnapshotItem where
  itemId := snapshotId ++ "-item-" ++ padded 6 sequence
  snapshot := snapshotId
  itemType := fields.itemType
  sourceModel := fields.sourceModel
  sourcePk := fields.sourcePk
  title := String.ofList (fields.title.toList.take 255)
  summary := fields.summary
  sortOrder := sequence
  payloadJson := fields.payload

/-- The items of a kind, counted from its base on. -/
def numbered (snapshotId : String) : Nat → List ItemFields → List SnapshotItem
  | _, [] => []
  | sequence, fields :: rest =>
    item snapshotId (sequence + 1) fields :: numbered snapshotId (sequence + 1) rest

/-- `_plan_node_label(node)`. -/
def planNodeLabel (state : NodeStateRow) : String :=
  orText (strip (state.planNodeCode ++ " " ++ state.planNodeTitle)) state.planNodeId

/-- `_node_state_payload(state)`. -/
def nodeStatePayload (state : NodeStateRow) : Json :=
  .obj (Json.upsert state.payload ("display", .obj [("plan_node_id", .str state.planNodeId),
    ("plan_node_code", .str state.planNodeCode), ("plan_node_title", .str state.planNodeTitle),
    ("plan_node_label", .str (planNodeLabel state)), ("status", .str state.statusDisplay)]))

def runFields (run : RunRow) : ItemFields :=
  ⟨.run, "core.SimulationRun", run.runId, "仿真运行 " ++ run.runId, run.failureSummary, run.payload⟩

def nodeStateFields (state : NodeStateRow) : ItemFields :=
  ⟨.nodeState, "core.PlanNodeRunState", state.stateId, planNodeLabel state,
    orText state.blockerReason state.statusDisplay, nodeStatePayload state⟩

def turnFields (turn : TurnRow) : ItemFields :=
  ⟨.turn, "core.SimulationTurn", turn.turnId, "第 " ++ toString turn.turnNumber ++ " 步",
    turn.summary, turn.payload⟩

def failureFields (failure : FailureRow) : ItemFields :=
  ⟨.failure, "core.SimulationFailure", failure.failureId, failure.title, failure.description,
    failure.payload⟩

def eventFields (event : EventRow) : ItemFields :=
  ⟨.event, "core.Event", event.eventId, event.title, event.summary, event.payload⟩

def proposalFields (proposal : ProposalRow) : ItemFields :=
  ⟨.proposal, "core.PlanRevisionProposal", proposal.proposalId, proposal.title, proposal.rationale,
    proposal.payload⟩

def operationFields (operation : OperationRow) : ItemFields :=
  ⟨.changeOperation, "core.PlanChangeOperation", operation.operationId,
    toString operation.sequence ++ ". " ++ operation.typeDisplay, operation.rationale,
    operation.payload⟩

/-- A change set, and its operations after it. -/
def changeSetFields (changeSet : ChangeSetRow) : List ItemFields :=
  ⟨.changeSet, "core.PlanChangeSet", changeSet.changeSetId, changeSet.title, changeSet.summary,
    changeSet.payload⟩ :: changeSet.operations.map operationFields

/-- `_normalized_items(...)`. -/
def normalizedItems (snapshotId : String) (run : RunRow) (records : RunRecords) :
    List SnapshotItem :=
  [item snapshotId 1 (runFields run)] ++
    numbered snapshotId 100 (records.nodeStates.map nodeStateFields) ++
    numbered snapshotId 1000 (records.turns.map turnFields) ++
    numbered snapshotId 2000 (records.failures.map failureFields) ++
    numbered snapshotId 3000 (records.events.map eventFields) ++
    numbered snapshotId 4000 (records.proposals.map proposalFields) ++
    numbered snapshotId 5000 (records.changeSets.flatMap changeSetFields)

/-- `_failure_summary(failure)`. -/
def failureSummary (failure : FailureRow) : Json := .obj [
  ("failure_id", .str failure.failureId), ("failure_type", .str failure.failureType),
  ("title", .str failure.title), ("description", .str failure.description),
  ("plan_node_id", match failure.planNodeId with
    | none => .scalar .none
    | some id => .str id),
  ("simulation_day", .scalar (.int failure.simulationDay)), ("metadata", failure.metadata)]

/-- `_change_set_summary(change_set)`. -/
def changeSetSummary (changeSet : ChangeSetRow) : Json := .obj [
  ("change_set_id", .str changeSet.changeSetId), ("title", .str changeSet.title),
  ("summary", .str changeSet.summary), ("status", .str changeSet.status),
  ("operation_count", .scalar (.int changeSet.operations.length))]

/-- `counts` of `_normalized_summary(...)`. -/
def summaryCounts (records : RunRecords) : List (String × Json) := [
  ("turns", .scalar (.int records.turns.length)),
  ("events", .scalar (.int records.events.length)),
  ("node_states", .scalar (.int records.nodeStates.length)),
  ("failures", .scalar (.int records.failures.length)),
  ("proposals", .scalar (.int records.proposals.length)),
  ("change_sets", .scalar (.int records.changeSets.length)),
  ("change_operations",
    .scalar (.int (records.changeSets.flatMap ChangeSetRow.operations).length))]

/-- `_normalized_summary(...)`. -/
def normalizedSummary (world : World) (run : RunRow) (records : RunRecords) :
    List (String × Json) := [
  ("world", .obj [("world_id", .str world.worldId), ("world_type", .str world.worldType),
    ("database_alias", .str world.databaseAlias), ("database_name", .str world.databaseName)]),
  ("run", run.payload),
  ("counts", .obj (summaryCounts records)),
  ("failures", .arr (records.failures.map failureSummary)),
  ("change_sets", .arr (records.changeSets.map changeSetSummary))]

/-- `bulk_create(items)`. -/
def bulkCreate (items : ItemTable) (new : List SnapshotItem) : Except Error ItemTable :=
  new.foldlM (fun items row => items.insert row Error.integrity) items

/-! ## Archiving -/

/-- The arguments of `archive_simulation_run` besides world and run. -/
structure ArchiveArgs where
  simulationRound : Option Nat := none
  scenario : String := ""
  purpose : String := ""
  hypothesis : String := ""
  parameterSummary : Json := .obj []
  publicTitle : String := ""
  publicSummary : String := ""
  reviewConclusion : String := ""
  nextRunBasis : String := ""
  publicationStatus : String := "public"
  decidedBy : String := ""
  dispositionReason : String := ""

/-- `_generate_snapshot_id()`. -/
def generateSnapshotId (env : ArchiveEnv) (s : ArchiveState) : Except Error String :=
  allocate "snapshot-" (env.snapshotDraws.take 5) (fun id => (s.snapshots.get? id).isSome)
    "Unable to allocate SimulationSnapshot id."

/-- `_snapshot_title(...)`. -/
def snapshotTitle (world : World) (run : RunRow) (failure : Option FailureRow) : String :=
  world.worldId ++ " / " ++ run.runId ++ " / " ++
    (match failure with
      | some failure => failure.title
      | none => run.status.value)

/-- The row of a new snapshot. -/
def newSnapshot (lib : Libraries) (env : ArchiveEnv) (s : ArchiveState) (world : World)
    (run : RunRow) (records : RunRecords) (args : ArchiveArgs) (snapshotId : String) : Snapshot :=
  let snapshotDir := joinPath env.archiveRoot snapshotId
  let failure := records.failures.head?
  let rawModels := (env.source world).rawModels
  { snapshotId := snapshotId
    title := snapshotTitle world run failure
    simulationRound := roundOr s world.worldId args.simulationRound
    scenario := orText args.scenario (scenarioFromRun lib.toPython run)
    purpose := args.purpose
    hypothesis := args.hypothesis
    parameterSummary := args.parameterSummary
    publicTitle := args.publicTitle
    publicSummary := args.publicSummary
    reviewConclusion := args.reviewConclusion
    nextRunBasis := args.nextRunBasis
    publicationStatus := args.publicationStatus
    sourceWorldId := world.worldId
    sourceWorldType := world.worldType
    sourceDatabaseAlias := sourceAliasForWorld env world
    sourceDatabaseName := world.databaseName
    sourceRunId := run.runId
    planRevisionId := run.planRevisionId
    runStatus := run.status.value
    failureType := (failure.map FailureRow.failureType).getD ""
    failureTitle := (failure.map FailureRow.title).getD ""
    rawArchivePath := snapshotDir
    rawArchiveHash := hashRawManifestEntries lib (rawModels.map (RawModel.entry lib))
    reportPath := joinPath snapshotDir "report.html"
    rawTableCounts := rawModels.map fun m => (m.label, (m.count : Int))
    normalizedSummary := normalizedSummary world run records
    codeVersion := env.codeVersion
    archivedAt := env.now
    metadata := [("raw_archive_format_version", .scalar (.int 2)),
      ("manifest_path", .str (joinPath snapshotDir "manifest.json")),
      ("raw_scope", .str "all_core_domain_models")] }

/-- The manifest of a new snapshot. -/
def newManifest (lib : Libraries) (env : ArchiveEnv) (world : World) (run : RunRow)
    (snapshotId : String) : List (String × Json) :=
  let entries := (env.source world).rawModels.map (RawModel.entry lib)
  buildManifest env world run snapshotId (joinPath env.archiveRoot snapshotId) entries
    (hashRawManifestEntries lib entries)

/-- The files of a new snapshot. -/
def newFiles (lib : Libraries) (env : ArchiveEnv) (world : World) (run : RunRow)
    (records : RunRecords) (snapshotId : String) : List (String × String) :=
  let snapshotDir := joinPath env.archiveRoot snapshotId
  (exportRawCoreModels lib (env.source world) snapshotDir).2 ++
    [(joinPath snapshotDir "manifest.json",
        lib.dumps (.obj (newManifest lib env world run snapshotId))),
      (joinPath snapshotDir "report.html", lib.report (normalizedSummary world run records))]

structure ArchiveResult where
  snapshot : Snapshot
  created : Bool

/-- `archive_simulation_run(...)`. -/
def archiveSimulationRun (lib : Libraries) (env : ArchiveEnv) (s : ArchiveState) (world : World)
    (runId : String) (args : ArchiveArgs) : Except Error (ArchiveState × ArchiveResult) := do
  let run ← related (env.source world).runs runId "SimulationRun"
  match snapshotOf s world run with
  | some existing => do
    let (s, _) ← recordArchivedDisposition lib.toPython env s world run existing
      args.dispositionReason args.decidedBy
    return (s, ⟨existing, false⟩)
  | none => do
    let snapshotId ← generateSnapshotId env s
    let records := (env.source world).records run.runId
    rejectIf (env.onDisk (joinPath (joinPath env.archiveRoot snapshotId) "raw"))
      (.runtime "FileExistsError")
    let snapshot := newSnapshot lib env s world run records args snapshotId
    let files := newFiles lib env world run records snapshotId
    let snapshots ← s.snapshots.insert snapshot Error.integrity
    let items ← bulkCreate s.items (normalizedItems snapshotId run records)
    let s := { s with snapshots := snapshots, items := items, files := s.files ++ files }
    let (s, _) ← recordArchivedDisposition lib.toPython env s world run snapshot
      args.dispositionReason args.decidedBy
    return (s, ⟨snapshot, true⟩)

/-! ## Histories -/

/-- A call on a run of a world. -/
inductive ArchiveCall where
  | archive (runId : String) (args : ArchiveArgs)
  | discard (run : RunRow) (reason decidedBy : String)

/-- A call in its surroundings. -/
structure WorldCall where
  env : ArchiveEnv
  world : World
  call : ArchiveCall

/-- The state after a call that succeeds. -/
def archiveStep (lib : Libraries) (s : ArchiveState) (c : WorldCall) : Except Error ArchiveState :=
  match c.call with
  | .archive runId args => do
    let (s, _) ← archiveSimulationRun lib c.env s c.world runId args
    return s
  | .discard run reason decidedBy => do
    let (s, _) ← recordDiscardedDisposition lib.toPython c.env s c.world run reason decidedBy
    return s

end LiveOs.Archive
