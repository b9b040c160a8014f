import LiveOs.EventLedger.Journal
import LiveOs.Lib.Table
import LiveOs.Planning.Values
import LiveOs.Roles.Credentials

/-!
# Archives of simulation runs

What `simulation/archive.py` and `simulation/disposition.py` read of a world and write to the
control database and to disk: the rows of `core/models/simulation_archives.py`, the records of a
run in the order of the queries on them, and the file system as far as `pathlib` shows it.
-/

namespace LiveOs.Archive

open Lib Planning

/-! ## The world -/

/-- A row of `WorldRegistry`. -/
structure World where
  worldId : String
  worldType : String
  databaseAlias : String
  databaseName : String

/-- `SimulationRun.Status`. -/
inductive RunStatus where
  | draft
  | running
  | failed
  | completed
  | paused
  | aborted
deriving DecidableEq

def RunStatus.value : RunStatus → String
  | draft => "draft"
  | running => "running"
  | failed => "failed"
  | completed => "completed"
  | paused => "paused"
  | aborted => "aborted"

/-- A `SimulationRun`; `payload` is what the serializer makes of the row. -/
structure RunRow where
  runId : String
  status : RunStatus
  startedAt : Option Nat
  endedAt : Option Nat
  failureSummary : String
  planRevisionId : String
  metadata : Json
  payload : Json

structure NodeStateRow where
  stateId : String
  planNodeId : String
  planNodeCode : String
  planNodeTitle : String
  blockerReason : String
  statusDisplay : String
  payload : List (String × Json)

structure TurnRow where
  turnId : String
  turnNumber : Nat
  summary : String
  payload : Json

structure FailureRow where
  failureId : String
  failureType : String
  title : String
  description : String
  planNodeId : Option String
  simulationDay : Int
  metadata : Json
  payload : Json

structure EventRow where
  eventId : String
  title : String
  summary : String
  payload : Json

structure ProposalRow where
  proposalId : String
  title : String
  rationale : String
  payload : Json

structure OperationRow where
  operationId : String
  sequence : Nat
  typeDisplay : String
  rationale : String
  payload : Json

structure ChangeSetRow where
  changeSetId : String
  title : String
  summary : String
  status : String
  payload : Json
  operations : List OperationRow

/-- The records of a run, in the order of the queries. -/
structure RunRecords where
  nodeStates : List NodeStateRow
  turns : List TurnRow
  failures : List FailureRow
  events : List EventRow
  proposals : List ProposalRow
  changeSets : List ChangeSetRow

/-- A model of the `core` app with its table: `content` is the serialized queryset. -/
structure RawModel where
  label : String
  dbTable : String
  content : String
  count : Nat

abbrev RunTable := Table RunRow String Unit RunRow.runId fun _ => none

/-- The database of a world: its runs, their records and the tables of the models, which stand in
the order of their labels and have one label each. -/
structure SourceDb where
  runs : RunTable
  records : String → RunRecords
  models : List RawModel
  sorted : (models.map RawModel.label).Pairwise (· < ·)
  name : String
  migrations : Json

/-! ## The control database -/

structure Snapshot where
  snapshotId : String
  title : String
  simulationRound : Nat
  scenario : String
  purpose : String
  hypothesis : String
  parameterSummary : Json
  publicTitle : String
  publicSummary : String
  reviewConclusion : String
  nextRunBasis : String
  publicationStatus : String
  sourceWorldId : String
  sourceWorldType : String
  sourceDatabaseAlias : String
  sourceDatabaseName : String
  sourceRunId : String
  planRevisionId : String
  runStatus : String
  failureType : String
  failureTitle : String
  rawArchivePath : String
  rawArchiveHash : String
  reportPath : String
  rawTableCounts : List (String × Int)
  normalizedSummary : List (String × Json)
  codeVersion : String
  archivedAt : Nat
  metadata : List (String × Json)

/-- `SimulationSnapshotItem.ItemType`, without the summary type that nothing creates. -/
inductive ItemType where
  | run
  | nodeState
  | turn
  | failure
  | event
  | proposal
  | changeSet
  | changeOperation
deriving DecidableEq

def ItemType.value : ItemType → String
  | run => "run"
  | nodeState => "node_state"
  | turn => "turn"
  | failure => "failure"
  | event => "event"
  | proposal => "proposal"
  | changeSet => "change_set"
  | changeOperation => "change_operation"

structure SnapshotItem where
  itemId : String
  snapshot : String
  itemType : ItemType
  sourceModel : String
  sourcePk : String
  title : String
  summary : String
  sortOrder : Nat
  payloadJson : Json

/-- `SimulationRunDisposition.Disposition`. -/
inductive DispositionKind where
  | archived
  | discarded
deriving DecidableEq

structure Disposition where
  dispositionId : String
  sourceWorldId : String
  sourceWorldType : String
  sourceDatabaseAlias : String
  sourceDatabaseName : String
  sourceRunId : String
  runStatus : String
  runStartedAt : Option Nat
  runEndedAt : Option Nat
  simulationRound : Nat
  scenario : String
  disposition : DispositionKind
  reason : String
  decidedBy : String
  decidedAt : Nat
  snapshot : Option String

abbrev SnapshotTable := Table Snapshot String (String × String) Snapshot.snapshotId
  fun s => some (s.sourceWorldId, s.sourceRunId)

abbrev ItemTable := Table SnapshotItem String Unit SnapshotItem.itemId fun _ => none

abbrev DispositionTable := Table Disposition String (String × String) Disposition.dispositionId
  fun d => some (d.sourceWorldId, d.sourceRunId)

/-- The control database, and the text files that archiving has written. -/
structure ArchiveState where
  snapshots : SnapshotTable
  items : ItemTable
  dispositions : DispositionTable
  files : List (String × String)

/-! ## The surroundings -/

/-- The libraries that archives rest on. -/
structure Libraries extends Python where
  /-- `hashlib.sha256(data).hexdigest()` -/
  digest : ByteArray → String
  /-- `json.loads`, or the text of the `JSONDecodeError` -/
  loads : String → Except String Json
  /-- `json.dumps(v, ensure_ascii=False, sort_keys=True, indent=2, default=str)` -/
  dumps : Json → String
  /-- `_render_report_html(summary)` -/
  report : List (String × Json) → String

/-- What one call takes from its surroundings. -/
structure ArchiveEnv where
  now : Nat
  snapshotDraws : List String
  dispositionDraws : List String
  /-- `WORLD_DATABASE_ROUTING_ENABLED` -/
  routing : Bool
  databases : String → SourceDb
  archiveRoot : String
  /-- Paths at which something is on disk already. -/
  onDisk : String → Bool
  codeVersion : String
  controlMigrations : Json

/-- The file system as `pathlib` shows it, by the parts of resolved paths. -/
structure FileSystem where
  resolve : String → List String
  isDir : List String → Bool
  isFile : List String → Bool
  read : List String → ByteArray
  /-- `read_text(encoding="utf-8")`, unless the bytes are no such text. -/
  readText : List String → Option String
  /-- The relative paths of the files under a directory, in order. -/
  filesUnder : String → List String

/-- `Path(directory) / relative`. -/
def joinPath (directory relative : String) : String :=
  if "/".toList.isPrefixOf relative.toList then relative else directory ++ "/" ++ relative

end LiveOs.Archive
