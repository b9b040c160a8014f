import LiveOs.Lib.PyValue
import LiveOs.Lib.Rollback
import LiveOs.Lib.Table

/-!
# The registry of worlds

The rows of `worlds/models.py` in the control database, and the services of `worlds/lifecycle.py`
that register, archive and delete a world. Beside the registry the state keeps which database
aliases were flushed, in order.
-/

namespace LiveOs.Worlds

open Lib

/-! ## Rows -/

/-- `WorldRegistry.WorldType`. -/
inductive WorldType where
  | real
  | simulation
deriving DecidableEq

def WorldType.value : WorldType → String
  | real => "real"
  | simulation => "simulation"

def WorldType.display : WorldType → String
  | real => "真实世界"
  | simulation => "仿真世界"

/-- `WorldRegistry.Status`. -/
inductive WorldStatus where
  | active
  | archived
  | deleted
deriving DecidableEq

def WorldStatus.value : WorldStatus → String
  | active => "active"
  | archived => "archived"
  | deleted => "deleted"

def WorldStatus.display : WorldStatus → String
  | active => "启用"
  | archived => "已归档"
  | deleted => "已删除"

structure WorldRegistry where
  worldId : String
  name : String
  worldType : WorldType
  databaseAlias : String
  databaseName : String
  status : WorldStatus
  createdAt : Nat
  updatedAt : Nat
  archivedAt : Option Nat
deriving DecidableEq

abbrev WorldTable := Table WorldRegistry String Unit WorldRegistry.worldId fun _ => none

/-- `WorldMaintenanceLog.StatusChoices`. -/
inductive MaintenanceStatus where
  | succeeded
  | failed
deriving DecidableEq

/-- Rows of a database by the name of their table. -/
abbrev TableCounts := List (String × Nat)

structure WorldMaintenanceLog where
  world : String
  actorUsername : String
  status : MaintenanceStatus
  force : Bool
  countsBeforeJson : TableCounts
  countsAfterJson : TableCounts
  message : String

/-- The control database, and the aliases whose databases were flushed. -/
structure WorldSite where
  registry : WorldTable
  maintenanceLogs : List WorldMaintenanceLog
  flushed : List String

/-- What the services raise; `other` is any exception that no handler names. -/
inductive WorldError where
  | command (message : String)
  | domain (message : String)
  | other
deriving DecidableEq

/-- The settings: the names of the configured databases by alias, and the aliases for worlds. -/
structure WorldSettings where
  databases : List (String × String)
  worldDatabaseAliases : List String
  worldDatabaseRoutingEnabled : Bool

def defaultRealworldId : String := "realworld"

/-- `CONTROL_DATABASE_ALIAS` of the settings that may enable routing. -/
def controlDatabaseAlias : String := "default"

/-! ## Checks -/

/-- `a or b` for texts. -/
def orText (a b : String) : String := if a = "" then b else a

def isIdStart (c : Char) : Bool :=
  "abcdefghijklmnopqrstuvwxyz0123456789".toList.contains c

/-- `WORLD_ID_PATTERN.fullmatch(text)`. -/
def matchesWorldIdPattern (text : String) : Bool :=
  match text.toList with
  | [] => false
  | c :: cs => isIdStart c && decide (cs.length ≤ 63) &&
      cs.all fun d => isIdStart d || d = '_' || d = '-'

/-- `validate_world_id(world_id)`. -/
def validateWorldId (worldId : String) : Except WorldError String := do
  let checked := strip worldId
  rejectIf (checked = "") (.command "world_id cannot be empty.")
  rejectIf (matchesWorldIdPattern checked = false)
    (.command "world_id must use lowercase letters, numbers, underscore or hyphen.")
  return checked

/-- `validate_world_database_alias(alias)`. -/
def validateWorldDatabaseAlias (settings : WorldSettings) (databaseAlias : String) :
    Except WorldError String := do
  let checked := strip databaseAlias
  rejectIf (checked = "") (.command "database alias cannot be empty.")
  rejectIf (checked ∉ settings.databases.map Prod.fst)
    (.command ("database alias is not configured in settings.DATABASES: " ++ checked))
  rejectIf (checked ∉ settings.worldDatabaseAliases)
    (.command ("database alias is not listed in WORLD_DATABASE_ALIASES: " ++ checked))
  return checked

/-- `database_name_for_alias(alias)`. -/
def databaseNameForAlias (settings : WorldSettings) (databaseAlias : String) : String :=
  (settings.databases.lookup databaseAlias).getD ""

/-- The check of the type against `WorldRegistry.WorldType.choices`. -/
def checkWorldType (worldType : String) : Except WorldError WorldType :=
  if worldType = WorldType.real.value then .ok .real
  else if worldType = WorldType.simulation.value then .ok .simulation
  else .error (.command ("Invalid world type: " ++ worldType))

/-- `ensure_not_realworld(world, action)`. -/
def ensureNotRealworld (world : WorldRegistry) (action : String) : Except WorldError Unit :=
  rejectIf (world.worldId = defaultRealworldId ∨ world.worldType = .real)
    (.command ("Refusing to " ++ action ++ " real world: " ++ world.worldId))

/-! ## Services -/

/-- Another world that is not deleted and has the alias. -/
def existingAliasOwner (registry : WorldTable) (databaseAlias worldId : String) :
    Option WorldRegistry :=
  registry.first? fun w =>
    w.databaseAlias = databaseAlias && w.worldId ≠ worldId && w.status ≠ .deleted

/-- The fields that `create_world_registry` wants a row to have. -/
def WorldRegistry.desired (world : WorldRegistry) (name : String) (worldType : WorldType)
    (databaseAlias databaseName : String) : WorldRegistry :=
  { world with
    name := name
    worldType := worldType
    databaseAlias := databaseAlias
    databaseName := databaseName
    status := .active
    archivedAt := none }

/-- The block of `create_world_registry`: the row is created, or changed where it differs. -/
def registerWorld (now : Nat) (worldId name : String) (worldType : WorldType)
    (databaseAlias databaseName : String) :
    EStateM WorldError WorldSite (WorldRegistry × Bool) := do
  let s ← get
  match s.registry.get? worldId with
  | none =>
    let world : WorldRegistry := {
      worldId := worldId
      name := name
      worldType := worldType
      databaseAlias := databaseAlias
      databaseName := databaseName
      status := .active
      createdAt := now
      updatedAt := now
      archivedAt := none }
    let registry ← compute (s.registry.insert world .other)
    set { s with registry := registry }
    return (world, true)
  | some world =>
    let changed := world.desired name worldType databaseAlias databaseName
    if changed = world then return (world, false)
    else
      let registry := s.registry.modify worldId
        (fun w => { w.desired name worldType databaseAlias databaseName with updatedAt := now })
        (fun _ => rfl) (fun _ => rfl)
      set { s with registry := registry }
      return ({ changed with updatedAt := now }, false)

/-- `create_world_registry(...)`. -/
def createWorldRegistry (settings : WorldSettings) (now : Nat)
    (worldId name worldType databaseAlias databaseName : String) :
    EStateM WorldError WorldSite (WorldRegistry × Bool) := do
  let checkedWorldId ← compute (validateWorldId worldId)
  let checkedAlias ← compute (validateWorldDatabaseAlias settings databaseAlias)
  let checkedName := orText (strip (orText name checkedWorldId)) checkedWorldId
  let checkedDatabaseName :=
    strip (orText databaseName (databaseNameForAlias settings checkedAlias))
  let checkedType ← compute (checkWorldType worldType)
  let s ← get
  match existingAliasOwner s.registry checkedAlias checkedWorldId with
  | some owner => throw (.command ("database alias " ++ checkedAlias ++
      " is already used by world " ++ owner.worldId ++ "."))
  | none => atomic (registerWorld now checkedWorldId checkedName checkedType checkedAlias
      checkedDatabaseName)

/-- `archive_world_registry(world_id)`. -/
def archiveWorldRegistry (now : Nat) (worldId : String) :
    EStateM WorldError WorldSite (WorldRegistry × Bool) :=
  atomic do
    let checkedWorldId ← compute (validateWorldId worldId)
    let s ← get
    match s.registry.get? checkedWorldId with
    | none => throw (.command ("World not found: " ++ checkedWorldId))
    | some world =>
      compute (ensureNotRealworld world "archive")
      if world.status = .deleted then
        throw (.command ("Cannot archive deleted world: " ++ world.worldId))
      else if world.status = .archived then return (world, false)
      else
        let archive := fun w : WorldRegistry =>
          { w with status := .archived, archivedAt := some now, updatedAt := now }
        let registry := s.registry.modify checkedWorldId archive (fun _ => rfl) (fun _ => rfl)
        set { s with registry := registry }
        return (archive world, true)

/-- `delete_world_registry(world_id)`. -/
def deleteWorldRegistry (now : Nat) (worldId : String) :
    EStateM WorldError WorldSite (WorldRegistry × Bool) :=
  atomic do
    let checkedWorldId ← compute (validateWorldId worldId)
    let s ← get
    match s.registry.get? checkedWorldId with
    | none => throw (.command ("World not found: " ++ checkedWorldId))
    | some world =>
      compute (ensureNotRealworld world "delete")
      if world.status = .deleted then return (world, false)
      else if world.status ≠ .archived then
        throw (.command ("World must be archived before deletion: " ++ world.worldId ++
          ". Run archive_world first."))
      else
        let delete := fun w : WorldRegistry =>
          { w with
            status := .deleted
            archivedAt := some (w.archivedAt.getD now)
            updatedAt := now }
        let registry := s.registry.modify checkedWorldId delete (fun _ => rfl) (fun _ => rfl)
        set { s with registry := registry }
        return (delete world, true)

end LiveOs.Worlds
