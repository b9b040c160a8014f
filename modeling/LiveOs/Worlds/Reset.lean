import LiveOs.Worlds.Lifecycle

/-!
# Resetting a simulation world

`reset_simulation_world_to_zero_start` of `simulation/world_reset.py` with its order of effects: the
runtime files, the flush of the world's database, the row of the registry, the seed, the OpenFGA
tuples and the maintenance log. What lies outside the registry answers by the outcomes of a call.
Only the steps inside the blocks of `worlds/lifecycle.py` are rolled back; the reset has no block.
-/

namespace LiveOs.Worlds

open Lib

/-- How the steps of a reset outside the registry end. -/
structure ResetOutcomes where
  /-- `count_world_rows(world)` before the flush -/
  countBefore : Except WorldError TableCounts
  /-- the text of the `UnresolvedSimulationRunError`, or nothing -/
  unresolved : Except WorldError (Option String)
  /-- the first run that is running, by its id -/
  running : Except WorldError (Option String)
  /-- `clean_simulation_world_runtime(world)` -/
  clean : Except WorldError Nat
  /-- `call_command("flush", ...)` -/
  flush : Except WorldError Unit
  /-- `call_command("seed_world", ...)` -/
  seed : Except WorldError Unit
  /-- `count_world_rows(world)` after the seed -/
  countAfter : Except WorldError TableCounts
  /-- `_rebuild_sim_openfga_tuples_if_configured(world)` -/
  rebuild : Except WorldError String
  /-- the insertion of the maintenance log -/
  log : Except WorldError Unit

/-- What the reset returns. -/
structure ResetResult where
  worldId : String
  databaseAlias : String
  seedTemplate : String
  actor : String
  openfgaRebuildStatus : String
  runtimeObjectsDeleted : Nat
  countsBefore : TableCounts
  countsAfter : TableCounts

/-- `source_alias_for_world(world)`. -/
def sourceAliasForWorld (settings : WorldSettings) (world : WorldRegistry) : String :=
  if settings.worldDatabaseRoutingEnabled then world.databaseAlias else controlDatabaseAlias

/-- `_record_maintenance_log(...)`. -/
def recordMaintenanceLog (outcomes : ResetOutcomes) (log : WorldMaintenanceLog) :
    EStateM WorldError WorldSite Unit := do
  compute outcomes.log
  update fun s => .ok { s with maintenanceLogs := s.maintenanceLogs ++ [log] }

/-- `try: x` with `except CommandError as exc: log(exc); raise reraise(exc)`. -/
def onCommandError {α : Type} (x : Except WorldError α)
    (log : String → EStateM WorldError WorldSite Unit) (reraise : String → String) :
    EStateM WorldError WorldSite α :=
  match x with
  | .ok a => pure a
  | .error (.command message) => do
    log message
    throw (.command (reraise message))
  | .error e => throw e

/-- The checks on the world and on its alias. -/
def checkResettable (settings : WorldSettings) (world : WorldRegistry) :
    Except WorldError Unit := do
  rejectIf (world.worldType ≠ .simulation) (.domain
    ("只允许对仿真世界执行重置操作，当前世界类型为 " ++ world.worldType.display ++ "。"))
  rejectIf (world.status ≠ .active) (.domain
    ("只允许对启用状态的仿真世界重置，当前状态为 " ++ world.status.display ++ "。"))
  rejectIf (settings.worldDatabaseRoutingEnabled = true ∧
      sourceAliasForWorld settings world = controlDatabaseAlias)
    (.domain ("不能通过 control/default 数据库别名执行清空操作：" ++
      sourceAliasForWorld settings world ++ "。"))

/-- The checks on the runs of the world, made unless the reset is forced. -/
def checkRuns (world : WorldRegistry) (force : Bool) (outcomes : ResetOutcomes) :
    Except WorldError Unit :=
  if force then .ok () else do
    let unresolved ← outcomes.unresolved
    match unresolved with
    | some text => .error (.domain (text ++ " 如果需要强制重置，请勾选 force_reset。"))
    | none =>
      let running ← outcomes.running
      match running with
      | some runId => .error (.domain ("仿真世界 " ++ world.worldId ++ " 仍有运行中的仿真 " ++
          runId ++ "。 如需强制重置，请勾选 force_reset。"))
      | none => .ok ()

/-- `call_command("flush", database=database_alias, ...)`, whether it returns or raises. -/
def flushDatabase (databaseAlias : String) : EStateM WorldError WorldSite Unit :=
  update fun s => .ok { s with flushed := s.flushed ++ [databaseAlias] }

theorem worldRegistry_alt (_ : WorldRegistry) : (none : Option Unit) = none := rfl

/-- `update_or_create(world_id=..., defaults=world_kwargs)`. -/
def restoreRegistryRow (now : Nat) (world : WorldRegistry) : EStateM WorldError WorldSite Unit :=
  update fun s =>
    match s.registry.get? world.worldId with
    | some _ =>
      let registry := s.registry.modify world.worldId
        (fun w => { w with
          name := world.name
          worldType := world.worldType
          databaseAlias := world.databaseAlias
          databaseName := world.databaseName
          status := world.status
          updatedAt := now })
        (fun _ => rfl) worldRegistry_alt
      .ok { s with registry := registry }
    | none => do
      let registry ← s.registry.insert
        { world with createdAt := now, updatedAt := now, archivedAt := none } .other
      return { s with registry := registry }

/-- `reset_simulation_world_to_zero_start(world, actor=actor, force=force)`. -/
def resetSimulationWorldToZeroStart (settings : WorldSettings) (now : Nat) (world : WorldRegistry)
    (actor : String) (force : Bool) (outcomes : ResetOutcomes) :
    EStateM WorldError WorldSite ResetResult := do
  compute (checkResettable settings world)
  let databaseAlias := sourceAliasForWorld settings world
  let countsBefore ← compute outcomes.countBefore
  compute (checkRuns world force outcomes)
  let log (status : MaintenanceStatus) (countsAfter : TableCounts) (message : String) :=
    recordMaintenanceLog outcomes
      ⟨world.worldId, actor, status, force, countsBefore, countsAfter, message⟩
  let deleted ← onCommandError outcomes.clean
    (fun exc => log .failed [] ("清理目标 world runtime 文件失败：" ++ exc)) id
  flushDatabase databaseAlias
  onCommandError outcomes.flush
    (fun exc => log .failed [] ("flush/清空目标世界数据库失败：" ++ exc))
    (fun exc => "清空目标世界数据库失败：" ++ exc)
  restoreRegistryRow now world
  onCommandError outcomes.seed (fun exc => log .failed [] ("seed_world 失败：" ++ exc)) id
  let countsAfter ← compute outcomes.countAfter
  let rebuildStatus ← onCommandError outcomes.rebuild
    (fun exc => log .failed countsAfter ("OpenFGA tuple 重建失败：" ++ exc))
    (fun exc => "OpenFGA tuple 重建失败：" ++ exc)
  log .succeeded countsAfter "已成功重置到 zero_start 基线。"
  return ⟨world.worldId, databaseAlias, "zero_start", actor, rebuildStatus, deleted, countsBefore,
    countsAfter⟩

/-! ## Calls -/

/-- The calls of a run; a reset is made on the current row of its world. -/
inductive WorldCall where
  | create (worldId name worldType databaseAlias databaseName : String)
  | archive (worldId : String)
  | delete (worldId : String)
  | reset (worldId actor : String) (force : Bool) (outcomes : ResetOutcomes)

/-- One call at the given time. -/
def worldCall (settings : WorldSettings) (c : Nat × WorldCall) :
    EStateM WorldError WorldSite Unit :=
  match c.2 with
  | .create worldId name worldType databaseAlias databaseName => do
    let _ ← createWorldRegistry settings c.1 worldId name worldType databaseAlias databaseName
  | .archive worldId => do
    let _ ← archiveWorldRegistry c.1 worldId
  | .delete worldId => do
    let _ ← deleteWorldRegistry c.1 worldId
  | .reset worldId actor force outcomes => do
    let s ← get
    match s.registry.get? worldId with
    | none => throw (.domain "目标仿真世界不存在。")
    | some world =>
      let _ ← resetSimulationWorldToZeroStart settings c.1 world actor force outcomes

end LiveOs.Worlds
