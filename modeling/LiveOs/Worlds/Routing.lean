import LiveOs.Worlds.Lifecycle

/-!
# The world of a request

The contexts of `worlds/context.py`, the context variable of `worlds/state.py` with the blocks that
set and reset it, the database router of `worlds/db.py`, and the two middlewares. A view is the tree
of what it does with its request: it queries models, calls other world-scoped views, binds a world
by hand, logs in and out, raises and recovers.
-/

namespace LiveOs.Worlds

open Lib

/-! ## Settings and contexts -/

/-- The settings that fix a site to one world, beside those of the registry. -/
structure SiteSettings extends WorldSettings where
  defaultWorldDatabaseAlias : String
  siteFixedWorld : Bool
  siteWorldId : String
  siteWorldType : String
  siteWorldDatabaseAlias : String
  siteWorldDatabaseName : String

structure WorldContext where
  worldId : String
  worldType : String
  databaseAlias : String
  databaseName : String
deriving DecidableEq

/-- What binding and routing raise; `view` is any exception of a view's own. -/
inductive RoutingError where
  | improperlyConfigured (message : String)
  | http404 (message : String)
  | command (message : String)
  | view
deriving DecidableEq

/-- `require_configured_world_database_alias(alias)`. -/
def requireConfiguredWorldDatabaseAlias (settings : WorldSettings) (databaseAlias : String) :
    Except RoutingError String := do
  let checked := strip databaseAlias
  rejectIf (checked = "") (.improperlyConfigured "World database alias cannot be empty.")
  if settings.worldDatabaseRoutingEnabled = false then return checked
  else
    rejectIf (checked = controlDatabaseAlias) (.improperlyConfigured
      "World database alias cannot be the control database alias: default.")
    rejectIf (checked ∉ settings.databases.map Prod.fst) (.improperlyConfigured
      ("World database alias is not configured in settings.DATABASES: " ++ checked))
    rejectIf (checked ∉ settings.worldDatabaseAliases) (.improperlyConfigured
      ("World database alias is not listed in WORLD_DATABASE_ALIASES: " ++ checked))
    return checked

/-- `get_world_registry(world_id)`. -/
def getWorldRegistry (registry : WorldTable) (worldId : String) :
    Except RoutingError WorldRegistry :=
  match registry.first? fun w => w.worldId = worldId && w.status = .active with
  | some world => .ok world
  | none => .error (.http404 ("World not found: " ++ worldId))

/-- `context_from_registry(world)`. -/
def contextFromRegistry (settings : WorldSettings) (world : WorldRegistry) :
    Except RoutingError WorldContext := do
  let databaseAlias ← requireConfiguredWorldDatabaseAlias settings world.databaseAlias
  return {
    worldId := world.worldId
    worldType := world.worldType.value
    databaseAlias := databaseAlias
    databaseName := world.databaseName }

/-- `fixed_world_context_from_settings()`. -/
def fixedWorldContextFromSettings (settings : SiteSettings) : Option WorldContext :=
  let worldId := strip settings.siteWorldId
  if worldId = "" then none
  else
    let databaseAlias := strip (orText settings.siteWorldDatabaseAlias controlDatabaseAlias)
    some {
      worldId := worldId
      worldType := settings.siteWorldType
      databaseAlias := databaseAlias
      databaseName := orText (strip settings.siteWorldDatabaseName)
        (databaseNameForAlias settings.toWorldSettings databaseAlias) }

/-! ## The router -/

/-- `model._meta`, as far as the router reads it. -/
structure ModelMeta where
  appLabel : String
  modelName : String
deriving DecidableEq

def controlOnlyApps : List String := ["worlds", "admin", "sessions"]

def worldApps : List String := ["core"]

def worldContextApps : List String := ["auth", "contenttypes"]

def controlCoreModels : List String :=
  ["simulationsnapshot", "simulationsnapshotitem", "simulationrundisposition"]

def worldMigratedControlApps : List String := ["sessions"]

/-- A model of `core` that the control database keeps. -/
def ModelMeta.controlCore (model : ModelMeta) : Bool :=
  model.appLabel = "core" && controlCoreModels.contains model.modelName

/-- `_current_world_alias()`. -/
def currentWorldAlias (settings : SiteSettings) :
    Option WorldContext → Except RoutingError (Option String)
  | none => .ok none
  | some world =>
    (requireConfiguredWorldDatabaseAlias settings.toWorldSettings world.databaseAlias).map some

/-- `_default_world_alias()`. -/
def defaultWorldAlias (settings : SiteSettings) : Except RoutingError String :=
  requireConfiguredWorldDatabaseAlias settings.toWorldSettings settings.defaultWorldDatabaseAlias

/-- `_db_for_model(model)`: the alias, or nothing where the router has no opinion. -/
def dbForModel (settings : SiteSettings) (current : Option WorldContext) (model : ModelMeta) :
    Except RoutingError (Option String) :=
  if settings.worldDatabaseRoutingEnabled = false then .ok (some controlDatabaseAlias)
  else if model.controlCore then .ok (some controlDatabaseAlias)
  else if model.appLabel ∈ controlOnlyApps then .ok (some controlDatabaseAlias)
  else if model.appLabel ∈ worldApps then do
    match ← currentWorldAlias settings current with
    | some databaseAlias => return some databaseAlias
    | none => return some (← defaultWorldAlias settings)
  else if model.appLabel ∈ worldContextApps then do
    return some ((← currentWorldAlias settings current).getD controlDatabaseAlias)
  else .ok none

/-- `allow_migrate(db, app_label, model_name)`. -/
def allowMigrate (settings : SiteSettings) (db : String) (model : ModelMeta) : Option Bool :=
  if settings.worldDatabaseRoutingEnabled = false then some (db = controlDatabaseAlias)
  else if model.appLabel ∈ controlOnlyApps then
    if model.appLabel ∈ worldMigratedControlApps then
      some (db = controlDatabaseAlias || settings.worldDatabaseAliases.contains db)
    else some (db = controlDatabaseAlias)
  else if model.controlCore then some (db = controlDatabaseAlias)
  else if model.appLabel ∈ worldApps then some (settings.worldDatabaseAliases.contains db)
  else if model.appLabel ∈ worldContextApps then
    some (db = controlDatabaseAlias || settings.worldDatabaseAliases.contains db)
  else none

/-! ## Requests -/

/-- The keys of a session that the boundary reads; a missing world is `""`. -/
structure Session where
  userId : Option Nat
  worldId : String
deriving DecidableEq

def emptySession : Session := ⟨none, ""⟩

/-- `request.user`, which is loaded when it is first read. -/
inductive RequestUser where
  | unloaded
  | anonymous
  | authenticated (userId : Nat) (databaseAlias : Option String)
deriving DecidableEq

structure Request where
  pathInfo : String
  world : Option WorldContext
  session : Session
  user : RequestUser
deriving DecidableEq

/-- A query with the database it went to and the request as it was. -/
structure Query where
  model : ModelMeta
  databaseAlias : Option String
  request : Request
deriving DecidableEq

/-- A worker thread: the context variable, and the request it serves with the queries so far. -/
structure Worker where
  current : Option WorldContext
  request : Request
  queries : List Query
deriving DecidableEq

/-- The site that the worker serves: its settings, the registry in the control database, and the
users of each database. -/
structure SiteEnv where
  settings : SiteSettings
  registry : WorldTable
  /-- the user of a session is a user of the database -/
  sessionUser : Option String → Nat → Bool
  /-- `authenticate(...)` with some credentials, over the users of the database -/
  authenticate : Option String → String → Option Nat

abbrev Serving (α : Type) := EStateM RoutingError Worker α

/-- `set_current_world(world)`; the token holds what the variable was. -/
def setCurrentWorld (world : Option WorldContext) : Serving (Option WorldContext) := fun s =>
  .ok s.current { s with current := world }

/-- `reset_current_world(token)`. -/
def resetCurrentWorld (token : Option WorldContext) : Serving Unit := fun s =>
  .ok () { s with current := token }

/-- `try: body` with `finally: last`. -/
def tryFinally {ε σ α : Type} (body : EStateM ε σ α) (last : EStateM ε σ Unit) :
    EStateM ε σ α := fun s =>
  match body s with
  | .ok a s₁ =>
    match last s₁ with
    | .ok () s₂ => .ok a s₂
    | .error e s₂ => .error e s₂
  | .error e s₁ =>
    match last s₁ with
    | .ok () s₂ => .error e s₂
    | .error e' s₂ => .error e' s₂

/-- The block that every caller of `set_current_world` writes. -/
def inWorld {α : Type} (world : WorldContext) (body : Serving α) : Serving α := do
  let token ← setCurrentWorld (some world)
  tryFinally body (resetCurrentWorld token)

/-- `request.world`, `request.world_id` and `request.world_db_alias` are set together. -/
def setRequestWorld (world : WorldContext) : Serving Unit :=
  modify fun s => { s with request := { s.request with world := some world } }

/-- The context that a world id stands for on the site. -/
def contextOf (env : SiteEnv) (worldId : String) : Except RoutingError WorldContext :=
  match fixedWorldContextFromSettings env.settings with
  | some fixed =>
    if fixed.worldId = worldId then .ok fixed
    else getWorldRegistry env.registry worldId >>= contextFromRegistry env.settings.toWorldSettings
  | none =>
    getWorldRegistry env.registry worldId >>= contextFromRegistry env.settings.toWorldSettings

/-- The context of a request that names no world. -/
def defaultContext (env : SiteEnv) : Except RoutingError WorldContext :=
  match fixedWorldContextFromSettings env.settings with
  | some fixed => .ok fixed
  | none =>
    getWorldRegistry env.registry defaultRealworldId >>=
      contextFromRegistry env.settings.toWorldSettings

/-- `bind_world_context(request, world_id)`. -/
def bindWorldContext (env : SiteEnv) (worldId : String) : Serving WorldContext := do
  let context ← compute (contextOf env worldId)
  setRequestWorld context
  return context

/-- `bind_default_world_context(request)`. -/
def bindDefaultWorldContext (env : SiteEnv) : Serving WorldContext := do
  let context ← compute (defaultContext env)
  setRequestWorld context
  return context

/-- A query of a model: the router picks the database. -/
def runQuery (env : SiteEnv) (model : ModelMeta) : Serving (Option String) := do
  let s ← get
  let databaseAlias ← compute (dbForModel env.settings s.current model)
  modify fun s => { s with queries := s.queries ++ [⟨model, databaseAlias, s.request⟩] }
  return databaseAlias

def userModel : ModelMeta := ⟨"auth", "user"⟩

/-- `request.user.is_authenticated`: the first reading loads the user of the session. -/
def readUser (env : SiteEnv) : Serving Bool := do
  let s ← get
  match s.request.user, s.request.session.userId with
  | .unloaded, none =>
    modify fun s => { s with request := { s.request with user := .anonymous } }
    return false
  | .unloaded, some userId =>
    let databaseAlias ← runQuery env userModel
    if env.sessionUser databaseAlias userId then
      modify fun s => { s with
        request := { s.request with user := .authenticated userId databaseAlias } }
      return true
    else
      modify fun s => { s with request := { s.request with user := .anonymous } }
      return false
  | .anonymous, _ => return false
  | .authenticated _ _, _ => return true

/-- `logout(request)`. -/
def logout : Serving Unit :=
  modify fun s => { s with
    request := { s.request with session := emptySession, user := .anonymous } }

/-- The session after a login: that of another user is flushed before it is taken over. -/
def Session.takenOver (session : Session) (userId : Nat) : Session :=
  match session.userId with
  | none => { session with userId := some userId }
  | some other =>
    if other = userId then session else { emptySession with userId := some userId }

/-- `login(request, user)`; the last login is stored by a query of its own. -/
def login (env : SiteEnv) (userId : Nat) (databaseAlias : Option String) : Serving Unit := do
  modify fun s => { s with request := { s.request with
    session := s.request.session.takenOver userId
    user := .authenticated userId databaseAlias } }
  let _ ← runQuery env userModel

/-- The world that the login form binds. -/
def bindFormWorld (env : SiteEnv) (worldId : String) : Serving WorldContext :=
  if env.settings.siteFixedWorld then bindDefaultWorldContext env
  else bindWorldContext env (strip (orText worldId defaultRealworldId))

/-- `WorldAuthenticationForm.clean()` and `WorldLoginView.form_valid(form)`. Credentials that no
backend accepts leave the request with the world of the form. -/
def worldLogin (env : SiteEnv) (worldId credentials : String) : Serving Unit := do
  let world ← bindFormWorld env worldId
  let (user, databaseAlias) ← inWorld world do
    let databaseAlias ← runQuery env userModel
    return (env.authenticate databaseAlias credentials, databaseAlias)
  match user with
  | none => return ()
  | some userId =>
    modify fun s => { s with request := { s.request with
      session := { s.request.session with worldId := world.worldId } } }
    login env userId databaseAlias

/-- `bind_world_context(request, world_id) if world_id else bind_default_world_context(request)`. -/
def bindRequestedWorld (env : SiteEnv) : Option String → Serving WorldContext
  | none => bindDefaultWorldContext env
  | some id => if id = "" then bindDefaultWorldContext env else bindWorldContext env id

/-- `world_scoped_view(view)(request, world_id=world_id)`. -/
def worldScopedView (env : SiteEnv) (view : Serving Unit) (worldId : Option String) :
    Serving Unit := do
  let s ← get
  let existing := match s.request.world with
    | some world => worldId.all fun id => world.worldId = id
    | none => false
  if existing then view
  else
    let world ← bindRequestedWorld env worldId
    inWorld world view

/-! ## Commands -/

/-- The exceptions of the lifecycle services, as a command raises them. -/
def WorldError.raised : WorldError → RoutingError
  | .command message => .command message
  | .domain _ => .view
  | .other => .view

/-- `get_world_or_error(world_id)`. -/
def getWorldOrError (registry : WorldTable) (worldId : String) :
    Except RoutingError WorldRegistry := do
  let checked ← (validateWorldId worldId).mapError WorldError.raised
  match registry.get? checked with
  | some world => .ok world
  | none => .error (.command ("World not found: " ++ checked))

/-- The context a command asks for, and the refusal of a world that is not active. -/
def commandContext (env : SiteEnv) (worldId : String) : Except RoutingError WorldContext := do
  let world ← getWorldOrError env.registry worldId
  rejectIf (world.status ≠ .active)
    (.command ("World is not active: " ++ world.worldId ++ " (" ++ world.status.value ++ ")"))
  contextFromRegistry env.settings.toWorldSettings world

/-- `body` in the world, or in the world that is bound already when it is the same one. -/
def boundOnce (commandName : String) (world : WorldContext)
    (body : Option WorldContext → Serving Unit) : Serving Unit := do
  let s ← get
  match s.current with
  | none => inWorld world (body (some world))
  | some current =>
    if current.worldId ≠ world.worldId then
      throw (.command (commandName ++ " is already bound to world " ++ current.worldId ++
        "; cannot also bind " ++ world.worldId ++ "."))
    else body (some current)

/-- `with command_world_context(world_id, command_name=command_name) as world: body`. -/
def commandWorldContext (env : SiteEnv) (worldId commandName : String)
    (body : Option WorldContext → Serving Unit) : Serving Unit := do
  let requested := strip worldId
  let fixed := if env.settings.siteFixedWorld then fixedWorldContextFromSettings env.settings
    else none
  match fixed with
  | some fixed =>
    if requested ≠ "" ∧ requested ≠ fixed.worldId then
      throw (.command (commandName ++ " is fixed to world " ++ fixed.worldId ++
        "; cannot bind " ++ requested ++ "."))
    else boundOnce commandName fixed body
  | none =>
    if requested ≠ "" then
      let world ← compute (commandContext env requested)
      boundOnce commandName world body
    else
      let s ← get
      match s.current with
      | some current => body (some current)
      | none =>
        if env.settings.worldDatabaseRoutingEnabled then
          throw (.command
            (commandName ++ " requires --world-id when no world context is active."))
        else body none

/-! ## Views and middlewares -/

/-- What a view, or a command that it calls, does. -/
inductive View where
  | done
  | fail
  | query (model : ModelMeta)
  | readUser
  | logout
  | login (worldId credentials : String)
  | seq (first second : View)
  /-- `try: body` with `except Exception: pass` -/
  | recover (body : View)
  /-- the call of a world-scoped view -/
  | scoped (worldId : Option String) (body : View)
  /-- a block over `context_from_registry(world)`, as the lab's views and the seed write it -/
  | bound (worldId : String) (body : View)
  /-- a management command under `command_world_context` -/
  | command (worldId commandName : String) (body : View)
deriving DecidableEq

/-- `try: body` with `except Exception: pass`. -/
def recovering (body : Serving Unit) : Serving Unit := fun s =>
  match body s with
  | .ok () s' => .ok () s'
  | .error _ s' => .ok () s'

def View.run (env : SiteEnv) : View → Serving Unit
  | .done => return ()
  | .fail => throw .view
  | .query model => do
    let _ ← runQuery env model
  | .readUser => do
    let _ ← Worlds.readUser env
  | .logout => Worlds.logout
  | .login worldId credentials => worldLogin env worldId credentials
  | .seq first second => do
    first.run env
    second.run env
  | .recover body => recovering (body.run env)
  | .scoped worldId body => worldScopedView env (body.run env) worldId
  | .bound worldId body => do
    let world ← compute (getWorldRegistry env.registry worldId >>=
      contextFromRegistry env.settings.toWorldSettings)
    inWorld world (body.run env)
  | .command worldId commandName body =>
    commandWorldContext env worldId commandName fun _ => body.run env

/-- `world_id_from_path(path_info)`. -/
def worldIdFromPath (pathInfo : String) : String :=
  let inner := ((pathInfo.toList.dropWhile (· = '/')).reverse.dropWhile (· = '/')).reverse
  match inner.splitOn '/' with
  | first :: second :: _ => if String.ofList first = "world" then String.ofList second else ""
  | _ => ""

/-- `WorldContextMiddleware`. -/
def worldContextMiddleware (env : SiteEnv) (getResponse : Serving Unit) : Serving Unit := do
  let s ← get
  let worldId := worldIdFromPath s.request.pathInfo
  if worldId = "" then
    if s.request.world.isSome then getResponse
    else if env.settings.siteFixedWorld then
      let world ← bindDefaultWorldContext env
      inWorld world getResponse
    else getResponse
  else
    let world ← bindWorldContext env worldId
    inWorld world getResponse

/-- `WorldSessionBoundaryMiddleware`. -/
def worldSessionBoundaryMiddleware (env : SiteEnv) (getResponse : Serving Unit) :
    Serving Unit := do
  let s ← get
  match s.request.world with
  | none => getResponse
  | some world =>
    let authenticated ← readUser env
    let s ← get
    let sessionWorldId := s.request.session.worldId
    if authenticated = true ∧ sessionWorldId ≠ "" ∧ sessionWorldId ≠ world.worldId then
      logout
      getResponse
    else getResponse

/-- A request as the handler gets it, and the view its path leads to. -/
structure Incoming where
  pathInfo : String
  session : Session
  view : View

/-- The request passes the middlewares to its view. -/
def serve (env : SiteEnv) (incoming : Incoming) : Serving Unit :=
  worldContextMiddleware env (worldSessionBoundaryMiddleware env (incoming.view.run env))

/-- The worker as a request meets it: the context variable is what the last request left. -/
def Incoming.arrives (incoming : Incoming) (current : Option WorldContext) : Worker :=
  { current := current
    request := ⟨incoming.pathInfo, none, incoming.session, .unloaded⟩
    queries := [] }

/-- One worker serves requests one after another; each leaves its queries and its last request. -/
def serveAll (env : SiteEnv) : Option WorldContext → List Incoming → List Worker
  | _, [] => []
  | current, incoming :: rest =>
    let served := finalState (serve env incoming) (incoming.arrives current)
    served :: serveAll env served.current rest

end LiveOs.Worlds
