import LiveOs.Worlds.Routing

/-!
# Which database a request reaches

A block over the context variable gives the variable back as it found it, whether its body returns
or raises; so does every view, and a worker serves each request as if it were its first. Invariants
of a worker are carried through all views by one induction (`Kept.run`): it gives where queries are
routed, and which session a query runs under. A view that binds no other world reaches the world of
its request only.
-/

namespace LiveOs.Worlds

open Lib

variable {env : SiteEnv} {settings : SiteSettings} {I : Worker → Prop} {s : Worker}
  {world : WorldContext}

/-! ## Rules for blocks -/

theorem preserves_raise {α : Type} (e : RoutingError) : Preserves I (throw e : Serving α) :=
  fun _ h => h

theorem preserves_ite {α : Type} {c : Prop} [Decidable c] {x y : Serving α}
    (hx : c → Preserves I x) (hy : ¬ c → Preserves I y) : Preserves I (if c then x else y) := by
  split
  · next h => exact hx h
  · next h => exact hy h

theorem preserves_recovering {body : Serving Unit} (h : Preserves I body) :
    Preserves I (recovering body) := by
  intro s hs
  have hbody := h s hs
  unfold finalState at hbody
  unfold finalState recovering
  cases hrun : body s <;> rw [hrun] at hbody <;> exact hbody

theorem run_get_bind {α : Type} (g : Worker → Serving α) (s : Worker) : (get >>= g) s = g s s := rfl

theorem finalState_get_bind {α : Type} (g : Worker → Serving α) (s : Worker) :
    finalState (get >>= g) s = finalState (g s) s := rfl

/-- Inside the block the variable is the world, after it what it was before. -/
theorem finalState_inWorld {α : Type} (body : Serving α) (s : Worker) :
    finalState (inWorld world body) s =
      { finalState body { s with current := some world } with current := s.current } := by
  show finalState (tryFinally body (resetCurrentWorld s.current))
      { s with current := some world } = _
  unfold finalState tryFinally resetCurrentWorld
  cases body { s with current := some world } <;> rfl

/-! ## The context variable -/

/-- The computation leaves the context variable as it was. -/
def Restores {α : Type} (m : Serving α) : Prop := ∀ s, (finalState m s).current = s.current

theorem restores_iff {α : Type} {m : Serving α} :
    Restores m ↔ ∀ c, Preserves (fun s => s.current = c) m := by
  refine ⟨fun h c s hs => (h s).trans hs, fun h s => h s.current s rfl⟩

theorem Restores.bind {α β : Type} {x : Serving α} {f : α → Serving β} (hx : Restores x)
    (hf : ∀ a, Restores (f a)) : Restores (x >>= f) :=
  restores_iff.2 fun c =>
    Preserves.bind (restores_iff.1 hx c) fun a => restores_iff.1 (hf a) c

theorem restores_compute_bind {α β : Type} {x : Except RoutingError α} {f : α → Serving β}
    (hf : ∀ a, Restores (f a)) : Restores (compute x >>= f) :=
  restores_iff.2 fun c => Preserves.compute_bind fun a _ => restores_iff.1 (hf a) c

theorem restores_pure {α : Type} (a : α) : Restores (pure a : Serving α) := fun _ => rfl

theorem restores_throw {α : Type} (e : RoutingError) : Restores (throw e : Serving α) :=
  fun _ => rfl

theorem restores_get_bind {α : Type} {g : Worker → Serving α} (hg : ∀ s, Restores (g s)) :
    Restores (get >>= g) := fun s => hg s s

theorem restores_modify {f : Worker → Worker} (hf : ∀ s, (f s).current = s.current) :
    Restores (modify f : Serving Unit) := fun s => hf s

theorem restores_modify_bind {α : Type} {f : Worker → Worker} {g : Unit → Serving α}
    (hf : ∀ s, (f s).current = s.current) (hg : Restores (g ())) :
    Restores ((modify f : Serving Unit) >>= g) := fun s => (hg (f s)).trans (hf s)

theorem restores_ite {α : Type} {c : Prop} [Decidable c] {x y : Serving α} (hx : Restores x)
    (hy : Restores y) : Restores (if c then x else y) := by
  split
  · exact hx
  · exact hy

theorem restores_inWorld {α : Type} (world : WorldContext) (body : Serving α) :
    Restores (inWorld world body) := by
  intro s
  rw [finalState_inWorld]

theorem restores_bindWorldContext (worldId : String) : Restores (bindWorldContext env worldId) :=
  restores_compute_bind fun context =>
    restores_modify_bind (fun _ => rfl) (restores_pure context)

theorem restores_bindDefaultWorldContext : Restores (bindDefaultWorldContext env) :=
  restores_compute_bind fun context =>
    restores_modify_bind (fun _ => rfl) (restores_pure context)

theorem restores_bindFormWorld (worldId : String) : Restores (bindFormWorld env worldId) :=
  restores_ite restores_bindDefaultWorldContext (restores_bindWorldContext _)

theorem restores_bindRequestedWorld : ∀ worldId, Restores (bindRequestedWorld env worldId)
  | none => restores_bindDefaultWorldContext
  | some _ => restores_ite restores_bindDefaultWorldContext (restores_bindWorldContext _)

theorem restores_runQuery (model : ModelMeta) : Restores (runQuery env model) :=
  restores_get_bind fun _ => restores_compute_bind fun databaseAlias =>
    restores_modify_bind (fun _ => rfl) (restores_pure databaseAlias)

theorem restores_readUser : Restores (readUser env) := by
  refine restores_get_bind fun s => ?_
  split
  · exact restores_modify_bind (fun _ => rfl) (restores_pure _)
  · refine Restores.bind (restores_runQuery _) fun a => restores_ite ?_ ?_
    · exact restores_modify_bind (fun _ => rfl) (restores_pure _)
    · exact restores_modify_bind (fun _ => rfl) (restores_pure _)
  · exact restores_pure _
  · exact restores_pure _

theorem restores_worldLogin (worldId credentials : String) :
    Restores (worldLogin env worldId credentials) := by
  refine Restores.bind (restores_bindFormWorld worldId) fun world =>
    Restores.bind (restores_inWorld world _) fun answer => ?_
  obtain ⟨user, databaseAlias⟩ := answer
  cases user with
  | none => exact restores_pure _
  | some userId =>
    refine restores_modify_bind (fun _ => rfl) (restores_modify_bind (fun _ => rfl) ?_)
    exact Restores.bind (restores_runQuery _) fun _ => restores_pure _

theorem restores_worldScopedView {view : Serving Unit} (h : Restores view)
    (worldId : Option String) : Restores (worldScopedView env view worldId) := by
  refine restores_get_bind fun s => restores_ite h ?_
  exact Restores.bind (restores_bindRequestedWorld worldId) fun world =>
    restores_inWorld world view

theorem restores_boundOnce {commandName : String} {body : Option WorldContext → Serving Unit}
    (h : ∀ w, Restores (body w)) : Restores (boundOnce commandName world body) := by
  refine restores_get_bind fun s => ?_
  cases s.current with
  | none => exact restores_inWorld world _
  | some current => exact restores_ite (restores_throw _) (h _)

theorem restores_commandWorldContext {worldId commandName : String}
    {body : Option WorldContext → Serving Unit} (h : ∀ w, Restores (body w)) :
    Restores (commandWorldContext env worldId commandName body) := by
  unfold commandWorldContext
  dsimp only
  split
  · exact restores_ite (restores_throw _) (restores_boundOnce h)
  · refine restores_ite (restores_compute_bind fun world => restores_boundOnce h)
      (restores_get_bind fun s => ?_)
    cases s.current with
    | some current => exact h _
    | none => exact restores_ite (restores_throw _) (h none)

theorem restores_recovering {body : Serving Unit} (h : Restores body) :
    Restores (recovering body) :=
  restores_iff.2 fun c => preserves_recovering (restores_iff.1 h c)

/-- Every view leaves the context variable as it was. -/
theorem View.restores (env : SiteEnv) : ∀ view : View, Restores (view.run env)
  | .done => restores_pure _
  | .fail => restores_throw _
  | .query model => Restores.bind (restores_runQuery model) fun _ => restores_pure _
  | .readUser => Restores.bind restores_readUser fun _ => restores_pure _
  | .logout => restores_modify fun _ => rfl
  | .login worldId credentials => restores_worldLogin worldId credentials
  | .seq first second => Restores.bind (first.restores env) fun _ => second.restores env
  | .recover body => restores_recovering (body.restores env)
  | .scoped worldId body => restores_worldScopedView (body.restores env) worldId
  | .bound _ body => restores_compute_bind fun world => restores_inWorld world (body.run env)
  | .command _ _ body => restores_commandWorldContext fun _ => body.restores env

theorem restores_worldSessionBoundaryMiddleware {getResponse : Serving Unit}
    (h : Restores getResponse) : Restores (worldSessionBoundaryMiddleware env getResponse) := by
  refine restores_get_bind fun s => ?_
  split
  · exact h
  · refine Restores.bind restores_readUser fun _ => restores_get_bind fun _ => restores_ite ?_ h
    exact restores_modify_bind (fun _ => rfl) h

theorem restores_worldContextMiddleware {getResponse : Serving Unit} (h : Restores getResponse) :
    Restores (worldContextMiddleware env getResponse) := by
  refine restores_get_bind fun s => restores_ite (restores_ite h (restores_ite ?_ h)) ?_
  · exact Restores.bind restores_bindDefaultWorldContext fun world =>
      restores_inWorld world getResponse
  · exact Restores.bind (restores_bindWorldContext _) fun world =>
      restores_inWorld world getResponse

/-- Serving a request leaves the context variable as it was. -/
theorem restores_serve (incoming : Incoming) : Restores (serve env incoming) :=
  restores_worldContextMiddleware
    (restores_worldSessionBoundaryMiddleware (incoming.view.restores env))

/-- A worker serves each request of a run as a worker that has served no other, whatever the
requests before it did and however they ended. -/
theorem requests_independent (env : SiteEnv) (current : Option WorldContext)
    (requests : List Incoming) :
    serveAll env current requests =
      requests.map fun incoming => finalState (serve env incoming) (incoming.arrives current) := by
  induction requests with
  | nil => rfl
  | cons incoming rest ih =>
    have hcurrent : (finalState (serve env incoming) (incoming.arrives current)).current =
        current := restores_serve incoming _
    simp only [serveAll, List.map_cons, hcurrent, ih]

/-! ## Where queries go -/

/-- A database that a world may have: not the control database, configured, and listed. -/
def WorldAlias (settings : SiteSettings) (databaseAlias : String) : Prop :=
  databaseAlias ≠ controlDatabaseAlias ∧ databaseAlias ∈ settings.databases.map Prod.fst ∧
    databaseAlias ∈ settings.worldDatabaseAliases

theorem requireConfigured_ok {databaseAlias checked : String}
    (hrouting : settings.worldDatabaseRoutingEnabled = true)
    (h : requireConfiguredWorldDatabaseAlias settings.toWorldSettings databaseAlias = .ok checked) :
    checked = strip databaseAlias ∧ WorldAlias settings checked := by
  unfold requireConfiguredWorldDatabaseAlias at h
  rw [rejectIf_bind_eq_ok, if_neg (by simp [hrouting]), rejectIf_bind_eq_ok, rejectIf_bind_eq_ok,
    rejectIf_bind_eq_ok, pure_eq_ok] at h
  obtain ⟨-, hcontrol, hconfigured, hlisted, rfl⟩ := h
  exact ⟨rfl, hcontrol, not_not.1 hconfigured, not_not.1 hlisted⟩

theorem currentWorldAlias_ok {current : Option WorldContext} {found : Option String}
    (hrouting : settings.worldDatabaseRoutingEnabled = true)
    (h : currentWorldAlias settings current = .ok found) :
    found = current.map (fun world => strip world.databaseAlias) ∧
      ∀ databaseAlias, found = some databaseAlias → WorldAlias settings databaseAlias := by
  cases current with
  | none =>
    cases h
    exact ⟨rfl, fun _ h => nomatch h⟩
  | some world =>
    rw [currentWorldAlias] at h
    cases hchecked : requireConfiguredWorldDatabaseAlias settings.toWorldSettings
        world.databaseAlias with
    | error e =>
      rw [hchecked] at h
      cases h
    | ok checked =>
      obtain ⟨rfl, halias⟩ := requireConfigured_ok hrouting hchecked
      rw [hchecked] at h
      cases h
      refine ⟨rfl, fun databaseAlias hfound => ?_⟩
      cases hfound
      exact halias

/-- A model that every world keeps in a database of its own. -/
def ModelMeta.business (model : ModelMeta) : Prop :=
  model.appLabel = "core" ∧ model.controlCore = false

/-- Business models are queried in the database of a world, models of the control plane in the
control database, and every model where its table is migrated. -/
structure Query.Routed (settings : SiteSettings) (q : Query) : Prop where
  business : q.model.business → ∃ databaseAlias, q.databaseAlias = some databaseAlias ∧
    WorldAlias settings databaseAlias
  control : q.model.controlCore = true ∨ q.model.appLabel ∈ controlOnlyApps →
    q.databaseAlias = some controlDatabaseAlias
  migrated : ∀ db, q.databaseAlias = some db → allowMigrate settings db q.model = some true

theorem not_control_of_core {model : ModelMeta} (h : model.appLabel = "core") :
    model.appLabel ∉ controlOnlyApps := by
  rw [h]
  decide

theorem worldApps_iff {model : ModelMeta} : model.appLabel ∈ worldApps ↔ model.appLabel = "core" :=
  by simp [worldApps]

/-- The database of a business model: that of the bound world, or the default world's. -/
theorem dbForModel_business {current : Option WorldContext} {model : ModelMeta}
    {found : Option String} (hrouting : settings.worldDatabaseRoutingEnabled = true)
    (hmodel : model.business) (h : dbForModel settings current model = .ok found) :
    ∃ databaseAlias, found = some databaseAlias ∧ WorldAlias settings databaseAlias ∧
      ∀ world, current = some world → databaseAlias = strip world.databaseAlias := by
  unfold dbForModel at h
  rw [if_neg (by simp [hrouting]), if_neg (by simp [hmodel.2]),
    if_neg (not_control_of_core hmodel.1), if_pos (worldApps_iff.2 hmodel.1), bind_eq_ok] at h
  obtain ⟨bound, hbound, h⟩ := h
  obtain ⟨hfound, halias⟩ := currentWorldAlias_ok hrouting hbound
  cases bound with
  | some databaseAlias =>
    cases h
    refine ⟨databaseAlias, rfl, halias _ rfl, fun world hworld => ?_⟩
    rw [hworld] at hfound
    exact Option.some.inj hfound
  | none =>
    obtain ⟨databaseAlias, hdefault, h⟩ := bind_eq_ok.1 h
    cases h
    refine ⟨databaseAlias, rfl, (requireConfigured_ok hrouting hdefault).2, fun world hworld => ?_⟩
    rw [hworld] at hfound
    cases hfound

theorem dbForModel_control {current : Option WorldContext} {model : ModelMeta}
    (h : model.controlCore = true ∨ model.appLabel ∈ controlOnlyApps) :
    dbForModel settings current model = .ok (some controlDatabaseAlias) := by
  unfold dbForModel
  split
  · rfl
  · split
    · rfl
    · next hcore => rw [if_pos (h.resolve_left hcore)]

/-- The database that the router picks is one on which the table is migrated. -/
theorem dbForModel_migrated {current : Option WorldContext} {model : ModelMeta} {db : String}
    (h : dbForModel settings current model = .ok (some db)) :
    allowMigrate settings db model = some true := by
  by_cases hrouting : settings.worldDatabaseRoutingEnabled = true
  · have hon : ¬ settings.worldDatabaseRoutingEnabled = false := by simp [hrouting]
    unfold allowMigrate
    rw [if_neg hon]
    by_cases hcontrol : model.appLabel ∈ controlOnlyApps
    · rw [dbForModel_control (.inr hcontrol)] at h
      cases h
      simp [hcontrol]
    · by_cases hcore : model.controlCore = true
      · rw [dbForModel_control (.inl hcore)] at h
        cases h
        simp [hcontrol, hcore]
      · rw [if_neg hcontrol, if_neg hcore]
        by_cases happ : model.appLabel ∈ worldApps
        · obtain ⟨databaseAlias, hdb, halias, -⟩ := dbForModel_business hrouting
            ⟨worldApps_iff.1 happ, by simpa using hcore⟩ h
          cases hdb
          simp [happ, halias.2.2]
        · unfold dbForModel at h
          rw [if_neg hon, if_neg hcore, if_neg hcontrol, if_neg happ] at h
          rw [if_neg happ]
          by_cases hcontext : model.appLabel ∈ worldContextApps
          · rw [if_pos hcontext] at h
            obtain ⟨bound, hbound, h⟩ := bind_eq_ok.1 h
            cases h
            rw [if_pos hcontext]
            cases bound with
            | none => simp
            | some databaseAlias =>
              simp [((currentWorldAlias_ok hrouting hbound).2 _ rfl).2.2]
          · rw [if_neg hcontext] at h
            cases h
  · have hoff : settings.worldDatabaseRoutingEnabled = false := by simpa using hrouting
    unfold dbForModel at h
    rw [if_pos hoff] at h
    cases h
    simp [allowMigrate, hoff]

theorem dbForModel_routed {current : Option WorldContext} {model : ModelMeta}
    {found : Option String} {request : Request}
    (hrouting : settings.worldDatabaseRoutingEnabled = true)
    (h : dbForModel settings current model = .ok found) :
    Query.Routed settings ⟨model, found, request⟩ where
  business hmodel := by
    obtain ⟨databaseAlias, hfound, halias, -⟩ := dbForModel_business hrouting hmodel h
    exact ⟨databaseAlias, hfound, halias⟩
  control hmodel := by
    rw [dbForModel_control hmodel] at h
    exact (Except.ok.inj h).symm
  migrated db hdb := by
    have hfound : found = some db := hdb
    exact dbForModel_migrated (hfound ▸ h)

/-! ## Invariants of a worker -/

/-- The request with the world. -/
def Worker.bind (s : Worker) (world : WorldContext) : Worker :=
  { s with request := { s.request with world := some world } }

def Worker.queried (s : Worker) (model : ModelMeta) (databaseAlias : Option String) : Worker :=
  { s with queries := s.queries ++ [⟨model, databaseAlias, s.request⟩] }

def Worker.withUser (s : Worker) (user : RequestUser) : Worker :=
  { s with request := { s.request with user := user } }

def Worker.loggedOut (s : Worker) : Worker :=
  { s with request := { s.request with session := emptySession, user := .anonymous } }

/-- The request after a login in the world, before the last login is stored. -/
def Worker.loggedIn (s : Worker) (world : WorldContext) (userId : Nat)
    (databaseAlias : Option String) : Worker :=
  { s with request := { s.request with
      session := { s.request.session with worldId := world.worldId }.takenOver userId
      user := .authenticated userId databaseAlias } }

theorem runQuery_of_ok {model : ModelMeta} {databaseAlias : Option String}
    (h : dbForModel env.settings s.current model = .ok databaseAlias) :
    runQuery env model s = .ok databaseAlias (s.queried model databaseAlias) := by
  show (compute (dbForModel env.settings s.current model) >>= _) s = _
  rw [h]
  rfl

theorem runQuery_of_error {model : ModelMeta} {e : RoutingError}
    (h : dbForModel env.settings s.current model = .error e) :
    runQuery env model s = .error e s := by
  show (compute (dbForModel env.settings s.current model) >>= _) s = _
  rw [h]
  rfl

/-- An invariant that every step of a view keeps, as long as it binds contexts in `C` only. -/
structure Kept (env : SiteEnv) (C : WorldContext → Prop) (I : Worker → Prop) : Prop where
  /-- either any context may be bound, or the worker is bound from the start -/
  bound : (∀ w, C w) ∨ ∀ s, I s → s.request.world.isSome = true ∧ s.current.isSome = true
  enter : ∀ s w, C w → I s → I { s with current := some w }
  leave : ∀ s t, I s → I t → I { t with current := s.current }
  bind : ∀ s w, C w → I s → I (s.bind w)
  query : ∀ s model a, dbForModel env.settings s.current model = .ok a → I s → I (s.queried model a)
  loaded : ∀ s user, s.request.user = .unloaded → I s → I (s.withUser user)
  loggedOut : ∀ s, I s → I s.loggedOut
  loggedIn : ∀ s w userId a, C w → I s → I (s.loggedIn w userId a)

/-- The context that the login form binds. -/
def formContext (env : SiteEnv) (worldId : String) : Except RoutingError WorldContext :=
  if env.settings.siteFixedWorld then defaultContext env
  else contextOf env (strip (orText worldId defaultRealworldId))

/-- The context that a call naming the world binds. -/
def requestedContext (env : SiteEnv) (worldId : String) : Except RoutingError WorldContext :=
  if worldId = "" then defaultContext env else contextOf env worldId

/-- The view may bind the context, in a login, a call that names a world, or a block. -/
def View.Binds (env : SiteEnv) : View → WorldContext → Prop
  | .login worldId _, w => formContext env worldId = .ok w
  | .seq first second, w => first.Binds env w ∨ second.Binds env w
  | .recover body, w => body.Binds env w
  | .scoped none body, w => body.Binds env w
  | .scoped (some worldId) body, w => requestedContext env worldId = .ok w ∨ body.Binds env w
  | .bound worldId body, w => (getWorldRegistry env.registry worldId >>=
      contextFromRegistry env.settings.toWorldSettings) = .ok w ∨ body.Binds env w
  | .command _ _ body, w => body.Binds env w
  | _, _ => False

namespace Kept

variable {C : WorldContext → Prop}

theorem inWorld (kept : Kept env C I) {α : Type} {body : Serving α} (hworld : C world)
    (hbody : Preserves I body) : Preserves I (Worlds.inWorld world body) := by
  intro s hs
  rw [finalState_inWorld]
  exact kept.leave s _ hs (hbody _ (kept.enter s world hworld hs))

theorem runQuery (kept : Kept env C I) (model : ModelMeta) :
    Preserves I (Worlds.runQuery env model) := by
  refine Preserves.get_bind fun s hs => ?_
  show I (finalState (Worlds.runQuery env model) s)
  cases hdb : dbForModel env.settings s.current model with
  | ok databaseAlias =>
    rw [finalState_of_ok (runQuery_of_ok hdb)]
    exact kept.query s model databaseAlias hdb hs
  | error e =>
    rw [finalState_of_error (runQuery_of_error hdb)]
    exact hs

theorem bindThen (kept : Kept env C I) {x : Except RoutingError WorldContext} {α : Type}
    {f : WorldContext → Serving α} (hx : ∀ w, x = .ok w → C w)
    (hf : ∀ w, C w → Preserves I (f w)) :
    Preserves I ((do
      let context ← compute x
      setRequestWorld context
      return context) >>= f) := by
  cases x with
  | error e => exact fun _ hs => hs
  | ok w => exact fun s hs => hf w (hx w rfl) _ (kept.bind s w (hx w rfl) hs)

theorem readUser (kept : Kept env C I) : Preserves I (Worlds.readUser env) := by
  refine Preserves.get_bind fun s hs => ?_
  cases huser : s.request.user with
  | anonymous => exact hs
  | authenticated userId databaseAlias => exact hs
  | unloaded =>
    cases s.request.session.userId with
    | none => exact kept.loaded s _ huser hs
    | some userId =>
      cases hdb : dbForModel env.settings s.current userModel with
      | error e =>
        rw [finalState_bind_of_error (runQuery_of_error hdb),
          finalState_of_error (runQuery_of_error hdb)]
        exact hs
      | ok databaseAlias =>
        rw [finalState_bind_of_ok (runQuery_of_ok hdb)]
        have hkept := kept.query s userModel databaseAlias hdb hs
        split
        · exact kept.loaded _ (.authenticated userId databaseAlias) huser hkept
        · exact kept.loaded _ .anonymous huser hkept

/-- What follows the login is the query that stores it. -/
theorem login (kept : Kept env C I) {userId : Nat} {databaseAlias : Option String}
    (hworld : C world) : Preserves I (do
      modify fun s : Worker => { s with request := { s.request with
        session := { s.request.session with worldId := world.worldId } } }
      Worlds.login env userId databaseAlias) := by
  intro s hs
  have hstored : Preserves I (Worlds.runQuery env userModel >>= fun _ => pure ()) :=
    Preserves.bind (kept.runQuery userModel) fun _ => Preserves.pure ()
  exact hstored _ (kept.loggedIn s world userId databaseAlias hworld hs)

theorem bindForm (kept : Kept env C I) {worldId : String}
    (hform : ∀ w, formContext env worldId = .ok w → C w) {f : WorldContext → Serving Unit}
    (hf : ∀ w, C w → Preserves I (f w)) : Preserves I (bindFormWorld env worldId >>= f) := by
  unfold bindFormWorld
  by_cases hfixed : env.settings.siteFixedWorld = true
  · rw [if_pos hfixed]
    refine kept.bindThen (fun w hw => hform w ?_) hf
    rw [formContext, if_pos hfixed, hw]
  · rw [if_neg hfixed]
    refine kept.bindThen (fun w hw => hform w ?_) hf
    rw [formContext, if_neg hfixed, hw]

theorem worldLogin (kept : Kept env C I) {worldId credentials : String}
    (hform : ∀ w, formContext env worldId = .ok w → C w) :
    Preserves I (Worlds.worldLogin env worldId credentials) := by
  refine kept.bindForm hform fun w hw => ?_
  refine Preserves.bind (kept.inWorld hw ?_) fun answer => ?_
  · exact Preserves.bind (kept.runQuery userModel) fun _ => Preserves.pure _
  · obtain ⟨user, databaseAlias⟩ := answer
    cases user with
    | none => exact Preserves.pure ()
    | some userId => exact kept.login hw

theorem scopedView (kept : Kept env C I) {view : Serving Unit} (hview : Preserves I view) :
    ∀ {worldId : Option String}, (∀ id, worldId = some id →
      ∀ w, requestedContext env id = .ok w → C w) →
    Preserves I (worldScopedView env view worldId)
  | none, _ => by
    refine Preserves.get_bind fun s hs => ?_
    cases hworld : s.request.world with
    | some w => exact hview s hs
    | none =>
      have hall : ∀ w, C w := by
        refine kept.bound.resolve_right fun hbound => ?_
        have hsome := (hbound s hs).1
        rw [hworld] at hsome
        cases hsome
      exact kept.bindThen (fun w _ => hall w) (fun w hw => kept.inWorld hw hview) s hs
  | some id, hid => by
    have hbind : Preserves I (do
        let world ← bindRequestedWorld env (some id)
        Worlds.inWorld world view) := by
      have hrest := fun w (hw : C w) => kept.inWorld hw hview
      have hctx := hid id rfl
      unfold requestedContext at hctx
      unfold bindRequestedWorld
      dsimp only
      by_cases hempty : id = ""
      · rw [if_pos hempty] at hctx ⊢
        exact kept.bindThen hctx hrest
      · rw [if_neg hempty] at hctx ⊢
        exact kept.bindThen hctx hrest
    refine Preserves.get_bind fun s hs => ?_
    exact preserves_ite (fun _ => hview) (fun _ => hbind) s hs

theorem boundOnce (kept : Kept env C I) {commandName : String}
    {body : Option WorldContext → Serving Unit} (hbody : ∀ w, Preserves I (body w)) :
    Preserves I (Worlds.boundOnce commandName world body) := by
  refine Preserves.get_bind fun s hs => ?_
  cases hcurrent : s.current with
  | none =>
    have hall : ∀ w, C w := by
      refine kept.bound.resolve_right fun hbound => ?_
      have hsome := (hbound s hs).2
      rw [hcurrent] at hsome
      cases hsome
    exact kept.inWorld (hall world) (hbody _) s hs
  | some current => exact preserves_ite (fun _ => preserves_raise _) (fun _ => hbody _) s hs

theorem command (kept : Kept env C I) {worldId commandName : String}
    {body : Option WorldContext → Serving Unit} (hbody : ∀ w, Preserves I (body w)) :
    Preserves I (commandWorldContext env worldId commandName body) := by
  unfold commandWorldContext
  dsimp only
  split
  · exact preserves_ite (fun _ => preserves_raise _) fun _ => kept.boundOnce hbody
  · refine preserves_ite (fun _ => Preserves.compute_bind fun world _ => kept.boundOnce hbody)
      fun _ => Preserves.get_bind fun s hs => ?_
    cases s.current with
    | some current => exact hbody _ s hs
    | none => exact preserves_ite (fun _ => preserves_raise _) (fun _ => hbody none) s hs

/-- Every view keeps the invariant, when the contexts it may bind are in `C`. -/
theorem run (kept : Kept env C I) :
    ∀ view : View, (∀ w, view.Binds env w → C w) → Preserves I (view.run env)
  | .done, _ => Preserves.pure ()
  | .fail, _ => preserves_raise _
  | .query model, _ => Preserves.bind (kept.runQuery model) fun _ => Preserves.pure ()
  | .readUser, _ => Preserves.bind kept.readUser fun _ => Preserves.pure ()
  | .logout, _ => fun s hs => kept.loggedOut s hs
  | .login _ _, h => kept.worldLogin h
  | .seq first second, h =>
    Preserves.bind (kept.run first fun w hw => h w (.inl hw)) fun _ =>
      kept.run second fun w hw => h w (.inr hw)
  | .recover body, h => preserves_recovering (kept.run body h)
  | .scoped none body, h => kept.scopedView (kept.run body h) fun _ hid => nomatch hid
  | .scoped (some worldId) body, h =>
    kept.scopedView (kept.run body fun w hw => h w (.inr hw)) fun id hid w hw => by
      cases hid
      exact h w (.inl hw)
  | .bound worldId body, h =>
    Preserves.compute_bind fun w hw =>
      kept.inWorld (h w (.inl hw)) (kept.run body fun w hw => h w (.inr hw))
  | .command _ _ body, h => kept.command fun _ => kept.run body h

theorem boundary (kept : Kept env C I) {getResponse : Serving Unit}
    (h : Preserves I getResponse) :
    Preserves I (worldSessionBoundaryMiddleware env getResponse) := by
  refine Preserves.get_bind fun s hs => ?_
  cases s.request.world with
  | none => exact h s hs
  | some world =>
    refine Preserves.bind kept.readUser (fun authenticated => ?_) s hs
    refine Preserves.get_bind fun t ht => ?_
    refine preserves_ite (fun _ => ?_) (fun _ => h) t ht
    exact fun t ht => h _ (kept.loggedOut t ht)

end Kept

/-! ## Every query of every run -/

theorem forall_mem_snoc {P : Query → Prop} {qs : List Query} {q : Query} (h : ∀ q ∈ qs, P q)
    (hq : P q) : ∀ q' ∈ qs ++ [q], P q' := by
  intro q' hq'
  rw [List.mem_append, List.mem_singleton] at hq'
  obtain hq' | rfl := hq'
  · exact h q' hq'
  · exact hq

theorem kept_routed (hrouting : env.settings.worldDatabaseRoutingEnabled = true) :
    Kept env (fun _ => True) fun s => ∀ q ∈ s.queries, q.Routed env.settings where
  bound := .inl fun _ => trivial
  enter _ _ _ h := h
  leave _ _ _ h := h
  bind _ _ _ h := h
  query _ _ _ hdb h := forall_mem_snoc h (dbForModel_routed hrouting hdb)
  loaded _ _ _ h := h
  loggedOut _ h := h
  loggedIn _ _ _ _ _ h := h

/-- A site fixed to one simulation world, with routing. -/
def fixedSite : SiteEnv where
  settings := {
    databases := [("default", "control"), ("sim1", "big_sim1")]
    worldDatabaseAliases := ["sim1"]
    worldDatabaseRoutingEnabled := true
    defaultWorldDatabaseAlias := "sim1"
    siteFixedWorld := true
    siteWorldId := "sim1"
    siteWorldType := "simulation"
    siteWorldDatabaseAlias := "sim1"
    siteWorldDatabaseName := "" }
  registry := Table.empty
  sessionUser := fun _ userId => userId = 1
  authenticate := fun _ _ => none

def fixedContext : WorldContext := ⟨"sim1", "simulation", "sim1", "big_sim1"⟩

/-- The page of a user with a session of another world. -/
def foreignVisit : Incoming where
  pathInfo := "/workspace/"
  session := ⟨some 1, "real"⟩
  view := .seq (.query ⟨"core", "member"⟩) (.query ⟨"worlds", "worldregistry"⟩)

theorem preserves_worldContextMiddleware (kept : Kept env (fun _ => True) I)
    {getResponse : Serving Unit} (h : Preserves I getResponse) :
    Preserves I (worldContextMiddleware env getResponse) := by
  have hrest : ∀ w, True → Preserves I (inWorld w getResponse) := fun _ _ =>
    kept.inWorld trivial h
  refine Preserves.get_bind fun s hs => ?_
  dsimp only
  split
  · split
    · exact h s hs
    · split
      · exact kept.bindThen (fun _ _ => trivial) hrest s hs
      · exact h s hs
  · exact kept.bindThen (fun _ _ => trivial) hrest s hs

/-- The context that the middleware binds, where it binds one. -/
def Incoming.context (env : SiteEnv) (incoming : Incoming) : Except RoutingError WorldContext :=
  if worldIdFromPath incoming.pathInfo = "" then defaultContext env
  else contextOf env (worldIdFromPath incoming.pathInfo)

/-- The path names a world, or the site is fixed to one. -/
def Incoming.IsBound (env : SiteEnv) (incoming : Incoming) : Prop :=
  worldIdFromPath incoming.pathInfo ≠ "" ∨ env.settings.siteFixedWorld = true

theorem serve_bound {incoming : Incoming} {current : Option WorldContext}
    (hbound : incoming.IsBound env) (hworld : incoming.context env = .ok world) :
    serve env incoming (incoming.arrives current) =
      inWorld world (worldSessionBoundaryMiddleware env (incoming.view.run env))
        ((incoming.arrives current).bind world) := by
  unfold Incoming.context at hworld
  show (if worldIdFromPath incoming.pathInfo = "" then
      if (incoming.arrives current).request.world.isSome = true then _
      else if env.settings.siteFixedWorld = true then _ else _ else _ : Serving Unit) _ = _
  split
  · next hpath =>
    rw [if_pos hpath] at hworld
    rw [if_neg (by simp [Incoming.arrives]), if_pos (hbound.resolve_left (not_not.2 hpath))]
    show ((compute (defaultContext env) >>= _) >>= _ : Serving Unit) _ = _
    rw [hworld]
    rfl
  · next hpath =>
    rw [if_neg hpath] at hworld
    show ((compute (contextOf env (worldIdFromPath incoming.pathInfo)) >>= _) >>= _ :
      Serving Unit) _ = _
    rw [hworld]
    rfl

theorem finalState_serve_bound {incoming : Incoming} {current : Option WorldContext}
    (hbound : incoming.IsBound env) (hworld : incoming.context env = .ok world) :
    finalState (serve env incoming) (incoming.arrives current) =
      { finalState (worldSessionBoundaryMiddleware env (incoming.view.run env))
          { (incoming.arrives current).bind world with current := some world } with
        current := current } := by
  have hserve : finalState (serve env incoming) (incoming.arrives current) =
      finalState (inWorld world (worldSessionBoundaryMiddleware env (incoming.view.run env)))
        ((incoming.arrives current).bind world) := by
    unfold finalState
    rw [serve_bound hbound hworld]
  rw [hserve, finalState_inWorld]
  rfl

/-- The queries of business models reach the database of the world. -/
def Reaches (world : WorldContext) (q : Query) : Prop :=
  q.model.business → q.databaseAlias = some (strip world.databaseAlias)

theorem kept_reaches (hrouting : env.settings.worldDatabaseRoutingEnabled = true) :
    Kept env (· = world) fun s => s.current = some world ∧ s.request.world = some world ∧
      ∀ q ∈ s.queries, Reaches world q where
  bound := .inr fun s hs => by simp [hs.1, hs.2.1]
  enter s w hw hs := ⟨congrArg some hw, hs.2⟩
  leave s t hs ht := ⟨hs.1, ht.2⟩
  bind s w hw hs := ⟨hs.1, congrArg some hw, hs.2.2⟩
  query s model a hdb hs := by
    refine ⟨hs.1, hs.2.1, forall_mem_snoc hs.2.2 fun hmodel => ?_⟩
    obtain ⟨databaseAlias, hfound, -, hcurrent⟩ := dbForModel_business hrouting hmodel hdb
    rw [← hcurrent world hs.1]
    exact hfound
  loaded s user _ hs := hs
  loggedOut s hs := hs
  loggedIn s w userId a _ hs := hs

/-- A request that the middleware binds to a world queries the business models of no other world,
as long as the only context its view may bind is that of the world. -/
theorem bound_request_reaches (env : SiteEnv)
    (hrouting : env.settings.worldDatabaseRoutingEnabled = true) (incoming : Incoming)
    (current : Option WorldContext) (world : WorldContext) (hbound : incoming.IsBound env)
    (hworld : incoming.context env = .ok world)
    (hstays : ∀ w, incoming.view.Binds env w → w = world) :
    ∀ q ∈ (finalState (serve env incoming) (incoming.arrives current)).queries,
      Reaches world q := by
  have kept : Kept env (· = world) _ := kept_reaches hrouting
  have hview := kept.boundary (kept.run incoming.view hstays)
  rw [finalState_serve_bound hbound hworld]
  refine (hview _ ⟨rfl, rfl, fun q hq => ?_⟩).2.2
  exact absurd hq List.not_mem_nil

theorem foreignVisit_binds {w : WorldContext} (h : foreignVisit.view.Binds fixedSite w) :
    w = fixedContext := by
  simp [foreignVisit, View.Binds] at h

theorem bound_request_reaches_of_visit :
    (finalState (serve fixedSite foreignVisit) (foreignVisit.arrives none)).queries.length = 3 ∧
    ∀ q ∈ (finalState (serve fixedSite foreignVisit) (foreignVisit.arrives none)).queries,
      Reaches fixedContext q :=
  ⟨by decide +kernel, bound_request_reaches fixedSite rfl foreignVisit none fixedContext
    (.inr rfl) (by decide +kernel) fun _ h => foreignVisit_binds h⟩

/-- A user who is logged in has a session of the world, or one that names no world. -/
def SessionOf (world : WorldContext) (request : Request) : Prop :=
  ∀ userId databaseAlias, request.user = .authenticated userId databaseAlias →
    request.session.worldId = "" ∨ request.session.worldId = world.worldId

/-- The worker past the boundary. -/
def Inside (world : WorldContext) (s : Worker) : Prop :=
  s.current.isSome = true ∧ s.request.world = some world ∧ s.request.user ≠ .unloaded ∧
    SessionOf world s.request ∧ ∀ q ∈ s.queries, SessionOf world q.request

theorem sessionOf_anonymous {request : Request} (h : request.user = .anonymous) :
    SessionOf world request := by
  intro userId databaseAlias huser
  rw [h] at huser
  cases huser

theorem takenOver_worldId (session : Session) (userId : Nat) :
    (session.takenOver userId).worldId = "" ∨
      (session.takenOver userId).worldId = session.worldId := by
  unfold Session.takenOver
  split
  · exact .inr rfl
  · split
    · exact .inr rfl
    · exact .inl rfl

theorem kept_inside : Kept env (· = world) (Inside world) where
  bound := .inr fun s hs => by simp [hs.1, hs.2.1]
  enter s w hw hs := ⟨rfl, hs.2⟩
  leave s t hs ht := ⟨hs.1, ht.2⟩
  bind s w hw hs := ⟨hs.1, congrArg some hw, hs.2.2.1, hs.2.2.2.1, hs.2.2.2.2⟩
  query s model a _ hs :=
    ⟨hs.1, hs.2.1, hs.2.2.1, hs.2.2.2.1, forall_mem_snoc hs.2.2.2.2 hs.2.2.2.1⟩
  loaded s user huser hs := absurd huser hs.2.2.1
  loggedOut s hs := ⟨hs.1, hs.2.1, by simp [Worker.loggedOut], sessionOf_anonymous rfl, hs.2.2.2.2⟩
  loggedIn s w userId a hw hs := by
    refine ⟨hs.1, hs.2.1, by simp [Worker.loggedIn], fun _ _ _ => ?_, hs.2.2.2.2⟩
    rw [← hw]
    exact takenOver_worldId _ userId

/-- Reading a user that is not loaded raises in the router, or loads the user of the session. -/
theorem readUser_cases (env : SiteEnv) (huser : s.request.user = .unloaded) :
    (∃ e, readUser env s = .error e s) ∨
      readUser env s = .ok false (s.withUser .anonymous) ∨
      ∃ databaseAlias,
        readUser env s = .ok false ((s.queried userModel databaseAlias).withUser .anonymous) ∨
        ∃ userId, readUser env s = .ok true
          ((s.queried userModel databaseAlias).withUser (.authenticated userId databaseAlias)) := by
  unfold readUser
  rw [run_get_bind]
  cases hsession : s.request.session.userId with
  | none =>
    simp only [huser]
    exact .inr (.inl rfl)
  | some userId =>
    simp only [huser]
    cases hdb : dbForModel env.settings s.current userModel with
    | error e => exact .inl ⟨e, run_bind_of_error (runQuery_of_error hdb)⟩
    | ok databaseAlias =>
      rw [run_bind_of_ok (runQuery_of_ok hdb)]
      by_cases hknown : env.sessionUser databaseAlias userId = true
      · rw [if_pos hknown]
        exact .inr (.inr ⟨databaseAlias, .inr ⟨userId, rfl⟩⟩)
      · rw [if_neg hknown]
        exact .inr (.inr ⟨databaseAlias, .inl rfl⟩)

/-- What the boundary does after the user is read. -/
theorem boundary_rest {getResponse : Serving Unit} {t : Worker} {authenticated : Bool}
    (h : Preserves (Inside world) getResponse) (hworld : s.request.world = some world)
    (hread : readUser env s = .ok authenticated t) (ht : t.request.world = some world)
    (hcurrent : t.current.isSome = true) (huser : t.request.user ≠ .unloaded)
    (hanonymous : authenticated = false → t.request.user = .anonymous)
    (hqueries : ∀ q ∈ t.queries, SessionOf world q.request) :
    Inside world (finalState (worldSessionBoundaryMiddleware env getResponse) s) := by
  have hrun : finalState (worldSessionBoundaryMiddleware env getResponse) s =
      finalState (if authenticated = true ∧ t.request.session.worldId ≠ "" ∧
          t.request.session.worldId ≠ world.worldId then logout >>= fun _ => getResponse
        else getResponse) t := by
    unfold worldSessionBoundaryMiddleware
    rw [finalState_get_bind]
    simp only [hworld]
    exact finalState_bind_of_ok hread
  rw [hrun]
  by_cases hforeign : authenticated = true ∧ t.request.session.worldId ≠ "" ∧
      t.request.session.worldId ≠ world.worldId
  · rw [if_pos hforeign]
    refine h t.loggedOut ⟨hcurrent, ht, by simp [Worker.loggedOut], sessionOf_anonymous rfl,
      hqueries⟩
  · rw [if_neg hforeign]
    refine h t ⟨hcurrent, ht, huser, fun userId databaseAlias hauth => ?_, hqueries⟩
    by_cases hyes : authenticated = true
    · grind
    · rw [hanonymous (by simpa using hyes)] at hauth
      cases hauth

/-- The boundary lets a user in with a session of the world only. -/
theorem boundary_inside {getResponse : Serving Unit} (h : Preserves (Inside world) getResponse)
    (hcurrent : s.current.isSome = true) (hworld : s.request.world = some world)
    (huser : s.request.user = .unloaded) (hqueries : s.queries = []) :
    ∀ q ∈ (finalState (worldSessionBoundaryMiddleware env getResponse) s).queries,
      SessionOf world q.request := by
  have hunloaded : SessionOf world s.request := by
    intro userId databaseAlias h
    rw [huser] at h
    cases h
  have hqueried : ∀ databaseAlias, ∀ q ∈ (s.queried userModel databaseAlias).queries,
      SessionOf world q.request := by
    intro databaseAlias
    refine forall_mem_snoc (fun q hq => ?_) hunloaded
    rw [hqueries] at hq
    exact absurd hq List.not_mem_nil
  obtain ⟨e, hread⟩ | hread | ⟨databaseAlias, hread | ⟨userId, hread⟩⟩ :=
    readUser_cases env huser
  · have hrun : finalState (worldSessionBoundaryMiddleware env getResponse) s = s := by
      unfold worldSessionBoundaryMiddleware
      rw [finalState_get_bind]
      simp only [hworld]
      rw [finalState_bind_of_error hread, finalState_of_error hread]
    rw [hrun, hqueries]
    exact fun q hq => absurd hq List.not_mem_nil
  · refine (boundary_rest h hworld hread hworld hcurrent (by simp [Worker.withUser])
      (fun _ => rfl) fun q hq => ?_).2.2.2.2
    rw [show (s.withUser .anonymous).queries = [] from hqueries] at hq
    exact absurd hq List.not_mem_nil
  · exact (boundary_rest h hworld hread hworld hcurrent (by simp [Worker.withUser])
      (fun _ => rfl) (hqueried databaseAlias)).2.2.2.2
  · exact (boundary_rest h hworld hread hworld hcurrent (by simp [Worker.withUser])
      (fun h => nomatch h) (hqueried databaseAlias)).2.2.2.2

/-- The command ran its body once, bound to `bound`, and left the context variable as it was. -/
def RanIn (env : SiteEnv) (body : View) (s : Worker) (m : Serving Unit)
    (bound : Option WorldContext) : Prop :=
  finalState m s =
    { finalState (body.run env) { s with current := bound } with current := s.current }

theorem ranIn_self (env : SiteEnv) (s : Worker) (body : View) :
    RanIn env body s (body.run env) s.current := by
  show finalState (body.run env) s = { finalState (body.run env) s with current := s.current }
  rw [← body.restores env s]

theorem boundOnce_cases (env : SiteEnv) (world : WorldContext) (commandName : String) (body : View)
    (s : Worker) :
    (∃ e, boundOnce commandName world (fun _ => body.run env) s = .error e s) ∨
      ∃ w, RanIn env body s (boundOnce commandName world fun _ => body.run env) (some w) ∧
        w.worldId = world.worldId ∧ ∀ c, s.current = some c → w = c := by
  unfold boundOnce
  cases hcurrent : s.current with
  | none =>
    refine .inr ⟨world, ?_, rfl, fun c hc => nomatch hc⟩
    unfold RanIn
    rw [← finalState_inWorld, finalState_get_bind]
    simp only [hcurrent]
  | some current =>
    rw [run_get_bind]
    simp only [hcurrent]
    by_cases hother : current.worldId ≠ world.worldId
    · rw [if_pos hother]
      exact .inl ⟨_, rfl⟩
    · refine .inr ⟨current, ?_, not_not.1 hother, fun c hc => Option.some.inj hc⟩
      have hself := ranIn_self env s body
      rw [hcurrent] at hself
      unfold RanIn at hself ⊢
      rw [← hself, finalState_get_bind]
      simp only [hcurrent]
      rw [if_neg hother]

theorem getWorldOrError_ok {registry : WorldTable} {worldId : String} {row : WorldRegistry}
    (h : getWorldOrError registry worldId = .ok row) : row.worldId = strip worldId := by
  unfold getWorldOrError at h
  obtain ⟨checked, hchecked, h⟩ := bind_eq_ok.1 h
  have hstrip : checked = strip worldId := by
    cases hvalid : validateWorldId worldId with
    | error e =>
      rw [hvalid] at hchecked
      cases hchecked
    | ok found =>
      rw [hvalid] at hchecked
      cases hchecked
      unfold validateWorldId at hvalid
      rw [rejectIf_bind_eq_ok, rejectIf_bind_eq_ok, pure_eq_ok] at hvalid
      exact hvalid.2.2.symm
  cases hrow : registry.get? checked with
  | none =>
    rw [hrow] at h
    cases h
  | some found =>
    rw [hrow] at h
    cases h
    exact (Table.get?_eq_some.1 hrow).2.trans hstrip

theorem commandContext_ok {worldId : String} (h : commandContext env worldId = .ok world) :
    world.worldId = strip worldId := by
  unfold commandContext at h
  obtain ⟨row, hrow, h⟩ := bind_eq_ok.1 h
  rw [rejectIf_bind_eq_ok] at h
  obtain ⟨databaseAlias, -, h⟩ := bind_eq_ok.1 h.2
  cases h
  exact getWorldOrError_ok hrow

/-- The world that the settings fix a command to. -/
def fixedCommandWorld (env : SiteEnv) : Option WorldContext :=
  if env.settings.siteFixedWorld then fixedWorldContextFromSettings env.settings else none

/-- A command raises before it does anything, or runs its body once, in one world: the world bound
already where one is, the world it asks for, the world its site is fixed to. Only without routing it
may run in no world. In each case the context variable is given back as it was. -/
theorem command_binds (env : SiteEnv) (worldId commandName : String) (body : View) (s : Worker) :
    (∃ e, (View.command worldId commandName body).run env s = .error e s) ∨
      ∃ bound, RanIn env body s ((View.command worldId commandName body).run env) bound ∧
        (∀ c, s.current = some c → bound = some c) ∧
        (strip worldId ≠ "" → bound.map WorldContext.worldId = some (strip worldId)) ∧
        (∀ fixed, fixedCommandWorld env = some fixed →
          bound.map WorldContext.worldId = some fixed.worldId) ∧
        (bound = none → env.settings.worldDatabaseRoutingEnabled = false) := by
  unfold View.run commandWorldContext
  rw [show (if env.settings.siteFixedWorld = true then
    fixedWorldContextFromSettings env.settings else none) = fixedCommandWorld env from rfl]
  dsimp only
  cases hfixed : fixedCommandWorld env with
  | some fixed =>
    dsimp only
    by_cases hother : strip worldId ≠ "" ∧ strip worldId ≠ fixed.worldId
    · rw [if_pos hother]
      exact .inl ⟨_, rfl⟩
    · rw [if_neg hother]
      obtain herror | ⟨w, hran, hid, hcurrent⟩ :=
        boundOnce_cases env fixed commandName body s
      · exact .inl herror
      · refine .inr ⟨some w, hran, fun c hc => congrArg some (hcurrent c hc), fun hask => ?_,
          fun f hf => ?_, fun h => nomatch h⟩
        · have hsame : strip worldId = fixed.worldId := by
            by_contra hne
            exact hother ⟨hask, hne⟩
          rw [Option.map_some, hid, hsame]
        · cases hf
          rw [Option.map_some, hid]
  | none =>
    dsimp only
    by_cases hask : strip worldId ≠ ""
    · rw [if_pos hask]
      cases hcontext : commandContext env (strip worldId) with
      | error e => exact .inl ⟨e, rfl⟩
      | ok world =>
        have hworld := commandContext_ok hcontext
        rw [strip_strip] at hworld
        obtain herror | ⟨w, hran, hid, hcurrent⟩ :=
          boundOnce_cases env world commandName body s
        · exact .inl herror
        · refine .inr ⟨some w, hran, fun c hc => congrArg some (hcurrent c hc), fun _ => ?_,
            fun f hf => (nomatch hf), fun h => (nomatch h)⟩
          rw [Option.map_some, hid, hworld]
    · rw [if_neg hask]
      have hself := ranIn_self env s body
      cases hcurrent : s.current with
      | some current =>
        rw [hcurrent] at hself
        refine .inr ⟨some current, ?_, fun c hc => hc, fun h => absurd h hask,
          fun f hf => (nomatch hf), fun h => (nomatch h)⟩
        unfold RanIn at hself ⊢
        rw [← hself, finalState_get_bind]
        simp only [hcurrent]
      | none =>
        by_cases hrouting : env.settings.worldDatabaseRoutingEnabled = true
        · refine .inl ⟨.command
            (commandName ++ " requires --world-id when no world context is active."), ?_⟩
          rw [run_get_bind]
          simp only [hcurrent]
          rw [if_pos hrouting]
          rfl
        · rw [hcurrent] at hself
          refine .inr ⟨none, ?_, fun c hc => (nomatch hc), fun h => absurd h hask,
            fun f hf => (nomatch hf), fun _ => by simpa using hrouting⟩
          unfold RanIn at hself ⊢
          rw [← hself, finalState_get_bind]
          simp only [hcurrent]
          rw [if_neg hrouting]

end LiveOs.Worlds
