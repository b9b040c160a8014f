import LiveOs.Worlds.Reset

/-!
# Isolation of worlds

What each call does to the registry, said once: it leaves every row as it is apart from its time of
change, or it puts one row in place of the row with its id. From this follow, over every run, that
live worlds keep different aliases, that the real world and every real world stay active, that only
an archived world is deleted, and that a raised call changes no row. Which alias a reset flushes is
a matter of the row it is made on: nothing but its type says that a world is not the real one.
-/

namespace LiveOs.Worlds

open Lib

variable {settings : WorldSettings} {s s' t : WorldSite} {e : WorldError} {now : Nat}
  {w v world : WorldRegistry}

/-! ## Rows apart from `updated_at` -/

/-- A row without its time of change. -/
def WorldRegistry.unstamped (w : WorldRegistry) : WorldRegistry := { w with updatedAt := 0 }

/-- Every row is as it was, apart from `updated_at`. -/
def SameRegistry (s s' : WorldSite) : Prop :=
  s'.registry.rows.map WorldRegistry.unstamped = s.registry.rows.map WorldRegistry.unstamped

theorem SameRegistry.refl (s : WorldSite) : SameRegistry s s := rfl

theorem SameRegistry.symm (h : SameRegistry s s') : SameRegistry s' s := Eq.symm h

theorem SameRegistry.exists_mem (h : SameRegistry s s') (hw : w ∈ s'.registry.rows) :
    ∃ v ∈ s.registry.rows, v.unstamped = w.unstamped := by
  have hmem : w.unstamped ∈ s.registry.rows.map WorldRegistry.unstamped := by
    unfold SameRegistry at h
    rw [← h]
    exact List.mem_map_of_mem hw
  exact List.mem_map.1 hmem

theorem unstamped_fields (h : v.unstamped = w.unstamped) :
    v.worldId = w.worldId ∧ v.worldType = w.worldType ∧ v.databaseAlias = w.databaseAlias ∧
      v.status = w.status := by
  have hid : v.unstamped.worldId = w.unstamped.worldId := by rw [h]
  have htype : v.unstamped.worldType = w.unstamped.worldType := by rw [h]
  have halias : v.unstamped.databaseAlias = w.unstamped.databaseAlias := by rw [h]
  have hstatus : v.unstamped.status = w.unstamped.status := by rw [h]
  exact ⟨hid, htype, halias, hstatus⟩

/-! ## What must hold -/

/-- Worlds that are not deleted have different aliases. -/
def AliasesDistinct (registry : WorldTable) : Prop :=
  ∀ v ∈ registry.rows, ∀ w ∈ registry.rows, v.status ≠ .deleted → w.status ≠ .deleted →
    v.databaseAlias = w.databaseAlias → v.worldId = w.worldId

/-- The world `realworld` and every world that is real. -/
def Guarded (w : WorldRegistry) : Prop := w.worldId = defaultRealworldId ∨ w.worldType = .real

/-- The alias is that of the control database, of the world `realworld` or of a real world that is
not deleted. -/
def Forbidden (registry : WorldTable) (databaseAlias : String) : Prop :=
  databaseAlias = controlDatabaseAlias ∨ ∃ w ∈ registry.rows, w.databaseAlias = databaseAlias ∧
    (w.worldId = defaultRealworldId ∨ w.worldType = .real ∧ w.status ≠ .deleted)

/-! ## What a call does to the registry -/

/-- One row of `s'` is `w`, the others are the rows of `s` with other ids. -/
def Put (s s' : WorldSite) (w : WorldRegistry) : Prop :=
  ∀ v ∈ s'.registry.rows, v = w ∨ v ∈ s.registry.rows ∧ v.worldId ≠ w.worldId

/-- The ways in which a call changes the registry. -/
inductive Change (s s' : WorldSite) : Prop where
  | same (h : SameRegistry s s')
  | registered (w : WorldRegistry) (hput : Put s s' w) (hactive : w.status = .active)
      (hfresh : ∀ v ∈ s.registry.rows, v.worldId ≠ w.worldId → v.status ≠ .deleted →
        v.databaseAlias ≠ w.databaseAlias)
  | archived (v w : WorldRegistry) (hput : Put s s' w) (hv : v ∈ s.registry.rows)
      (hid : w.worldId = v.worldId) (htype : w.worldType = v.worldType)
      (halias : w.databaseAlias = v.databaseAlias)
      (hopen : ¬ Guarded v) (hbefore : v.status = .active) (hafter : w.status = .archived)
  | deleted (v w : WorldRegistry) (hput : Put s s' w) (hv : v ∈ s.registry.rows)
      (hid : w.worldId = v.worldId) (htype : w.worldType = v.worldType)
      (hopen : ¬ Guarded v) (hbefore : v.status = .archived)
      (hafter : w.status = .deleted)

theorem ensureNotRealworld_ok {action : String} (h : ensureNotRealworld w action = .ok ()) :
    ¬ Guarded w := by
  unfold ensureNotRealworld at h
  have hopen := rejectIf_eq_ok.1 h
  exact hopen

/-- The rows after one row was modified by its key. -/
theorem put_modify (f : WorldRegistry → WorldRegistry) {worldId : String}
    (hw : s.registry.get? worldId = some w) (hpk : ∀ r, (f r).worldId = r.worldId)
    (hs' : s'.registry.rows = s.registry.rows.map fun r => if r.worldId = worldId then f r else r) :
    Put s s' (f w) := by
  obtain ⟨hmem, hid⟩ := Table.get?_eq_some.1 hw
  intro v hv
  rw [hs'] at hv
  obtain ⟨u, hu, rfl⟩ := List.mem_map.1 hv
  by_cases hkey : u.worldId = worldId
  · rw [if_pos hkey]
    rw [s.registry.eq_of_pk hu hmem (hkey.trans hid.symm)]
    exact .inl rfl
  · rw [if_neg hkey]
    refine .inr ⟨hu, ?_⟩
    rw [hpk, hid]
    exact hkey

theorem archive_change {worldId : String} {r : WorldRegistry × Bool}
    (h : archiveWorldRegistry now worldId s = .ok r s') :
    Change s s' ∧ s'.flushed = s.flushed := by
  rw [archiveWorldRegistry, run_atomic_ok] at h
  obtain ⟨checked, -, h⟩ := run_compute_bind_ok.1 h
  rw [run_get_bind] at h
  cases hget : s.registry.get? checked with
  | none =>
    rw [hget] at h
    cases h
  | some w =>
    rw [hget] at h
    obtain ⟨⟨⟩, hguard, h⟩ := run_compute_bind_ok.1 h
    have hopen := ensureNotRealworld_ok hguard
    by_cases hdeleted : w.status = .deleted
    · rw [if_pos hdeleted] at h
      cases h
    rw [if_neg hdeleted] at h
    by_cases harchived : w.status = .archived
    · rw [if_pos harchived] at h
      cases h
      exact ⟨.same (.refl s), rfl⟩
    rw [if_neg harchived] at h
    cases h
    let archive := fun w : WorldRegistry =>
      { w with status := .archived, archivedAt := some now, updatedAt := now }
    refine ⟨.archived w (archive w) (put_modify archive hget (fun _ => rfl) rfl)
      (Table.get?_eq_some.1 hget).1 rfl rfl rfl hopen ?_ rfl, rfl⟩
    cases hstatus : w.status with
    | active => rfl
    | archived => exact absurd hstatus harchived
    | deleted => exact absurd hstatus hdeleted

theorem delete_change {worldId : String} {r : WorldRegistry × Bool}
    (h : deleteWorldRegistry now worldId s = .ok r s') :
    Change s s' ∧ s'.flushed = s.flushed := by
  rw [deleteWorldRegistry, run_atomic_ok] at h
  obtain ⟨checked, -, h⟩ := run_compute_bind_ok.1 h
  rw [run_get_bind] at h
  cases hget : s.registry.get? checked with
  | none =>
    rw [hget] at h
    cases h
  | some w =>
    rw [hget] at h
    obtain ⟨⟨⟩, hguard, h⟩ := run_compute_bind_ok.1 h
    have hopen := ensureNotRealworld_ok hguard
    by_cases hdeleted : w.status = .deleted
    · rw [if_pos hdeleted] at h
      cases h
      exact ⟨.same (.refl s), rfl⟩
    rw [if_neg hdeleted] at h
    by_cases harchived : w.status = .archived
    · rw [if_neg (not_not.2 harchived)] at h
      cases h
      let delete := fun w : WorldRegistry =>
        { w with status := .deleted, archivedAt := some (w.archivedAt.getD now), updatedAt := now }
      exact ⟨.deleted w (delete w) (put_modify delete hget (fun _ => rfl) rfl)
        (Table.get?_eq_some.1 hget).1 rfl rfl hopen harchived rfl, rfl⟩
    · rw [if_pos harchived] at h
      cases h

theorem existingAliasOwner_none {databaseAlias worldId : String}
    (h : existingAliasOwner s.registry databaseAlias worldId = none) :
    ∀ v ∈ s.registry.rows, v.worldId ≠ worldId → v.status ≠ .deleted →
      v.databaseAlias ≠ databaseAlias := by
  intro v hv hid hstatus halias
  have hno := Table.first?_eq_none.1 h v hv
  simp [halias, hid, hstatus] at hno

theorem registerWorld_change {worldId name databaseAlias databaseName : String}
    {worldType : WorldType} {r : WorldRegistry × Bool}
    (hfresh : ∀ v ∈ s.registry.rows, v.worldId ≠ worldId → v.status ≠ .deleted →
      v.databaseAlias ≠ databaseAlias)
    (h : registerWorld now worldId name worldType databaseAlias databaseName s = .ok r s') :
    Change s s' ∧ s'.flushed = s.flushed := by
  rw [registerWorld, run_get_bind] at h
  cases hget : s.registry.get? worldId with
  | none =>
    rw [hget] at h
    obtain ⟨registry, hinsert, h⟩ := run_compute_bind_ok.1 h
    cases h
    refine ⟨.registered ⟨worldId, name, worldType, databaseAlias, databaseName, .active, now, now,
      none⟩ ?_ rfl hfresh, rfl⟩
    intro v hv
    rw [(Table.insert_ok hinsert).1] at hv
    rcases List.mem_append.1 hv with hv | hv
    · exact .inr ⟨hv, Table.get?_eq_none.1 hget v hv⟩
    · exact .inl (List.mem_singleton.1 hv)
  | some w =>
    rw [hget] at h
    dsimp only at h
    by_cases hsame : w.desired name worldType databaseAlias databaseName = w
    · rw [if_pos hsame] at h
      cases h
      exact ⟨.same (.refl s), rfl⟩
    · rw [if_neg hsame] at h
      cases h
      let change := fun w : WorldRegistry =>
        { w.desired name worldType databaseAlias databaseName with updatedAt := now }
      refine ⟨.registered (change w) (put_modify change hget (fun _ => rfl) rfl) rfl ?_, rfl⟩
      have hid := (Table.get?_eq_some.1 hget).2
      intro v hv hne
      exact hfresh v hv (by rw [← hid]; exact hne)

theorem create_change {worldId name worldType databaseAlias databaseName : String}
    {r : WorldRegistry × Bool}
    (h : createWorldRegistry settings now worldId name worldType databaseAlias databaseName s =
      .ok r s') : Change s s' ∧ s'.flushed = s.flushed := by
  unfold createWorldRegistry at h
  obtain ⟨checkedWorldId, -, h⟩ := run_compute_bind_ok.1 h
  obtain ⟨checkedAlias, -, h⟩ := run_compute_bind_ok.1 h
  obtain ⟨checkedType, -, h⟩ := run_compute_bind_ok.1 h
  rw [run_get_bind] at h
  cases howner : existingAliasOwner s.registry checkedAlias checkedWorldId with
  | some owner =>
    rw [howner] at h
    cases h
  | none =>
    rw [howner] at h
    exact registerWorld_change (existingAliasOwner_none howner) (run_atomic_ok.1 h)

/-! ## Raised calls of the lifecycle -/

theorem create_error {worldId name worldType databaseAlias databaseName : String}
    (h : createWorldRegistry settings now worldId name worldType databaseAlias databaseName s =
      .error e s') : s' = s := by
  unfold createWorldRegistry at h
  rcases run_bind_error.1 h with h | ⟨checkedWorldId, s₁, hid, h⟩
  · exact (run_compute_error.1 h).2.symm
  obtain ⟨-, rfl⟩ := run_compute_ok.1 hid
  rcases run_bind_error.1 h with h | ⟨checkedAlias, s₁, halias, h⟩
  · exact (run_compute_error.1 h).2.symm
  obtain ⟨-, rfl⟩ := run_compute_ok.1 halias
  rcases run_bind_error.1 h with h | ⟨checkedType, s₁, htype, h⟩
  · exact (run_compute_error.1 h).2.symm
  obtain ⟨-, rfl⟩ := run_compute_ok.1 htype
  rw [run_get_bind] at h
  cases howner : existingAliasOwner s.registry checkedAlias checkedWorldId with
  | some owner =>
    rw [howner] at h
    cases h
    rfl
  | none =>
    rw [howner] at h
    exact (run_atomic_error.1 h).1

/-! ## What a reset does -/

/-- The registry is that of `s`, and so are the flushed aliases up to those of the list. -/
structure Reset (s : WorldSite) (extra : List String) (t : WorldSite) : Prop where
  same : SameRegistry s t
  flushed : t.flushed = s.flushed ++ extra

theorem preserves_throw {α : Type} {I : WorldSite → Prop} :
    Preserves I (throw e : EStateM WorldError WorldSite α) := fun _ h => h

theorem preserves_recordMaintenanceLog {extra : List String} {outcomes : ResetOutcomes}
    {log : WorldMaintenanceLog} :
    Preserves (Reset s extra) (recordMaintenanceLog outcomes log) := by
  unfold recordMaintenanceLog
  refine (Preserves.compute _).bind fun _ => Preserves.update ?_
  intro t t' ht hupdate
  cases hupdate
  exact ⟨ht.same, ht.flushed⟩

theorem preserves_onCommandError {α : Type} {I : WorldSite → Prop} {x : Except WorldError α}
    {log : String → EStateM WorldError WorldSite Unit} {reraise : String → String}
    (hlog : ∀ message, Preserves I (log message)) : Preserves I (onCommandError x log reraise) := by
  cases x with
  | ok a => exact Preserves.pure a
  | error e =>
    cases e with
    | command message => exact (hlog message).bind fun _ => preserves_throw
    | domain message => exact preserves_throw
    | other => exact preserves_throw

/-- The row of the world is written back as it is. -/
theorem preserves_restoreRegistryRow {extra : List String}
    (hworld : s.registry.get? world.worldId = some world) :
    Preserves (Reset s extra) (restoreRegistryRow now world) := by
  refine Preserves.update ?_
  intro t t' ht hupdate
  obtain ⟨hmem, -⟩ := Table.get?_eq_some.1 hworld
  cases hget : t.registry.get? world.worldId with
  | none =>
    obtain ⟨v, hv, hsame⟩ := ht.same.symm.exists_mem hmem
    exact absurd (unstamped_fields hsame).1 (Table.get?_eq_none.1 hget v hv)
  | some row =>
    rw [hget] at hupdate
    cases hupdate
    refine ⟨?_, ht.flushed⟩
    unfold SameRegistry
    rw [← ht.same, Table.modify_rows, List.map_map]
    refine List.map_congr_left ?_
    intro r hr
    by_cases hid : r.worldId = world.worldId
    · obtain ⟨v, hv, hsame⟩ := ht.same.exists_mem hr
      have hvworld : v = world :=
        s.registry.eq_of_pk hv hmem ((unstamped_fields hsame).1.trans hid)
      rw [hvworld] at hsame
      rw [Function.comp_apply, if_pos hid, ← hsame]
      unfold WorldRegistry.unstamped at hsame ⊢
      simp only [WorldRegistry.mk.injEq] at hsame ⊢
      obtain ⟨hid', -, -, -, -, -, hcreated, -, harchived⟩ := hsame
      exact ⟨hid'.symm, trivial, trivial, trivial, trivial, trivial, hcreated.symm, trivial,
        harchived.symm⟩
    · rw [Function.comp_apply, if_neg hid]

/-- The steps of a reset in front of the flush all go well. -/
structure ReachesFlush (settings : WorldSettings) (world : WorldRegistry) (force : Bool)
    (outcomes : ResetOutcomes) : Prop where
  resettable : checkResettable settings world = .ok ()
  counted : ∃ counts, outcomes.countBefore = .ok counts
  runs : checkRuns world force outcomes = .ok ()
  cleaned : ∃ count, outcomes.clean = .ok count

theorem onCommandError_error {α : Type} {log : String → EStateM WorldError WorldSite Unit}
    {reraise : String → String} (e : WorldError) (s : WorldSite) :
    ∃ e' s₁, (onCommandError (.error e) log reraise : EStateM WorldError WorldSite α) s =
      .error e' s₁ := by
  cases e with
  | command message =>
    cases hlog : log message s with
    | ok a s₁ => exact ⟨_, s₁, run_bind_of_ok hlog⟩
    | error e' s₁ => exact ⟨e', s₁, run_bind_of_error hlog⟩
  | domain message => exact ⟨_, s, rfl⟩
  | other => exact ⟨_, s, rfl⟩

/-- **The reset.** Whatever raises, the registry stays as it is apart from `updated_at`, and the
alias of the world is flushed exactly if the steps before the flush go well. -/
theorem finalState_reset {actor : String} {force : Bool} {outcomes : ResetOutcomes}
    (hworld : s.registry.get? world.worldId = some world) :
    (ReachesFlush settings world force outcomes ∧
      Reset s [sourceAliasForWorld settings world]
        (finalState (resetSimulationWorldToZeroStart settings now world actor force outcomes) s)) ∨
    (¬ ReachesFlush settings world force outcomes ∧ Reset s [] (finalState
      (resetSimulationWorldToZeroStart settings now world actor force outcomes) s)) := by
  have hsame : Reset s [] s := ⟨.refl s, (List.append_nil _).symm⟩
  unfold resetSimulationWorldToZeroStart
  rcases finalState_compute_bind (s := s) (x := checkResettable settings world) with
    ⟨⟨⟩, hresettable, h⟩ | ⟨⟨e, hfailed⟩, h⟩
  swap
  · rw [h]
    refine .inr ⟨fun hreach => ?_, hsame⟩
    rw [hreach.resettable] at hfailed
    cases hfailed
  rw [h]
  rcases finalState_compute_bind (s := s) (x := outcomes.countBefore) with
    ⟨counts, hcounts, h⟩ | ⟨⟨e, hfailed⟩, h⟩
  swap
  · rw [h]
    refine .inr ⟨fun hreach => ?_, hsame⟩
    obtain ⟨counts, hcounts⟩ := hreach.counted
    rw [hcounts] at hfailed
    cases hfailed
  rw [h]
  rcases finalState_compute_bind (s := s) (x := checkRuns world force outcomes) with
    ⟨⟨⟩, hruns, h⟩ | ⟨⟨e, hfailed⟩, h⟩
  swap
  · rw [h]
    refine .inr ⟨fun hreach => ?_, hsame⟩
    rw [hreach.runs] at hfailed
    cases hfailed
  rw [h]
  cases hclean : outcomes.clean with
  | error e =>
    refine .inr ⟨fun hreach => ?_, ?_⟩
    · obtain ⟨count, hcount⟩ := hreach.cleaned
      rw [hcount] at hclean
      cases hclean
    · obtain ⟨e', s₁, herror⟩ := onCommandError_error (α := Nat) e s
      rw [finalState_bind_of_error herror]
      exact preserves_onCommandError (fun _ => preserves_recordMaintenanceLog) s hsame
  | ok count =>
    refine .inl ⟨⟨hresettable, ⟨counts, hcounts⟩, hruns, count, hclean⟩, ?_⟩
    have hflushed : Reset s [sourceAliasForWorld settings world]
        { s with flushed := s.flushed ++ [sourceAliasForWorld settings world] } := ⟨.refl s, rfl⟩
    have hok : (onCommandError (.ok count) (fun exc => recordMaintenanceLog outcomes
        ⟨world.worldId, actor, .failed, force, counts, [],
          "清理目标 world runtime 文件失败：" ++ exc⟩) id : EStateM WorldError WorldSite Nat) s =
        .ok count s := rfl
    have hflush : flushDatabase (sourceAliasForWorld settings world) s =
        .ok () { s with flushed := s.flushed ++ [sourceAliasForWorld settings world] } := rfl
    rw [finalState_bind_of_ok hok, finalState_bind_of_ok hflush]
    refine (Preserves.bind ?_ fun _ => ?_) _ hflushed
    · exact preserves_onCommandError fun _ => preserves_recordMaintenanceLog
    refine (preserves_restoreRegistryRow hworld).bind fun _ => ?_
    refine Preserves.bind ?_ fun _ => ?_
    · exact preserves_onCommandError fun _ => preserves_recordMaintenanceLog
    refine (Preserves.compute _).bind fun _ => ?_
    refine Preserves.bind ?_ fun _ => ?_
    · exact preserves_onCommandError fun _ => preserves_recordMaintenanceLog
    refine preserves_recordMaintenanceLog.bind fun _ => ?_
    exact Preserves.pure _

/-! ## One call -/

/-- The call is a reset that reaches its flush. -/
def FlushesWorld (settings : WorldSettings) (s : WorldSite) (c : WorldCall)
    (world : WorldRegistry) : Prop :=
  ∃ actor force outcomes, c = .reset world.worldId actor force outcomes ∧
    s.registry.get? world.worldId = some world ∧ ReachesFlush settings world force outcomes

/-- What a call does: to the registry, to the aliases, and when it is raised. -/
structure Effect (settings : WorldSettings) (c : WorldCall) (s s' : WorldSite) : Prop where
  change : Change s s'
  flushed : s'.flushed = s.flushed ∨ ∃ world, FlushesWorld settings s c world ∧
    s'.flushed = s.flushed ++ [sourceAliasForWorld settings world]
  reached : ∀ world, FlushesWorld settings s c world →
    s'.flushed = s.flushed ++ [sourceAliasForWorld settings world]

/-- A call of the lifecycle flushes nothing, and changes nothing when it is raised. -/
theorem effect_of_lifecycle {c : WorldCall} {α : Type} {x : EStateM WorldError WorldSite α}
    (hok : ∀ r s', x s = .ok r s' → Change s s' ∧ s'.flushed = s.flushed)
    (herror : ∀ e s', x s = .error e s' → s' = s)
    (hc : ∀ worldId actor force outcomes, c ≠ .reset worldId actor force outcomes) :
    Effect settings c s (finalState (x >>= fun _ => pure ()) s) := by
  have hafter : Change s (finalState x s) ∧ (finalState x s).flushed = s.flushed := by
    cases h : x s with
    | ok r s' =>
      rw [finalState_of_ok h]
      exact hok r s' h
    | error e s' =>
      rw [finalState_of_error h, herror e s' h]
      exact ⟨.same (.refl s), rfl⟩
  rw [finalState_bind_pure]
  refine ⟨hafter.1, .inl hafter.2, ?_⟩
  rintro world ⟨actor, force, outcomes, hreset, -⟩
  exact absurd hreset (hc _ _ _ _)

theorem archive_error {worldId : String} (h : archiveWorldRegistry now worldId s = .error e s') :
    s' = s :=
  (run_atomic_error.1 h).1

theorem delete_error {worldId : String} (h : deleteWorldRegistry now worldId s = .error e s') :
    s' = s :=
  (run_atomic_error.1 h).1

/-- A reset on the current row of its world, or on none. -/
theorem effect_reset {worldId actor : String} {force : Bool} {outcomes : ResetOutcomes} :
    SameRegistry s
        (finalState (worldCall settings (now, .reset worldId actor force outcomes)) s) ∧
      Effect settings (.reset worldId actor force outcomes) s
        (finalState (worldCall settings (now, .reset worldId actor force outcomes)) s) := by
  cases hget : s.registry.get? worldId with
  | none =>
    have hfinal : finalState (worldCall settings (now, .reset worldId actor force outcomes)) s =
        s := by
      simp only [worldCall, finalState, run_get_bind, hget, run_throw]
    rw [hfinal]
    refine ⟨.refl s, .same (.refl s), .inl rfl, ?_⟩
    rintro world ⟨actor', force', outcomes', hreset, hworld, -⟩
    cases hreset
    rw [hget] at hworld
    cases hworld
  | some world =>
    obtain rfl := (Table.get?_eq_some.1 hget).2
    have hfinal : finalState (worldCall settings
        (now, .reset world.worldId actor force outcomes)) s = finalState
          (resetSimulationWorldToZeroStart settings now world actor force outcomes) s := by
      rw [← finalState_bind_pure (s := s) (b := ())
        (x := resetSimulationWorldToZeroStart settings now world actor force outcomes)]
      simp only [worldCall, finalState, run_get_bind, hget]
    rw [hfinal]
    rcases @finalState_reset settings s now world actor force outcomes hget with
      ⟨hreach, hreset⟩ | ⟨hstop, hreset⟩
    · refine ⟨hreset.same, .same hreset.same, .inr ⟨world, ?_, hreset.flushed⟩, ?_⟩
      · exact ⟨actor, force, outcomes, rfl, hget, hreach⟩
      rintro other ⟨actor', force', outcomes', hcall, hother, -⟩
      rw [← (WorldCall.reset.inj hcall).1, hget] at hother
      rw [← Option.some.inj hother]
      exact hreset.flushed
    · refine ⟨hreset.same, .same hreset.same, .inl (by rw [hreset.flushed, List.append_nil]), ?_⟩
      rintro other ⟨actor', force', outcomes', hcall, hother, hreach⟩
      obtain ⟨hid, -, rfl, rfl⟩ := WorldCall.reset.inj hcall
      rw [← hid, hget] at hother
      rw [← Option.some.inj hother] at hreach
      exact absurd hreach hstop

/-- **One call.** -/
theorem effect_call (settings : WorldSettings) (s : WorldSite) (c : Nat × WorldCall) :
    Effect settings c.2 s (finalState (worldCall settings c) s) := by
  obtain ⟨now, c⟩ := c
  cases c with
  | create worldId name worldType databaseAlias databaseName =>
    apply effect_of_lifecycle (x := createWorldRegistry settings now worldId name worldType
      databaseAlias databaseName)
    · exact fun _ _ h => create_change h
    · exact fun _ _ h => create_error h
    · exact fun _ _ _ _ h => WorldCall.noConfusion h
  | archive worldId =>
    apply effect_of_lifecycle (x := archiveWorldRegistry now worldId)
    · exact fun _ _ h => archive_change h
    · exact fun _ _ h => archive_error h
    · exact fun _ _ _ _ h => WorldCall.noConfusion h
  | delete worldId =>
    apply effect_of_lifecycle (x := deleteWorldRegistry now worldId)
    · exact fun _ _ h => delete_change h
    · exact fun _ _ h => delete_error h
    · exact fun _ _ _ _ h => WorldCall.noConfusion h
  | reset worldId actor force outcomes => exact effect_reset.2

theorem error_of_bind_pure {α : Type} {x : EStateM WorldError WorldSite α}
    (h : (x >>= fun _ => pure ()) s = .error e s') : x s = .error e s' := by
  rcases run_bind_error.1 h with h | ⟨a, s₁, -, h⟩
  · exact h
  · cases h

/-- A raised call leaves every row as it is apart from `updated_at`. -/
theorem same_of_error {c : Nat × WorldCall} (h : worldCall settings c s = .error e s') :
    SameRegistry s s' := by
  obtain ⟨now, c⟩ := c
  cases c with
  | create worldId name worldType databaseAlias databaseName =>
    rw [create_error (error_of_bind_pure h)]
    exact .refl s
  | archive worldId =>
    rw [archive_error (error_of_bind_pure h)]
    exact .refl s
  | delete worldId =>
    rw [delete_error (error_of_bind_pure h)]
    exact .refl s
  | reset worldId actor force outcomes =>
    have hsame := (@effect_reset settings s now worldId actor force outcomes).1
    rw [finalState_of_error h] at hsame
    exact hsame

/-! ## What one call keeps -/

theorem AliasesDistinct.put (h : AliasesDistinct s.registry) (hput : Put s s' w)
    (hw : w.status ≠ .deleted → ∀ v ∈ s.registry.rows, v.worldId ≠ w.worldId →
      v.status ≠ .deleted → v.databaseAlias ≠ w.databaseAlias) : AliasesDistinct s'.registry := by
  intro u hu v hv hulive hvlive halias
  rcases hput u hu with rfl | ⟨hu, hune⟩ <;> rcases hput v hv with rfl | ⟨hv, hvne⟩
  · rfl
  · exact absurd halias.symm (hw hulive v hv hvne hvlive)
  · exact absurd halias (hw hvlive u hu hune hulive)
  · exact h u hu v hv hulive hvlive halias

theorem AliasesDistinct.change (h : AliasesDistinct s.registry) (hchange : Change s s') :
    AliasesDistinct s'.registry := by
  cases hchange with
  | same hsame =>
    intro u hu v hv hulive hvlive halias
    obtain ⟨u', hu', hueq⟩ := hsame.exists_mem hu
    obtain ⟨v', hv', hveq⟩ := hsame.exists_mem hv
    obtain ⟨huid, -, hualias, hustatus⟩ := unstamped_fields hueq
    obtain ⟨hvid, -, hvalias, hvstatus⟩ := unstamped_fields hveq
    rw [← huid, ← hvid]
    refine h u' hu' v' hv' ?_ ?_ ?_
    · rw [hustatus]
      exact hulive
    · rw [hvstatus]
      exact hvlive
    · rw [hualias, hvalias, halias]
  | registered w hput hactive hfresh => exact h.put hput fun _ => hfresh
  | archived v w hput hv hid htype halias hopen hbefore hafter =>
    refine h.put hput fun _ u hu hne hulive hsame => hne ?_
    rw [hid]
    refine h u hu v hv hulive ?_ (hsame.trans halias)
    rw [hbefore]
    decide
  | deleted v w hput hv hid htype hopen hbefore hafter =>
    exact h.put hput fun hlive => absurd hafter hlive

/-- A guarded world that is not active after a call was guarded and not active before it. -/
theorem guarded_change (hchange : Change s s') (hw : w ∈ s'.registry.rows)
    (hstatus : w.status ≠ .active)
    (hguarded : Guarded w ∨ ∃ v ∈ s.registry.rows, v.worldId = w.worldId ∧ Guarded v) :
    ∃ v ∈ s.registry.rows, v.worldId = w.worldId ∧ v.status = w.status ∧ Guarded v := by
  -- a row that stays is the row that was there
  have hstays : w ∈ s.registry.rows →
      ∃ v ∈ s.registry.rows, v.worldId = w.worldId ∧ v.status = w.status ∧ Guarded v := by
    intro hmem
    refine ⟨w, hmem, rfl, rfl, ?_⟩
    rcases hguarded with h | ⟨v, hv, hid, h⟩
    · exact h
    · rw [← s.registry.eq_of_pk hv hmem hid]
      exact h
  -- a row that is archived or deleted is not guarded
  have hclosed : ∀ v ∈ s.registry.rows, ¬ Guarded v → w.worldId = v.worldId →
      w.worldType = v.worldType → False := by
    intro v hv hopen hid htype
    rcases hguarded with h | ⟨u, hu, huid, h⟩
    · apply hopen
      unfold Guarded at h ⊢
      rw [← hid, ← htype]
      exact h
    · rw [s.registry.eq_of_pk hu hv (huid.trans hid)] at h
      exact hopen h
  cases hchange with
  | same hsame =>
    obtain ⟨v, hv, heq⟩ := hsame.exists_mem hw
    obtain ⟨hid, htype, -, hsts⟩ := unstamped_fields heq
    refine ⟨v, hv, hid, hsts, ?_⟩
    rcases hguarded with h | ⟨u, hu, huid, h⟩
    · unfold Guarded at h ⊢
      rw [hid, htype]
      exact h
    · rw [s.registry.eq_of_pk hv hu (hid.trans huid.symm)]
      exact h
  | registered u hput hactive hfresh =>
    rcases hput w hw with rfl | ⟨hmem, -⟩
    · exact absurd hactive hstatus
    · exact hstays hmem
  | archived v u hput hv hid htype halias hopen hbefore hafter =>
    rcases hput w hw with rfl | ⟨hmem, -⟩
    · exact (hclosed v hv hopen hid htype).elim
    · exact hstays hmem
  | deleted v u hput hv hid htype hopen hbefore hafter =>
    rcases hput w hw with rfl | ⟨hmem, -⟩
    · exact (hclosed v hv hopen hid htype).elim
    · exact hstays hmem

/-- A world that is deleted after a call was archived or deleted before it. -/
theorem deleted_change (hchange : Change s s') (hw : w ∈ s'.registry.rows)
    (hdeleted : w.status = .deleted) : ∃ v ∈ s.registry.rows, v.worldId = w.worldId ∧
      (v.status = .archived ∨ v.status = .deleted) := by
  cases hchange with
  | same hsame =>
    obtain ⟨v, hv, heq⟩ := hsame.exists_mem hw
    obtain ⟨hid, -, -, hstatus⟩ := unstamped_fields heq
    exact ⟨v, hv, hid, .inr (hstatus.trans hdeleted)⟩
  | registered u hput hactive hfresh =>
    rcases hput w hw with rfl | ⟨hmem, -⟩
    · rw [hactive] at hdeleted
      cases hdeleted
    · exact ⟨w, hmem, rfl, .inr hdeleted⟩
  | archived v u hput hv hid htype halias hopen hbefore hafter =>
    rcases hput w hw with rfl | ⟨hmem, -⟩
    · rw [hafter] at hdeleted
      cases hdeleted
    · exact ⟨w, hmem, rfl, .inr hdeleted⟩
  | deleted v u hput hv hid htype hopen hbefore hafter =>
    rcases hput w hw with rfl | ⟨hmem, -⟩
    · exact ⟨v, hv, hid.symm, .inl hbefore⟩
    · exact ⟨w, hmem, rfl, .inr hdeleted⟩

/-- The world is `realworld` itself, or has the alias of a deleted `realworld`. -/
def SharesRealworld (registry : WorldTable) (world : WorldRegistry) : Prop :=
  world.worldId = defaultRealworldId ∨ ∃ v ∈ registry.rows, v.worldId = defaultRealworldId ∧
    v.status = .deleted ∧ v.databaseAlias = world.databaseAlias

/-- **Flushes.** A reset that reaches its flush hits a forbidden alias exactly if its world shares
that of `realworld`: the checks keep the control alias and the real worlds away, by their type. -/
theorem forbidden_iff (hrouting : settings.worldDatabaseRoutingEnabled = true)
    (hdistinct : AliasesDistinct s.registry) {c : WorldCall}
    (hflush : FlushesWorld settings s c world) :
    Forbidden s.registry (sourceAliasForWorld settings world) ↔
      SharesRealworld s.registry world := by
  obtain ⟨actor, force, outcomes, -, hget, hreach⟩ := hflush
  obtain ⟨hmem, -⟩ := Table.get?_eq_some.1 hget
  have hcheck := hreach.resettable
  unfold checkResettable at hcheck
  obtain ⟨htype, hcheck⟩ := rejectIf_bind_eq_ok.1 hcheck
  obtain ⟨hstatus, hcheck⟩ := rejectIf_bind_eq_ok.1 hcheck
  have hcontrol := rejectIf_eq_ok.1 hcheck
  rw [not_not] at htype hstatus
  have halias : sourceAliasForWorld settings world = world.databaseAlias := if_pos hrouting
  have hlive : world.status ≠ .deleted := by
    rw [hstatus]
    decide
  rw [halias] at hcontrol ⊢
  constructor
  · rintro (hctl | ⟨v, hv, hsame, hguard⟩)
    · exact absurd ⟨hrouting, hctl⟩ hcontrol
    · by_cases hdeleted : v.status = .deleted
      · rcases hguard with hreal | ⟨-, hvlive⟩
        · exact .inr ⟨v, hv, hreal, hdeleted, hsame⟩
        · exact absurd hdeleted hvlive
      · have hid : v.worldId = world.worldId := hdistinct v hv world hmem hdeleted hlive hsame
        obtain rfl := s.registry.eq_of_pk hv hmem hid
        rcases hguard with hreal | ⟨hvtype, -⟩
        · exact .inl hreal
        · rw [htype] at hvtype
          cases hvtype
  · rintro (hreal | ⟨v, hv, hreal, -, hsame⟩)
    · exact .inr ⟨world, hmem, rfl, .inl hreal⟩
    · exact .inr ⟨v, hv, hsame, .inl hreal⟩

/-! ## Runs -/

/-- What isolation asks of one call. -/
structure IsolatedStep (settings : WorldSettings) (s : WorldSite) (c : Nat × WorldCall) : Prop where
  distinct : AliasesDistinct (finalState (worldCall settings c) s).registry
  flushes : ∃ extra, (finalState (worldCall settings c) s).flushed = s.flushed ++ extra ∧
    ∀ databaseAlias ∈ extra, ¬ Forbidden s.registry databaseAlias
  guarded : ∀ w ∈ (finalState (worldCall settings c) s).registry.rows, w.status ≠ .active →
    (Guarded w ∨ ∃ v ∈ s.registry.rows, v.worldId = w.worldId ∧ Guarded v) →
      ∃ v ∈ s.registry.rows, v.worldId = w.worldId ∧ v.status = w.status ∧ Guarded v
  deleted : ∀ w ∈ (finalState (worldCall settings c) s).registry.rows, w.status = .deleted →
    ∃ v ∈ s.registry.rows, v.worldId = w.worldId ∧ (v.status = .archived ∨ v.status = .deleted)
  raised : ∀ e s', worldCall settings c s = .error e s' → SameRegistry s s'

/-- What isolation asks of a run: of every call in it, and that a real world which starts active
stays active. -/
structure RunIsolated (settings : WorldSettings) (s : WorldSite) (cs : List (Nat × WorldCall)) :
    Prop where
  step : ∀ before c after, cs = before ++ c :: after →
    IsolatedStep settings (runTx (worldCall settings) s before) c
  active : (∀ w ∈ s.registry.rows, Guarded w → w.status = .active) → ∀ before after,
    cs = before ++ after → ∀ w ∈ (runTx (worldCall settings) s before).registry.rows,
      Guarded w → w.status = .active

theorem runTx_aliasesDistinct (h : AliasesDistinct s.registry) (cs : List (Nat × WorldCall)) :
    AliasesDistinct (runTx (worldCall settings) s cs).registry := by
  apply runTx_invariant (I := fun t : WorldSite => AliasesDistinct t.registry)
  · intro c t ht
    exact ht.change (effect_call settings t c).change
  · exact h

theorem runTx_active (h : ∀ w ∈ s.registry.rows, Guarded w → w.status = .active)
    (cs : List (Nat × WorldCall)) :
    ∀ w ∈ (runTx (worldCall settings) s cs).registry.rows, Guarded w → w.status = .active := by
  apply runTx_invariant
    (I := fun t : WorldSite => ∀ w ∈ t.registry.rows, Guarded w → w.status = .active)
  · intro c t ht w hw hguarded
    by_contra hstatus
    obtain ⟨v, hv, -, hsame, hv'⟩ := guarded_change (effect_call settings t c).change hw hstatus
      (.inl hguarded)
    rw [ht v hv hv'] at hsame
    exact hstatus hsame.symm
  · exact h

/-- `realworld` and one simulation, as the first migration registers them. -/
def firstRegistry : WorldTable where
  rows := [
    ⟨"realworld", "realworld", .real, "realworld", "realworld", .active, 0, 0, none⟩,
    ⟨"simulation0001", "simulation0001", .simulation, "simulation0001", "simulation0001", .active,
      0, 0, none⟩]
  pkUnique := by decide
  altUnique := List.nodup_nil

def firstSite : WorldSite := ⟨firstRegistry, [], []⟩

def firstSettings : WorldSettings where
  databases := [("default", "control"), ("realworld", "realworld"),
    ("simulation0001", "simulation0001")]
  worldDatabaseAliases := ["realworld", "simulation0001"]
  worldDatabaseRoutingEnabled := true

/-- Every step of a reset goes well. -/
def smoothReset : ResetOutcomes where
  countBefore := .ok []
  unresolved := .ok none
  running := .ok none
  clean := .ok 0
  flush := .ok ()
  seed := .ok ()
  countAfter := .ok []
  rebuild := .ok "skipped_not_configured"
  log := .ok ()

theorem firstSite_aliasesDistinct : AliasesDistinct firstSite.registry := by
  unfold AliasesDistinct
  decide

/-- `create_world realworld`, whose type is a simulation unless one is given, and a reset. -/
def realworldRun : List (Nat × WorldCall) := [
  (1, .create "realworld" "" "simulation" "realworld" ""),
  (2, .reset "realworld" "admin" false smoothReset)]

end LiveOs.Worlds
