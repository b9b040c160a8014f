import Mathlib.Data.List.MinMax
import LiveOs.Archive.Services
import LiveOs.Planning.Verify.Baseline

/-!
# One disposition for a run

A snapshot and a disposition are rows of two tables with the same unique key. Discarding looks for a
snapshot first, but archiving does not look for a disposition, so the tables agree as long as no
discarded run is archived.
-/

namespace LiveOs.Archive

open Lib EventLedger Planning Roles

variable {lib : Libraries} {py : Python} {env : ArchiveEnv} {s s' : ArchiveState} {world : World}
  {run : RunRow}

/-! ## Rounds -/

/-- The next round is later than the round of every disposition. -/
theorem lt_nextSimulationRound {d : Disposition} (hd : d ∈ s.dispositions.rows) :
    d.simulationRound < nextSimulationRound s d.sourceWorldId := by
  refine Nat.lt_succ_of_le (List.le_max_of_le' 0 (List.mem_append_left _ ?_) le_rfl)
  exact List.mem_map_of_mem (List.mem_filter.2 ⟨hd, decide_eq_true rfl⟩)

theorem nextSimulationRound_pos (worldId : String) : 0 < nextSimulationRound s worldId :=
  Nat.succ_pos _

theorem roundOr_none {worldId : String} :
    roundOr s worldId none = nextSimulationRound s worldId := rfl

theorem roundOr_some {worldId : String} {round : Nat} (h : 0 < round) :
    roundOr s worldId (some round) = round := by
  cases round with
  | zero => cases h
  | succ n => rfl

/-! ## The rows of a run -/

/-- The key that snapshots and dispositions have in common. -/
def Snapshot.source (p : Snapshot) : String × String := (p.sourceWorldId, p.sourceRunId)

def Disposition.source (d : Disposition) : String × String := (d.sourceWorldId, d.sourceRunId)

theorem dispositionOf_eq_some {d : Disposition} (h : dispositionOf s world run = some d) :
    d ∈ s.dispositions.rows ∧ d.source = (world.worldId, run.runId) := by
  have htest := List.find?_some h
  simp only [Bool.and_eq_true, decide_eq_true_eq] at htest
  exact ⟨List.mem_of_find?_eq_some h, Prod.ext htest.1 htest.2⟩

theorem dispositionOf_eq_none :
    dispositionOf s world run = none ↔
      ∀ d ∈ s.dispositions.rows, d.source ≠ (world.worldId, run.runId) := by
  unfold dispositionOf
  rw [List.find?_eq_none]
  simp [Disposition.source]

theorem snapshotOf_eq_some {p : Snapshot} (h : snapshotOf s world run = some p) :
    p ∈ s.snapshots.rows ∧ p.source = (world.worldId, run.runId) := by
  have htest := List.find?_some h
  simp only [Bool.and_eq_true, decide_eq_true_eq] at htest
  exact ⟨List.mem_of_find?_eq_some h, Prod.ext htest.1 htest.2⟩

theorem snapshotOf_eq_none :
    snapshotOf s world run = none ↔
      ∀ p ∈ s.snapshots.rows, p.source ≠ (world.worldId, run.runId) := by
  unfold snapshotOf
  rw [List.find?_eq_none]
  simp [Snapshot.source]

theorem recordDisposition_of_some {decision : Decision} {d : Disposition}
    (h : dispositionOf s world run = some d) :
    recordDisposition py env s world run decision = .ok (s, d) := by
  rw [recordDisposition, h]

/-- A new disposition is one more row. -/
theorem recordDisposition_of_none {decision : Decision} {r : ArchiveState × Disposition}
    (hnone : dispositionOf s world run = none)
    (h : recordDisposition py env s world run decision = .ok r) : ∃ dispositionId,
      r.2 = newDisposition py env s world run decision dispositionId ∧
      r.1.snapshots = s.snapshots ∧ r.1.dispositions.rows = s.dispositions.rows ++ [r.2] := by
  rw [recordDisposition, hnone] at h
  obtain ⟨dispositionId, -, h⟩ := bind_eq_ok.1 h
  obtain ⟨dispositions, hinsert, h⟩ := bind_eq_ok.1 h
  obtain rfl := pure_eq_ok.1 h
  exact ⟨dispositionId, rfl, rfl, (Table.insert_ok hinsert).1⟩

/-- Recording a disposition touches nothing else, and finds it again. -/
theorem recordDisposition_frame {decision : Decision} {r : ArchiveState × Disposition}
    (h : recordDisposition py env s world run decision = .ok r) :
    r.1.snapshots = s.snapshots ∧ r.1.items = s.items ∧ r.1.files = s.files ∧
      dispositionOf r.1 world run = some r.2 := by
  cases hd : dispositionOf s world run with
  | some d =>
    rw [recordDisposition_of_some hd] at h
    obtain rfl := Except.ok.inj h
    exact ⟨rfl, rfl, rfl, hd⟩
  | none =>
    rw [recordDisposition, hd] at h
    obtain ⟨dispositionId, -, h⟩ := bind_eq_ok.1 h
    obtain ⟨dispositions, hinsert, h⟩ := bind_eq_ok.1 h
    obtain rfl := pure_eq_ok.1 h
    refine ⟨rfl, rfl, rfl, ?_⟩
    rw [dispositionOf, (Table.insert_ok hinsert).1, List.find?_append,
      show s.dispositions.rows.find? (fun d => d.sourceWorldId = world.worldId &&
        d.sourceRunId = run.runId) = none from hd, Option.none_or]
    refine List.find?_cons_of_pos ?_
    simp only [newDisposition, decide_true, Bool.and_self]

/-! ## The law -/

/-- Snapshots and dispositions agree. -/
structure OneDisposition (s : ArchiveState) : Prop where
  /-- A run has at most one disposition and at most one snapshot. -/
  dispositions : ∀ d ∈ s.dispositions.rows, ∀ d' ∈ s.dispositions.rows, d.source = d'.source → d = d'
  snapshots : ∀ p ∈ s.snapshots.rows, ∀ p' ∈ s.snapshots.rows, p.source = p'.source → p = p'
  /-- It is archived exactly when it has a snapshot. -/
  archived_iff : ∀ d ∈ s.dispositions.rows,
    d.disposition = .archived ↔ ∃ p ∈ s.snapshots.rows, p.source = d.source
  /-- The disposition of a run with a snapshot has its round. -/
  round : ∀ p ∈ s.snapshots.rows, ∃ d ∈ s.dispositions.rows, d.source = p.source ∧
    d.simulationRound = p.simulationRound
  /-- Different runs of a world have different rounds. -/
  rounds : ∀ d ∈ s.dispositions.rows, ∀ d' ∈ s.dispositions.rows,
    d.sourceWorldId = d'.sourceWorldId → d.sourceRunId ≠ d'.sourceRunId →
    d.simulationRound ≠ d'.simulationRound
  /-- A run is reported while it has ended, cannot go on and has neither. -/
  reported_iff : ∀ (env : ArchiveEnv) (world : World) (run : RunRow),
    run ∈ unresolvedFinishedRuns env s world ↔
      run ∈ (env.source world).runs.rows ∧ run.status.isFinished = true ∧
      isContinuableZeroStartObservationRun run = false ∧
      (∀ d ∈ s.dispositions.rows, d.source ≠ (world.worldId, run.runId)) ∧
      ∀ p ∈ s.snapshots.rows, p.source ≠ (world.worldId, run.runId)

/-- The part of the law that calls can break. -/
structure Agreement (s : ArchiveState) : Prop where
  archived_iff : ∀ d ∈ s.dispositions.rows,
    d.disposition = .archived ↔ ∃ p ∈ s.snapshots.rows, p.source = d.source
  round : ∀ p ∈ s.snapshots.rows, ∃ d ∈ s.dispositions.rows, d.source = p.source ∧
    d.simulationRound = p.simulationRound
  rounds : ∀ d ∈ s.dispositions.rows, ∀ d' ∈ s.dispositions.rows,
    d.sourceWorldId = d'.sourceWorldId → d.sourceRunId ≠ d'.sourceRunId →
    d.simulationRound ≠ d'.simulationRound

theorem mem_resolvedRunIds {worldId runId : String} : runId ∈ resolvedRunIds s worldId ↔
    (∃ d ∈ s.dispositions.rows, d.source = (worldId, runId)) ∨
      ∃ p ∈ s.snapshots.rows, p.source = (worldId, runId) := by
  simp only [resolvedRunIds, List.mem_append, List.mem_map, List.mem_filter, decide_eq_true_eq,
    Disposition.source, Snapshot.source, Prod.mk.injEq, and_assoc]

theorem mem_unresolvedFinishedRuns : run ∈ unresolvedFinishedRuns env s world ↔
    run ∈ (env.source world).runs.rows ∧ run.status.isFinished = true ∧
    isContinuableZeroStartObservationRun run = false ∧
    (∀ d ∈ s.dispositions.rows, d.source ≠ (world.worldId, run.runId)) ∧
    ∀ p ∈ s.snapshots.rows, p.source ≠ (world.worldId, run.runId) := by
  have hresolved : (resolvedRunIds s world.worldId).contains run.runId = false ↔
      (∀ d ∈ s.dispositions.rows, d.source ≠ (world.worldId, run.runId)) ∧
        ∀ p ∈ s.snapshots.rows, p.source ≠ (world.worldId, run.runId) := by
    rw [← Bool.not_eq_true, List.contains_iff_mem, mem_resolvedRunIds]
    push Not
    exact Iff.rfl
  simp only [unresolvedFinishedRuns, List.mem_filter, List.mem_insertionSort, Bool.and_eq_true,
    Bool.not_eq_true', hresolved]
  tauto

/-- The tables keep the rest of the law by themselves. -/
theorem Agreement.oneDisposition (h : Agreement s) : OneDisposition s where
  dispositions := fun _ hd _ hd' hsame =>
    Table.eq_of_alt _ hd hd' (congrArg some hsame) rfl
  snapshots := fun _ hp _ hp' hsame => Table.eq_of_alt _ hp hp' (congrArg some hsame) rfl
  archived_iff := h.archived_iff
  round := h.round
  rounds := h.rounds
  reported_iff := fun _ _ _ => mem_unresolvedFinishedRuns

/-- A new disposition in a round of its own. -/
theorem Agreement.rounds_concat (h : Agreement s) {d : Disposition}
    {rows : List Disposition} (hrows : rows = s.dispositions.rows ++ [d])
    (hround : d.simulationRound = nextSimulationRound s d.sourceWorldId) :
    ∀ a ∈ rows, ∀ b ∈ rows, a.sourceWorldId = b.sourceWorldId → a.sourceRunId ≠ b.sourceRunId →
      a.simulationRound ≠ b.simulationRound := by
  have hlate : ∀ a ∈ s.dispositions.rows, a.sourceWorldId = d.sourceWorldId →
      a.simulationRound < d.simulationRound := by
    intro a ha hworld
    rw [hround, ← hworld]
    exact lt_nextSimulationRound ha
  intro a ha b hb hworld hrun
  rw [hrows, List.mem_append, List.mem_singleton] at ha hb
  rcases ha with ha | rfl <;> rcases hb with hb | rfl
  · exact h.rounds a ha b hb hworld hrun
  · exact (hlate a ha hworld).ne
  · exact (hlate b hb hworld.symm).ne'
  · exact absurd rfl hrun

/-! ## Steps -/

/-- A discarded run. -/
theorem recordDiscardedDisposition_agreement {reason decidedBy : String}
    {r : ArchiveState × Disposition} (h : Agreement s)
    (hcall : recordDiscardedDisposition py env s world run reason decidedBy = .ok r) :
    Agreement r.1 := by
  obtain ⟨-, hcall⟩ := rejectIf_bind_eq_ok.1 hcall
  obtain ⟨hsnapshot, hcall⟩ := rejectIf_bind_eq_ok.1 hcall
  have hfree := snapshotOf_eq_none.1 (Option.not_isSome_iff_eq_none.1 hsnapshot)
  cases hd : dispositionOf s world run with
  | some d =>
    rw [recordDisposition_of_some hd] at hcall
    obtain rfl := Except.ok.inj hcall
    exact h
  | none =>
    obtain ⟨dispositionId, hrow, hsnapshots, hrows⟩ := recordDisposition_of_none hd hcall
    have hsource : r.2.source = (world.worldId, run.runId) := by
      rw [hrow]
      rfl
    refine ⟨?_, ?_, h.rounds_concat hrows (by rw [hrow]; rfl)⟩
    · intro d hd
      rw [hsnapshots]
      rw [hrows, List.mem_append, List.mem_singleton] at hd
      rcases hd with hd | rfl
      · exact h.archived_iff d hd
      · constructor
        · intro harchived
          rw [hrow] at harchived
          cases harchived
        · rintro ⟨p, hp, hsame⟩
          exact absurd (hsame.trans hsource) (hfree p hp)
    · intro p hp
      rw [hsnapshots] at hp
      obtain ⟨d, hd, hsame⟩ := h.round p hp
      exact ⟨d, by rw [hrows]; exact List.mem_append_left _ hd, hsame⟩

/-- What archiving a run does: the snapshot it has is kept, or a new one is written. -/
inductive ArchiveEffect (lib : Libraries) (env : ArchiveEnv) (s : ArchiveState) (world : World)
    (run : RunRow) (args : ArchiveArgs) : ArchiveState × ArchiveResult → Prop
  | kept {p : Snapshot} {s₁ : ArchiveState} {d : Disposition} :
    snapshotOf s world run = some p →
    recordArchivedDisposition lib.toPython env s world run p args.dispositionReason
      args.decidedBy = .ok (s₁, d) →
    ArchiveEffect lib env s world run args (s₁, ⟨p, false⟩)
  | written {snapshotId : String} {snapshots : SnapshotTable} {items : ItemTable}
    {s₁ : ArchiveState} {d : Disposition} :
    snapshotOf s world run = none →
    s.snapshots.insert (newSnapshot lib env s world run ((env.source world).records run.runId)
      args snapshotId) Error.integrity = .ok snapshots →
    bulkCreate s.items (normalizedItems snapshotId run ((env.source world).records run.runId)) =
      .ok items →
    recordArchivedDisposition lib.toPython env
      ⟨snapshots, items, s.dispositions, s.files ++ newFiles lib env world run
        ((env.source world).records run.runId) snapshotId⟩ world run
      (newSnapshot lib env s world run ((env.source world).records run.runId) args snapshotId)
      args.dispositionReason args.decidedBy = .ok (s₁, d) →
    ArchiveEffect lib env s world run args (s₁, ⟨newSnapshot lib env s world run
      ((env.source world).records run.runId) args snapshotId, true⟩)

theorem archiveSimulationRun_effect {runId : String} {args : ArchiveArgs}
    {r : ArchiveState × ArchiveResult}
    (h : archiveSimulationRun lib env s world runId args = .ok r) :
    ∃ run, run.runId = runId ∧
      related (env.source world).runs run.runId "SimulationRun" = .ok run ∧
      ArchiveEffect lib env s world run args r := by
  obtain ⟨run, hrun, hrest⟩ := bind_eq_ok.1 h
  clear h
  obtain ⟨-, rfl⟩ := Table.get?_eq_some.1 (related_eq_ok.1 hrun)
  refine ⟨run, rfl, hrun, ?_⟩
  cases hp : snapshotOf s world run with
  | some p =>
    rw [hp] at hrest
    obtain ⟨⟨s₁, d⟩, hrecord, hrest⟩ := bind_eq_ok.1 hrest
    obtain rfl := pure_eq_ok.1 hrest
    exact .kept hp hrecord
  | none =>
    rw [hp] at hrest
    obtain ⟨snapshotId, -, hrest⟩ := bind_eq_ok.1 hrest
    obtain ⟨-, hrest⟩ := rejectIf_bind_eq_ok.1 hrest
    obtain ⟨snapshots, hsnapshots, hrest⟩ := bind_eq_ok.1 hrest
    obtain ⟨items, hitems, hrest⟩ := bind_eq_ok.1 hrest
    obtain ⟨⟨s₁, d⟩, hrecord, hrest⟩ := bind_eq_ok.1 hrest
    obtain rfl := pure_eq_ok.1 hrest
    exact .written hp hsnapshots hitems hrecord

/-- What archiving a run without a snapshot writes, where the run has no disposition. -/
theorem archiveSimulationRun_agreement {runId : String} {args : ArchiveArgs}
    {r : ArchiveState × ArchiveResult} (h : Agreement s) (hdefault : args.simulationRound = none)
    (hkept : ∀ d ∈ s.dispositions.rows, d.source = (world.worldId, runId) →
      d.disposition = .archived)
    (hcall : archiveSimulationRun lib env s world runId args = .ok r) : Agreement r.1 := by
  obtain ⟨run, rfl, -, heffect⟩ := archiveSimulationRun_effect hcall
  cases heffect with
  | @kept p s₁ d₁ hp hrecord =>
    obtain ⟨hmem, hsource⟩ := snapshotOf_eq_some hp
    obtain ⟨d, hd, hsame, -⟩ := h.round p hmem
    cases hdisposition : dispositionOf s world run with
    | none => exact absurd (hsame.trans hsource) (dispositionOf_eq_none.1 hdisposition d hd)
    | some d' =>
      rw [recordArchivedDisposition, recordDisposition_of_some hdisposition] at hrecord
      obtain ⟨rfl, -⟩ := Prod.mk.inj (Except.ok.inj hrecord)
      exact h
  | @written snapshotId snapshots items s₁ d₁ hp hsnapshots hitems hrecord =>
    have hfree := snapshotOf_eq_none.1 hp
    have hrows := (Table.insert_ok hsnapshots).1
    have hnone : ∀ d ∈ s.dispositions.rows, d.source ≠ (world.worldId, run.runId) := by
      intro d hd hsource
      obtain ⟨p, hpmem, hsame⟩ := (h.archived_iff d hd).1 (hkept d hd hsource)
      exact hfree p hpmem (hsame.trans hsource)
    set s₀ : ArchiveState := ⟨snapshots, items, s.dispositions, s.files ++ newFiles lib env world
      run ((env.source world).records run.runId) snapshotId⟩
    have hnone₀ : dispositionOf s₀ world run = none := dispositionOf_eq_none.2 hnone
    obtain ⟨dispositionId, hrow, hsame, hdispositions⟩ := recordDisposition_of_none hnone₀ hrecord
    dsimp only at hrow hsame hdispositions
    have hround : (newSnapshot lib env s world run ((env.source world).records run.runId) args
        snapshotId).simulationRound = nextSimulationRound s world.worldId := by
      simp only [newSnapshot, hdefault, roundOr_none]
    have hd_round : d₁.simulationRound = nextSimulationRound s world.worldId := by
      rw [hrow]
      simp only [newDisposition, hround]
      exact roundOr_some (nextSimulationRound_pos world.worldId)
    have hd_source : d₁.source = (world.worldId, run.runId) := by
      rw [hrow]
      rfl
    have hd_world : d₁.sourceWorldId = world.worldId := congrArg Prod.fst hd_source
    have hsnapshots_rows : s₁.snapshots.rows = s.snapshots.rows ++
        [newSnapshot lib env s world run ((env.source world).records run.runId) args
          snapshotId] := by
      rw [hsame]
      exact hrows
    refine ⟨?_, ?_, h.rounds_concat hdispositions (by rw [hd_round, hd_world])⟩
    · intro d hd
      rw [hdispositions, List.mem_append, List.mem_singleton] at hd
      rw [hsnapshots_rows]
      rcases hd with hd | rfl
      · rw [h.archived_iff d hd]
        constructor
        · rintro ⟨p, hpmem, hsource⟩
          exact ⟨p, List.mem_append_left _ hpmem, hsource⟩
        · rintro ⟨p, hpmem, hsource⟩
          rcases List.mem_append.1 hpmem with hpmem | hpmem
          · exact ⟨p, hpmem, hsource⟩
          · obtain rfl := List.mem_singleton.1 hpmem
            exact absurd hsource.symm (hnone d hd)
      · refine ⟨fun _ => ⟨_, List.mem_append_right _ (List.mem_singleton_self _), ?_⟩, fun _ => ?_⟩
        · exact hd_source.symm
        · rw [hrow]
          rfl
    · intro p hpmem
      rw [hsnapshots_rows, List.mem_append, List.mem_singleton] at hpmem
      rw [hdispositions]
      rcases hpmem with hpmem | rfl
      · obtain ⟨d, hd, hsource, hsame_round⟩ := h.round p hpmem
        exact ⟨d, List.mem_append_left _ hd, hsource, hsame_round⟩
      · exact ⟨d₁, List.mem_append_right _ (List.mem_singleton_self _), hd_source,
          hd_round.trans hround.symm⟩

/-- The call leaves the round to the service. -/
def DefaultRound (c : WorldCall) : Prop :=
  match c.call with
  | .archive _ args => args.simulationRound = none
  | .discard .. => True

/-- The call does not archive a discarded run. -/
def ArchivesKept (s : ArchiveState) (c : WorldCall) : Prop :=
  match c.call with
  | .archive runId _ => ∀ d ∈ s.dispositions.rows, d.source = (c.world.worldId, runId) →
      d.disposition = .archived
  | .discard .. => True

theorem archiveStep_agreement {c : WorldCall} (h : Agreement s) (hdefault : DefaultRound c)
    (hkept : ArchivesKept s c) (hstep : archiveStep lib s c = .ok s') : Agreement s' := by
  obtain ⟨env, world, call⟩ := c
  cases call with
  | archive runId args =>
    obtain ⟨r, hcall, hrest⟩ := bind_eq_ok.1 hstep
    obtain rfl := pure_eq_ok.1 hrest
    exact archiveSimulationRun_agreement h hdefault hkept hcall
  | discard run reason decidedBy =>
    obtain ⟨r, hcall, hrest⟩ := bind_eq_ok.1 hstep
    obtain rfl := pure_eq_ok.1 hrest
    exact recordDiscardedDisposition_agreement h hcall

theorem agreement_of_empty (hsnapshots : s.snapshots.rows = [])
    (hdispositions : s.dispositions.rows = []) : Agreement s where
  archived_iff := fun _ hd => absurd (hdispositions ▸ hd) List.not_mem_nil
  round := fun _ hp => absurd (hsnapshots ▸ hp) List.not_mem_nil
  rounds := fun _ hd => absurd (hdispositions ▸ hd) List.not_mem_nil

/-- **One disposition for a run.** In every history of calls with default rounds that archives no
discarded run, the law holds in every state on the way. -/
theorem archiveRun_oneDisposition (lib : Libraries) {s : ArchiveState}
    (hsnapshots : s.snapshots.rows = []) (hdispositions : s.dispositions.rows = [])
    {cs : List WorldCall} (hdefault : ∀ c ∈ cs, DefaultRound c)
    (hkept : EachCall (archiveStep lib) ArchivesKept s cs) (before after : List WorldCall)
    (hcs : cs = before ++ after) : OneDisposition (runCalls (archiveStep lib) s before) := by
  subst hcs
  have hbefore := hkept.of_append.1
  have hrounds : EachCall (archiveStep lib) (fun s c => DefaultRound c ∧ ArchivesKept s c) s
      before := hbefore.and_forall fun c hc => hdefault c (List.mem_append_left _ hc)
  have hinv := EachCall.invariant
    (fun s c s' h hok hstep => archiveStep_agreement h hok.1 hok.2 hstep)
    (agreement_of_empty hsnapshots hdispositions) hrounds
  exact hinv.oneDisposition

/-! ## A rehearsal world -/

def rehearsalRun (runId : String) : RunRow where
  runId := runId
  status := .failed
  startedAt := some 0
  endedAt := some 60
  failureSummary := ""
  planRevisionId := "pilot-rev-v0_0_1"
  metadata := .obj []
  payload := .obj []

/-- A world with two failed runs that left no records. -/
def rehearsalDb : SourceDb where
  runs := ⟨[rehearsalRun "run-1", rehearsalRun "run-2"], by decide, by decide⟩
  records := fun _ => ⟨[], [], [], [], [], []⟩
  models := []
  sorted := .nil
  name := "rehearsal"
  migrations := .obj []

def rehearsalEnv (draw : String) : ArchiveEnv where
  now := 120
  snapshotDraws := [draw]
  dispositionDraws := [draw]
  routing := false
  databases := fun _ => rehearsalDb
  archiveRoot := "/archives"
  onDisk := fun _ => false
  codeVersion := ""
  controlMigrations := .obj []

def rehearsalWorld : World := ⟨"rehearsal", "simulation", "default", "rehearsal"⟩

/-- Libraries for histories in which no text is read back. -/
def rehearsalLibraries : Libraries where
  toPython := textPython
  digest := fun _ => ""
  loads := fun _ => .ok (.obj [])
  dumps := fun _ => "{}"
  report := fun _ => ""

def archiveCall (draw runId : String) : WorldCall :=
  ⟨rehearsalEnv draw, rehearsalWorld, .archive runId {}⟩

def discardCall (draw runId : String) : WorldCall :=
  ⟨rehearsalEnv draw, rehearsalWorld, .discard (rehearsalRun runId) "nothing to keep" ""⟩

def emptyArchive : ArchiveState := ⟨.empty, .empty, .empty, []⟩

instance (s : ArchiveState) : ∀ c, Decidable (ArchivesKept s c)
  | ⟨_, world, .archive runId _⟩ => inferInstanceAs (Decidable (∀ d ∈ s.dispositions.rows,
      d.source = (world.worldId, runId) → d.disposition = .archived))
  | ⟨_, _, .discard ..⟩ => isTrue trivial

/-- One run is archived, then twice more to no effect, and the other is discarded. -/
theorem archiveRun_oneDisposition_rehearsal : OneDisposition (runCalls
    (archiveStep rehearsalLibraries) emptyArchive [archiveCall "a" "run-1", discardCall "b" "run-1",
      discardCall "c" "run-2", archiveCall "d" "run-1"]) :=
  archiveRun_oneDisposition rehearsalLibraries rfl rfl
    (by
      intro c hc
      simp only [List.mem_cons, List.not_mem_nil, or_false] at hc
      rcases hc with rfl | rfl | rfl | rfl <;> trivial)
    (by decide +kernel) _ [] (List.append_nil _).symm

/-- A run that was discarded is archived: it has a snapshot, and its disposition still says that
it was discarded. -/
theorem archiveRun_discarded : ¬ OneDisposition (runCalls (archiveStep rehearsalLibraries)
    emptyArchive [discardCall "a" "run-1", archiveCall "b" "run-1"]) := by
  intro h
  have hrows : ∃ d ∈ (runCalls (archiveStep rehearsalLibraries) emptyArchive
      [discardCall "a" "run-1", archiveCall "b" "run-1"]).dispositions.rows,
      d.disposition ≠ .archived ∧ ∃ p ∈ (runCalls (archiveStep rehearsalLibraries) emptyArchive
        [discardCall "a" "run-1", archiveCall "b" "run-1"]).snapshots.rows,
        p.source = d.source := by decide +kernel
  obtain ⟨d, hd, hdiscarded, hsnapshot⟩ := hrows
  exact hdiscarded ((h.archived_iff d hd).2 hsnapshot)

end LiveOs.Archive
