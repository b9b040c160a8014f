import LiveOs.Lib.Window
import LiveOs.ZeroStart.Verify.Log

/-!
# Timetables

The specs of every window up to a horizon come from one plan: the indices and the hours of the
applications stay, and only the screening hours are clipped to the window. The logs of consecutive
windows follow from the plan.
-/

namespace LiveOs.ZeroStart

open Lib

/-- An application to come, with its spec in a window that ends at the given hour. -/
structure Planned (σ : Type) where
  index : Nat
  hours : TimedItem
  spec : Nat → σ

/-- The specs of the windows up to the horizon follow one plan. -/
structure Timetable {σ δ : Type} (kind : SpecKind σ δ) (specs : Nat → List σ) (horizon : Nat) where
  plan : List (Planned σ)
  specs_eq : ∀ stop ≤ horizon,
    specs stop = (plan.filter fun x => x.hours.Known stop).map fun x => x.spec stop
  index_eq : ∀ x ∈ plan, ∀ stop, kind.index (x.spec stop) = x.index
  apply_eq : ∀ x ∈ plan, ∀ stop, kind.applyHour (x.spec stop) = x.hours.opens
  screen_eq : ∀ x ∈ plan, ∀ stop, x.hours.Known stop →
    kind.screenHour (x.spec stop) = x.hours.handledAt stop
  entry_eq : ∀ x ∈ plan, ∀ stop stop' hour,
    kind.entry (x.spec stop) hour = kind.entry (x.spec stop') hour
  numbered : (plan.map Planned.index).Nodup
  ordered : ∀ x ∈ plan, x.hours.opens ≤ x.hours.due

/-- What consecutive windows screen. -/
def SpecKind.screensOver {σ δ : Type} (kind : SpecKind σ δ) (specs : Nat → List σ) :
    Nat → List Nat → List (Nat × HistoryEntry δ)
  | _, [] => []
  | start, hours :: rest =>
    (List.range' start hours).flatMap (kind.screensAt (specs (start + hours))) ++
      kind.screensOver specs (start + hours) rest

theorem flatMap_range'_single {β : Type} (f : Nat → β) (k : Nat) : ∀ start hours : Nat,
    (List.range' start hours).flatMap (fun t => if k = t then [f t] else []) =
      if start ≤ k ∧ k < start + hours then [f k] else []
  | start, 0 => by
    rw [if_neg (by omega)]
    rfl
  | start, hours + 1 => by
    rw [List.range'_succ, List.flatMap_cons, flatMap_range'_single f k (start + 1) hours]
    by_cases hk : k = start
    · subst hk
      rw [if_pos rfl, if_neg (by omega), if_pos (by omega), List.append_nil]
    · rw [if_neg hk, List.nil_append]
      by_cases hin : start + 1 ≤ k ∧ k < start + 1 + hours
      · rw [if_pos hin, if_pos (by omega)]
      · rw [if_neg hin, if_neg (by omega)]

namespace Timetable

variable {σ δ : Type} {kind : SpecKind σ δ} {specs : Nat → List σ} {horizon : Nat}
  (T : Timetable kind specs horizon)

/-- What has been submitted before an hour. -/
def submittedBefore (hour : Nat) : List (Nat × Nat) :=
  (List.range hour).flatMap fun t =>
    (T.plan.filter fun x => x.hours.opens = t).map fun x => (x.index, t)

theorem submittedAt_eq {stop hour : Nat} (hstop : stop ≤ horizon) (hhour : hour < stop) :
    kind.submittedAt (specs stop) hour =
      (T.plan.filter fun x => x.hours.opens = hour).map fun x => (x.index, hour) := by
  rw [SpecKind.submittedAt, T.specs_eq stop hstop, List.filter_map, List.filter_filter,
    List.map_map]
  have hfilter : (T.plan.filter fun x =>
      ((fun spec => decide (kind.applyHour spec = hour)) ∘ fun x => x.spec stop) x &&
        decide (x.hours.Known stop)) = T.plan.filter fun x => x.hours.opens = hour := by
    apply List.filter_congr
    intro x hx
    rw [Function.comp_apply, T.apply_eq x hx]
    by_cases hopens : x.hours.opens = hour
    · have hknown : x.hours.Known stop := fun _ => by omega
      simp [hopens, hknown]
    · simp [hopens]
  rw [hfilter]
  apply List.map_congr_left
  intro x hx
  rw [Function.comp_apply, T.index_eq x (List.mem_of_mem_filter hx)]

theorem screensAt_eq {stop : Nat} (hstop : stop ≤ horizon) (hour : Nat) :
    kind.screensAt (specs stop) hour =
      (T.plan.filter fun x => x.hours.Known stop ∧ x.hours.handledAt stop = hour).map fun x =>
        (x.index, kind.entry (x.spec 0) hour) := by
  rw [SpecKind.screensAt, T.specs_eq stop hstop, List.filter_map, List.filter_filter,
    List.map_map]
  have hfilter : (T.plan.filter fun x =>
      ((fun spec => decide (kind.screenHour spec = hour)) ∘ fun x => x.spec stop) x &&
        decide (x.hours.Known stop)) =
      T.plan.filter fun x => x.hours.Known stop ∧ x.hours.handledAt stop = hour := by
    apply List.filter_congr
    intro x hx
    by_cases hknown : x.hours.Known stop
    · simp [T.screen_eq x hx stop hknown, hknown]
    · simp [hknown]
  rw [hfilter]
  apply List.map_congr_left
  intro x hx
  have hmem := List.mem_of_mem_filter hx
  rw [Function.comp_apply, T.index_eq x hmem, T.entry_eq x hmem stop 0]

theorem submittedBefore_succ (hour : Nat) :
    T.submittedBefore (hour + 1) = T.submittedBefore hour ++
      (T.plan.filter fun x => x.hours.opens = hour).map fun x => (x.index, hour) := by
  simp [submittedBefore, List.range_succ]

theorem mem_submittedBefore {hour i : Nat} :
    i ∈ (T.submittedBefore hour).map Prod.fst ↔
      ∃ x ∈ T.plan, x.index = i ∧ x.hours.opens < hour := by
  simp only [submittedBefore, List.mem_map, List.mem_flatMap, List.mem_range, List.mem_filter,
    decide_eq_true_eq]
  constructor
  · rintro ⟨-, ⟨t, ht, x, ⟨hx, rfl⟩, rfl⟩, rfl⟩
    exact ⟨x, hx, rfl, ht⟩
  · rintro ⟨x, hx, rfl, ht⟩
    exact ⟨_, ⟨_, ht, x, ⟨hx, rfl⟩, rfl⟩, rfl⟩

theorem submittedBefore_nodup (hour : Nat) : ((T.submittedBefore hour).map Prod.fst).Nodup := by
  induction hour with
  | zero => exact List.nodup_nil
  | succ hour ih =>
    rw [submittedBefore_succ, List.map_append, List.map_map, List.nodup_append]
    refine ⟨ih, ?_, ?_⟩
    · exact (List.filter_sublist.map _).nodup T.numbered
    · rintro i hi j hj rfl
      obtain ⟨x, hx, hxi, hlt⟩ := T.mem_submittedBefore.1 hi
      obtain ⟨y, hy, hyi⟩ := List.mem_map.1 hj
      obtain ⟨hy, hopens⟩ := List.mem_filter.1 hy
      have hxy : x = y := List.inj_on_of_nodup_map T.numbered hx hy (hxi.trans hyi.symm)
      rw [hxy] at hlt
      rw [decide_eq_true_eq] at hopens
      omega

/-- Every hour of a window fits. -/
theorem fits {stop hour : Nat} (hstop : stop ≤ horizon) (hhour : hour < stop)
    (screens : List (Nat × HistoryEntry δ)) :
    kind.Fits (specs stop) hour ⟨T.submittedBefore hour, screens⟩ where
  numbered := by
    rw [T.submittedAt_eq hstop hhour, ← submittedBefore_succ]
    exact T.submittedBefore_nodup _
  due e he := by
    rw [T.screensAt_eq hstop] at he
    obtain ⟨x, hx, rfl⟩ := List.mem_map.1 he
    obtain ⟨hx, hdue⟩ := List.mem_filter.1 hx
    obtain ⟨hknown, hat⟩ := of_decide_eq_true hdue
    rw [T.submittedAt_eq hstop hhour, ← submittedBefore_succ, mem_submittedBefore]
    have hle := TimedItem.opens_le_handledAt (T.ordered x hx) hknown
    exact ⟨x, hx, rfl, by omega⟩

/-- The log after an hour of a window. -/
theorem after_eq {stop hour : Nat} (hstop : stop ≤ horizon) (hhour : hour < stop)
    (screens : List (Nat × HistoryEntry δ)) :
    kind.after (specs stop) hour ⟨T.submittedBefore hour, screens⟩ =
      ⟨T.submittedBefore (hour + 1), screens ++ kind.screensAt (specs stop) hour⟩ := by
  rw [SpecKind.after, submittedBefore_succ, T.submittedAt_eq hstop hhour]

/-! ## The history of a planned application -/

theorem historyIn_planned {plan : List (Planned σ)} (hnd : (plan.map Planned.index).Nodup)
    {x : Planned σ} (hx : x ∈ plan) (q : Planned σ → Bool) (f : Planned σ → HistoryEntry δ) :
    historyIn ((plan.filter q).map fun y => (y.index, f y)) x.index =
      if q x = true then [f x] else [] := by
  induction plan with
  | nil => cases hx
  | cons y rest ih =>
    obtain ⟨hy, hrest⟩ := List.nodup_cons.1 hnd
    rcases List.mem_cons.1 hx with rfl | hx
    · have hnone : historyIn ((rest.filter q).map fun y => (y.index, f y)) x.index = [] := by
        apply List.filterMap_eq_nil_iff.2
        intro e he
        obtain ⟨z, hz, rfl⟩ := List.mem_map.1 he
        have hne : z.index ≠ x.index := fun heq =>
          hy (heq ▸ List.mem_map_of_mem (List.mem_of_mem_filter hz))
        exact if_neg hne
      by_cases hq : q x = true
      · rw [List.filter_cons_of_pos hq, List.map_cons, if_pos hq]
        change historyIn ([_] ++ _) _ = _
        rw [historyIn_append, hnone]
        simp [historyIn]
      · rw [List.filter_cons_of_neg hq, if_neg hq]
        exact hnone
    · have hne : y.index ≠ x.index := fun heq => hy (heq ▸ List.mem_map_of_mem hx)
      by_cases hq : q y = true
      · rw [List.filter_cons_of_pos hq, List.map_cons]
        change historyIn ([_] ++ _) _ = _
        rw [historyIn_append, ih hrest hx]
        simp [historyIn, hne]
      · rw [List.filter_cons_of_neg hq]
        exact ih hrest hx

theorem historyIn_window {x : Planned σ} (hx : x ∈ T.plan) {stop : Nat} (hstop : stop ≤ horizon)
    (start hours : Nat) :
    historyIn ((List.range' start hours).flatMap (kind.screensAt (specs stop))) x.index =
      if x.hours.Known stop ∧ start ≤ x.hours.handledAt stop ∧
          x.hours.handledAt stop < start + hours then
        [kind.entry (x.spec 0) (x.hours.handledAt stop)] else [] := by
  have hflat : historyIn ((List.range' start hours).flatMap (kind.screensAt (specs stop)))
      x.index = (List.range' start hours).flatMap fun t =>
        historyIn (kind.screensAt (specs stop) t) x.index := by
    rw [historyIn, List.filterMap_flatMap]
    rfl
  have hat : ∀ t, historyIn (kind.screensAt (specs stop) t) x.index =
      if x.hours.Known stop ∧ x.hours.handledAt stop = t then [kind.entry (x.spec 0) t] else [] := by
    intro t
    rw [T.screensAt_eq hstop, historyIn_planned T.numbered hx]
    simp only [decide_eq_true_eq]
  simp only [hflat, hat]
  by_cases hknown : x.hours.Known stop
  · simp only [hknown, true_and]
    exact flatMap_range'_single _ _ _ _
  · simp [hknown]

/-- **The history of an application.** It has one entry for every window that handles it. -/
theorem historyIn_screensOver {x : Planned σ} (hx : x ∈ T.plan) : ∀ {start : Nat}
    {windows : List Nat}, start + windows.sum ≤ horizon →
      historyIn (kind.screensOver specs start windows) x.index =
        (x.hours.hoursHandled start windows).map (kind.entry (x.spec 0))
  | _, [], _ => rfl
  | start, hours :: rest, h => by
    rw [List.sum_cons] at h
    rw [SpecKind.screensOver, historyIn_append, T.historyIn_window hx (by omega),
      historyIn_screensOver hx (by omega), TimedItem.hoursHandled, List.map_append]
    congr 1
    split <;> rfl

end Timetable

/-! ## The two timetables -/

section

variable {σ δ : Type} (kind : SpecKind σ δ) (w : Waves) (due : Nat × Nat → Nat)
  (make : Nat → Nat × Nat → Nat → σ) (fixed : List σ) (horizon : Nat)

/-- The fixed specs, and the waves that follow them, which are clipped to the window. -/
def wavePlan : List (Planned σ) :=
  (fixed.map fun spec =>
    ⟨kind.index spec, ⟨kind.applyHour spec, kind.screenHour spec, false⟩, fun _ => spec⟩) ++
  ((w.slots (w.count horizon)).zipIdx (1 + fixed.length)).map fun s =>
    ⟨s.2, ⟨w.hourOf s.1, due s.1, true⟩, fun stop => make stop s.1 s.2⟩

variable {kind w due make fixed horizon}

theorem forall_wavePlan {P : Planned σ → Prop}
    (hfixed : ∀ spec ∈ fixed, P ⟨kind.index spec, ⟨kind.applyHour spec, kind.screenHour spec, false⟩,
      fun _ => spec⟩)
    (hwaves : ∀ slot i, P ⟨i, ⟨w.hourOf slot, due slot, true⟩, fun stop => make stop slot i⟩) :
    ∀ x ∈ wavePlan kind w due make fixed horizon, P x := by
  intro x hx
  rcases List.mem_append.1 hx with hx | hx
  · obtain ⟨spec, hspec, rfl⟩ := List.mem_map.1 hx
    exact hfixed spec hspec
  · obtain ⟨s, -, rfl⟩ := List.mem_map.1 hx
    exact hwaves s.1 s.2

theorem wavePlan_specs : ∀ stop ≤ horizon, w.grow (make stop) stop fixed (1 + fixed.length) =
    ((wavePlan kind w due make fixed horizon).filter fun x => x.hours.Known stop).map fun x =>
      x.spec stop := by
  intro stop hstop
  rw [wavePlan, w.grow_eq (w.count_mono hstop), List.filter_append, List.map_append,
    List.filter_map, List.filter_map, List.map_map, List.map_map]
  congr 1
  · rw [List.filter_eq_self.2 (fun spec _ => by simp [TimedItem.Known])]
    exact (List.map_id _).symm
  · congr 1
    apply List.filter_congr
    intro s _
    simp [TimedItem.Known]

theorem wavePlan_index (hindex : ∀ stop slot i, kind.index (make stop slot i) = i) :
    ∀ x ∈ wavePlan kind w due make fixed horizon, ∀ stop, kind.index (x.spec stop) = x.index :=
  forall_wavePlan (fun _ _ _ => rfl) fun slot i stop => hindex stop slot i

theorem wavePlan_apply
    (happly : ∀ stop slot i, kind.applyHour (make stop slot i) = w.hourOf slot) :
    ∀ x ∈ wavePlan kind w due make fixed horizon, ∀ stop,
      kind.applyHour (x.spec stop) = x.hours.opens :=
  forall_wavePlan (fun _ _ _ => rfl) fun slot i stop => happly stop slot i

theorem wavePlan_screen (hscreen : ∀ stop slot i, kind.screenHour (make stop slot i) =
      clippedTo stop (w.hourOf slot) (due slot)) :
    ∀ x ∈ wavePlan kind w due make fixed horizon, ∀ stop, x.hours.Known stop →
      kind.screenHour (x.spec stop) = x.hours.handledAt stop := by
  apply forall_wavePlan
  · exact fun _ _ _ _ => rfl
  · intro slot i stop hknown
    have hopens := hknown rfl
    simp only [TimedItem.handledAt, if_true]
    rw [hscreen, clippedTo]
    simp only at hopens
    omega

theorem wavePlan_entry (hentry : ∀ stop stop' slot i hour,
      kind.entry (make stop slot i) hour = kind.entry (make stop' slot i) hour) :
    ∀ x ∈ wavePlan kind w due make fixed horizon, ∀ stop stop' hour,
      kind.entry (x.spec stop) hour = kind.entry (x.spec stop') hour :=
  forall_wavePlan (fun _ _ _ _ _ => rfl) fun slot i stop stop' hour =>
    hentry stop stop' slot i hour

theorem wavePlan_numbered (hfixed : fixed.map kind.index = List.range' 1 fixed.length) :
    ((wavePlan kind w due make fixed horizon).map Planned.index).Nodup := by
  have hmap : ((w.slots (w.count horizon)).zipIdx (1 + fixed.length)).map Prod.snd =
      List.range' (1 + fixed.length) (w.slots (w.count horizon)).length :=
    List.zipIdx_map_snd _ _
  rw [wavePlan, List.map_append, List.map_map, List.map_map]
  change (fixed.map kind.index ++
    ((w.slots (w.count horizon)).zipIdx (1 + fixed.length)).map Prod.snd).Nodup
  rw [hfixed, hmap, List.range'_append_1]
  exact List.nodup_range'

theorem wavePlan_ordered (hdue : ∀ slot, w.hourOf slot ≤ due slot)
    (hordered : ∀ spec ∈ fixed, kind.applyHour spec ≤ kind.screenHour spec) :
    ∀ x ∈ wavePlan kind w due make fixed horizon, x.hours.opens ≤ x.hours.due :=
  forall_wavePlan hordered fun slot _ => hdue slot

end

/-- The windows of a kind of specs that come fixed and in waves. -/
def waveTimetable {σ δ : Type} (kind : SpecKind σ δ) (w : Waves) (due : Nat × Nat → Nat)
    (make : Nat → Nat × Nat → Nat → σ) (fixed : List σ) (horizon : Nat)
    (hindex : ∀ stop slot i, kind.index (make stop slot i) = i)
    (happly : ∀ stop slot i, kind.applyHour (make stop slot i) = w.hourOf slot)
    (hscreen : ∀ stop slot i, kind.screenHour (make stop slot i) =
      clippedTo stop (w.hourOf slot) (due slot))
    (hentry : ∀ stop stop' slot i hour,
      kind.entry (make stop slot i) hour = kind.entry (make stop' slot i) hour)
    (hdue : ∀ slot, w.hourOf slot ≤ due slot)
    (hfixed : fixed.map kind.index = List.range' 1 fixed.length)
    (hordered : ∀ spec ∈ fixed, kind.applyHour spec ≤ kind.screenHour spec) :
    Timetable kind (fun hours => w.grow (make hours) hours fixed (1 + fixed.length)) horizon where
  plan := wavePlan kind w due make fixed horizon
  specs_eq := wavePlan_specs
  index_eq := wavePlan_index hindex
  apply_eq := wavePlan_apply happly
  screen_eq := wavePlan_screen hscreen
  entry_eq := wavePlan_entry hentry
  numbered := wavePlan_numbered hfixed
  ordered := wavePlan_ordered hdue hordered

theorem memberDue_ge (slot : Nat × Nat) : memberWaves.hourOf slot ≤ memberDue slot := by
  unfold memberDue
  omega

theorem partnerDue_ge (slot : Nat × Nat) : partnerWaves.hourOf slot ≤ partnerDue slot := by
  unfold partnerDue
  omega

def memberTimetable (horizon : Nat) :
    Timetable memberKind applicantSpecsForHours horizon :=
  waveTimetable memberKind memberWaves memberDue grownApplicant memberApplicants horizon
    (fun _ _ _ => rfl) (fun _ _ _ => rfl) (fun _ _ _ => rfl) (fun _ _ _ _ _ => rfl)
    memberDue_ge (by decide) (by decide)

def partnerTimetable (horizon : Nat) :
    Timetable partnerKind partnerSpecsForHours horizon :=
  waveTimetable partnerKind partnerWaves partnerDue grownPartner partnerApplicants horizon
    (fun _ _ _ => rfl) (fun _ _ _ => rfl) (fun _ _ _ => rfl) (fun _ _ _ _ _ => rfl)
    partnerDue_ge (by decide) (by decide)

end LiveOs.ZeroStart
