import LiveOs.ZeroStart.Verify.Timetable
import Mathlib.Algebra.Order.BigOperators.Group.List

/-!
# Observation windows compose around the cuts

A run that is taken window by window submits the applications of one long window, at the same hours
and with the same indices. It screens them as the long window does exactly when no window ends
between an application of the waves and its screening: there the window screens the application at
its last hour, and the next one screens it again.
-/

namespace LiveOs.ZeroStart

open Lib

/-! ## Windows on one run -/

section

variable {driver : FormDriver} (outlook : Db → ZeroStartRun → Nat → Outlook) {runId newId : String}
  {before : Before runId} {horizon : Nat}

theorem partnerSpecs_reviewable {hours : Nat} {spec : PartnerSpec}
    (h : spec ∈ partnerSpecsForHours hours) : spec.reviewStatus ≠ .submitted := by
  have hprofiles : ∀ profile ∈ partnerGrowthProfiles, profile.reviewStatus ≠ .submitted := by decide
  rw [partnerSpecsForHours, partnerWaves.grow_eq (Nat.le_refl _)] at h
  rcases List.mem_append.1 h with h | h
  · exact (by decide : ∀ spec ∈ partnerApplicants, spec.reviewStatus ≠ .submitted) spec h
  · obtain ⟨s, -, rfl⟩ := List.mem_map.1 h
    exact hprofiles _ (List.get_mem _ _)

/-- The logs at the start of an hour, with what has been screened. -/
def memberLog (horizon hour : Nat) (screens : List (Nat × HistoryEntry ApplicationStatus)) :
    TrackLog ApplicationStatus :=
  ⟨(memberTimetable horizon).submittedBefore hour, screens⟩

def partnerLog (horizon hour : Nat) (screens : List (Nat × HistoryEntry PartnerStatus)) :
    TrackLog PartnerStatus :=
  ⟨(partnerTimetable horizon).submittedBefore hour, screens⟩

theorem hour_of_split {start hours hour : Nat} {done rest : List Nat}
    (h : List.range' start hours = done ++ hour :: rest) :
    hour = start + done.length ∧ done.length < hours := by
  have hlength := congrArg List.length h
  rw [List.length_range', List.length_append, List.length_cons] at hlength
  have hget : (List.range' start hours)[done.length]? = some hour := by
    rw [h, List.getElem?_append_right (Nat.le_refl _), Nat.sub_self]
    rfl
  rw [List.getElem?_range' (by omega), Option.some.injEq] at hget
  omega

/-- One window extends the logs by its hours. -/
theorem runZeroStart_ok (hd : driver.Succeeds) {run : Option ZeroStartRun} {db : Db}
    {start hours : Nat} {sm : List (Nat × HistoryEntry ApplicationStatus)}
    {sp : List (Nat × HistoryEntry PartnerStatus)} (hpos : 0 < hours)
    (hstop : start + hours ≤ horizon)
    (hstart : (beginRun newId hours run).currentHour + 1 = start)
    (h : Tracks runId before (memberLog horizon start sm) (partnerLog horizon start sp)
      { db := db, run := beginRun newId hours run }) :
    ∃ db' run', runZeroStart driver outlook newId hours run db = .ok (db', run') ∧
      run'.currentHour + 1 = (start + hours : Nat) ∧
      Tracks runId before
        (memberLog horizon (start + hours) (sm ++ (List.range' start hours).flatMap
          (memberKind.screensAt (applicantSpecsForHours (start + hours)))))
        (partnerLog horizon (start + hours) (sp ++ (List.range' start hours).flatMap
          (partnerKind.screensAt (partnerSpecsForHours (start + hours)))))
        { db := db', run := run' } := by
  obtain ⟨s, hs, hhour, htracks⟩ := @foldlM_turns Halt LoopState Nat
    (runHour driver (applicantSpecsForHours (start + hours))
      (partnerSpecsForHours (start + hours)))
    (List.range' start hours)
    (fun done s => (done ≠ [] → s.run.currentHour + 1 = (start + done.length : Nat)) ∧
      Tracks runId before
        (memberLog horizon (start + done.length) (sm ++ done.flatMap
          (memberKind.screensAt (applicantSpecsForHours (start + hours)))))
        (partnerLog horizon (start + done.length) (sp ++ done.flatMap
          (partnerKind.screensAt (partnerSpecsForHours (start + hours))))) s)
    { db := db, run := beginRun newId hours run }
    ⟨fun hne => absurd rfl hne, by simpa using h⟩ (by
      rintro done hour rest s hsplit ⟨-, hs⟩
      obtain ⟨rfl, hlt⟩ := hour_of_split hsplit
      obtain ⟨s', hrun, hcurrent, h'⟩ := runHour_ok hd hs
        ((memberTimetable horizon).fits hstop (by omega) _)
        ((partnerTimetable horizon).fits hstop (by omega) _)
        fun spec hspec => partnerSpecs_reviewable hspec
      refine ⟨s', hrun, fun _ => ?_, ?_⟩
      · rw [hcurrent, List.length_append]
        simp only [List.length_cons, List.length_nil]
        omega
      · rw [memberLog, partnerLog, (memberTimetable horizon).after_eq hstop (by omega),
          (partnerTimetable horizon).after_eq hstop (by omega)] at h'
        rw [memberLog, partnerLog, List.length_append, List.flatMap_append, List.flatMap_append,
          ← List.append_assoc, ← List.append_assoc]
        simpa [Nat.add_assoc] using h')
  rw [List.length_range'] at hhour htracks
  have hne : List.range' start hours ≠ [] := by
    rw [Ne, List.range'_eq_nil_iff]
    omega
  have hnat : ((beginRun newId hours run).currentHour + 1).toNat = start := by
    rw [hstart]
    rfl
  refine ⟨s.db, closeWindow (start + hours) hours (outlook s.db s.run (start + hours)) s.run, ?_,
    hhour hne, ?_⟩
  · simp only [runZeroStart, hnat, hs]
  · exact ⟨htracks.run_eq, htracks.members, List.forall_mem_nil _, htracks.partners,
      List.forall_mem_nil _⟩

/-- Consecutive windows extend the logs by theirs. -/
theorem runWindows_ok (hd : driver.Succeeds) {windows : List Nat} {run : ZeroStartRun} {db : Db}
    {start : Nat} {sm : List (Nat × HistoryEntry ApplicationStatus)}
    {sp : List (Nat × HistoryEntry PartnerStatus)} (hpos : ∀ hours ∈ windows, 0 < hours)
    (hstop : start + windows.sum ≤ horizon) (hstart : run.currentHour + 1 = start)
    (h : Tracks runId before (memberLog horizon start sm) (partnerLog horizon start sp)
      { db := db, run := run }) :
    ∃ db' run', runWindows driver outlook newId windows (some run) db = .ok (db', some run') ∧
      Tracks runId before
        (memberLog horizon (start + windows.sum)
          (sm ++ memberKind.screensOver applicantSpecsForHours start windows))
        (partnerLog horizon (start + windows.sum)
          (sp ++ partnerKind.screensOver partnerSpecsForHours start windows))
        { db := db', run := run' } := by
  induction windows generalizing run db start sm sp with
  | nil =>
    refine ⟨db, run, rfl, ?_⟩
    simpa [SpecKind.screensOver] using h
  | cons hours rest ih =>
    rw [List.sum_cons] at hstop
    have hbegin : Tracks runId before (memberLog horizon start sm) (partnerLog horizon start sp)
        { db := db, run := beginRun newId hours (some run) } :=
      ⟨h.run_eq, h.members, List.forall_mem_nil _, h.partners, List.forall_mem_nil _⟩
    have hcurrent : (beginRun newId hours (some run)).currentHour + 1 = start := hstart
    obtain ⟨db₁, run₁, hrun₁, hstart₁, h₁⟩ := runZeroStart_ok outlook hd
      (hpos hours List.mem_cons_self) (by omega) hcurrent hbegin
    obtain ⟨db', run', hrun', h'⟩ := ih (fun h hm => hpos h (List.mem_cons_of_mem _ hm)) (by omega)
      hstart₁ h₁
    refine ⟨db', run', ?_, ?_⟩
    · simp only [runWindows, hrun₁, ok_bind]
      exact hrun'
    · rw [List.sum_cons, SpecKind.screensOver, SpecKind.screensOver, ← List.append_assoc,
        ← List.append_assoc, ← Nat.add_assoc]
      exact h'

/-- Windows from the creation of the run on. -/
theorem runWindows_new (hd : driver.Succeeds) {before : Before newId} {db : Db}
    (hmembers : db.memberSeen = before.members) (hpartners : db.partnerSeen = before.partners)
    {windows : List Nat} (hne : windows ≠ []) (hpos : ∀ hours ∈ windows, 0 < hours)
    (hsum : windows.sum ≤ horizon) :
    ∃ db' run', runWindows driver outlook newId windows none db = .ok (db', some run') ∧
      Tracks newId before
        (memberLog horizon windows.sum (memberKind.screensOver applicantSpecsForHours 0 windows))
        (partnerLog horizon windows.sum (partnerKind.screensOver partnerSpecsForHours 0 windows))
        { db := db', run := run' } := by
  obtain ⟨hours, rest, rfl⟩ := List.exists_cons_of_ne_nil hne
  rw [List.sum_cons] at hsum
  have hstart : (beginRun newId hours none).currentHour + 1 = (0 : Nat) := rfl
  have hbegin : Tracks newId before (memberLog horizon 0 []) (partnerLog horizon 0 [])
      { db := db, run := beginRun newId hours none } :=
    ⟨rfl,
      ⟨by simpa [memberLog, Timetable.submittedBefore] using hmembers, List.nodup_nil,
        List.forall_mem_nil _⟩, List.forall_mem_nil _,
      ⟨by simpa [partnerLog, Timetable.submittedBefore] using hpartners, List.nodup_nil,
        List.forall_mem_nil _⟩, List.forall_mem_nil _⟩
  obtain ⟨db₁, run₁, hrun₁, hstart₁, h₁⟩ := runZeroStart_ok outlook hd
    (hpos hours List.mem_cons_self) (by omega) hstart hbegin
  obtain ⟨db', run', hrun', h'⟩ := runWindows_ok outlook hd
    (fun h hm => hpos h (List.mem_cons_of_mem _ hm)) (by omega) hstart₁ h₁
  refine ⟨db', run', ?_, ?_⟩
  · simp only [runWindows, hrun₁, ok_bind]
    exact hrun'
  · rw [List.sum_cons, SpecKind.screensOver, SpecKind.screensOver]
    simpa using h'

end

/-! ## What a run leaves behind -/

/-- The references of the member applications, with the hours they were submitted at. -/
def Db.memberSubmissions (db : Db) : List (String × Nat) :=
  db.memberApplications.rows.map fun a => (a.externalRef, a.simulationHour)

def Db.partnerSubmissions (db : Db) : List (String × Nat) :=
  db.partnerApplications.rows.map fun a => (a.externalRef, a.simulationHour)

/-- The histories of the member applications with a reference. -/
def Db.memberHistories (db : Db) (ref : String) : List (List (HistoryEntry ApplicationStatus)) :=
  (db.memberApplications.rows.filter fun a => a.externalRef = ref).map
    MemberApplication.stateHistory

def Db.partnerHistories (db : Db) (ref : String) : List (List (HistoryEntry PartnerStatus)) :=
  (db.partnerApplications.rows.filter fun a => a.externalRef = ref).map
    PartnerApplication.stateHistory

/-- The applicants of a window with the screening hours they have without it. -/
def unclippedApplicants (hours : Nat) : List ApplicantSpec :=
  memberWaves.grow
    (fun slot index => { grownApplicant hours slot index with screenHour := memberDue slot })
    hours memberApplicants 7

/-- The partners of a window with the screening hours they have without it. -/
def unclippedPartners (hours : Nat) : List PartnerSpec :=
  partnerWaves.grow
    (fun slot index => { grownPartner hours slot index with screenHour := partnerDue slot })
    hours partnerApplicants 3

/-- A run by windows leaves what one window leaves: the same submissions, and for every application
that is due before the end one screening, the same in both. -/
structure Composes (runId : String) (horizon : Nat) (one byWindows : Db) : Prop where
  memberSubmissions : byWindows.memberSubmissions = one.memberSubmissions
  partnerSubmissions : byWindows.partnerSubmissions = one.partnerSubmissions
  memberScreenings : ∀ spec ∈ unclippedApplicants horizon, spec.screenHour < horizon →
    ∃ entry, entry.hour = spec.screenHour ∧
      one.memberHistories (memberRef runId spec.index) = [[entry]] ∧
      byWindows.memberHistories (memberRef runId spec.index) = [[entry]]
  partnerScreenings : ∀ spec ∈ unclippedPartners horizon, spec.screenHour < horizon →
    ∃ entry, entry.hour = spec.screenHour ∧
      one.partnerHistories (partnerRef runId spec.index) = [[entry]] ∧
      byWindows.partnerHistories (partnerRef runId spec.index) = [[entry]]

/-- A window ends after an application of a wave and at or before its screening hour, which the
windows reach. -/
def CutsScreening (w : Waves) (due : Nat × Nat → Nat) (windows : List Nat) : Prop :=
  ∃ stop ∈ windowEnds 0 windows, ∃ slot : Nat × Nat, slot.2 < w.size slot.1 ∧
    w.hourOf slot < stop ∧ stop ≤ due slot ∧ due slot < windows.sum

/-! ## Histories that agree -/

section

variable {σ δ : Type} {kind : SpecKind σ δ} {specs : Nat → List σ} {windows : List Nat}

/-- One entry at its hour, in one window and over the windows. -/
def Agree (kind : SpecKind σ δ) (specs : Nat → List σ) (windows : List Nat) (index due : Nat) :
    Prop :=
  ∃ entry, entry.hour = due ∧
    historyIn (kind.screensOver specs 0 [windows.sum]) index = [entry] ∧
    historyIn (kind.screensOver specs 0 windows) index = [entry]

theorem agree_iff (T : Timetable kind specs windows.sum)
    (hentry : ∀ spec hour, (kind.entry spec hour).hour = hour)
    {x : Planned σ} (hx : x ∈ T.plan) (hdue : x.hours.due < windows.sum) :
    Agree kind specs windows x.index x.hours.due ↔
      x.hours.hoursHandled 0 windows = [x.hours.due] := by
  have hone : x.hours.hoursHandled 0 [windows.sum] = [x.hours.due] := by
    cases hclip : x.hours.clipped with
    | false => exact TimedItem.hoursHandled_unclipped hclip (Nat.zero_le _) (by simpa using hdue)
    | true =>
      rw [TimedItem.hoursHandled_eq_iff hclip (T.ordered x hx)
        (by simpa using Nat.lt_of_le_of_lt (Nat.zero_le _) hdue) (Nat.zero_le _)
        (by simpa using hdue)]
      intro stop hstop
      rw [windowEnds, windowEnds, List.mem_singleton] at hstop
      omega
  rw [Agree, T.historyIn_screensOver hx (by simp), T.historyIn_screensOver hx (by simp), hone]
  constructor
  · rintro ⟨entry, -, hfirst, hall⟩
    rw [← hfirst] at hall
    have hhours := congrArg (List.map HistoryEntry.hour) hall
    simpa [Function.comp_def, hentry] using hhours
  · intro h
    rw [h]
    exact ⟨_, hentry _ _, rfl, rfl⟩

/-- The histories of two runs agree on the plan exactly when the windows handle every planned
application at its hour. -/
theorem plan_agree_iff (T : Timetable kind specs windows.sum)
    (hentry : ∀ spec hour, (kind.entry spec hour).hour = hour)
    {one byWindows : Nat → List (List (HistoryEntry δ))}
    (hone : ∀ i ∈ (T.submittedBefore windows.sum).map Prod.fst,
      one i = [historyIn (kind.screensOver specs 0 [windows.sum]) i])
    (hby : ∀ i ∈ (T.submittedBefore windows.sum).map Prod.fst,
      byWindows i = [historyIn (kind.screensOver specs 0 windows) i]) :
    (∀ x ∈ T.plan, x.hours.due < windows.sum → ∃ entry, entry.hour = x.hours.due ∧
      one x.index = [[entry]] ∧ byWindows x.index = [[entry]]) ↔
      ∀ x ∈ T.plan, x.hours.due < windows.sum →
        x.hours.hoursHandled 0 windows = [x.hours.due] := by
  refine forall₂_congr fun x hx => forall_congr' fun hlt => ?_
  have hopens := T.ordered x hx
  have hi := T.mem_submittedBefore.2 ⟨x, hx, rfl, Nat.lt_of_le_of_lt hopens hlt⟩
  rw [← agree_iff T hentry hx hlt, hone _ hi, hby _ hi]
  simp only [Agree, List.cons.injEq, and_true]

/-! ## The plan of the waves -/

variable (w : Waves) (due : Nat × Nat → Nat) (make : Nat → Nat × Nat → Nat → σ) (fixed : List σ)
  (hindex : ∀ stop slot i, kind.index (make stop slot i) = i)
  (happly : ∀ stop slot i, kind.applyHour (make stop slot i) = w.hourOf slot)
  (hscreen : ∀ stop slot i, kind.screenHour (make stop slot i) =
    clippedTo stop (w.hourOf slot) (due slot))
  (hentry : ∀ stop stop' slot i hour,
    kind.entry (make stop slot i) hour = kind.entry (make stop' slot i) hour)
  (hdue : ∀ slot, w.hourOf slot ≤ due slot)
  (hfixed : fixed.map kind.index = List.range' 1 fixed.length)
  (hordered : ∀ spec ∈ fixed, kind.applyHour spec ≤ kind.screenHour spec)

theorem handled_iff (hpos : ∀ h ∈ windows, 0 < h) :
    (∀ x ∈ (waveTimetable kind w due make fixed windows.sum hindex happly hscreen hentry hdue
        hfixed hordered).plan,
      x.hours.due < windows.sum → x.hours.hoursHandled 0 windows = [x.hours.due]) ↔
      ¬ CutsScreening w due windows := by
  constructor
  · rintro h ⟨stop, hstop, slot, hslot, hopens, hle, hlt⟩
    have hcount : slot.1 < w.count windows.sum := by
      rw [w.lt_count]
      have hfirst := w.first_le_hourOf slot
      have hopen := hdue slot
      omega
    have hmem : slot ∈ (((w.slots (w.count windows.sum)).zipIdx (1 + fixed.length)).map
        Prod.fst) := by
      rw [List.zipIdx_map_fst]
      exact w.mem_slots.2 ⟨hcount, hslot⟩
    obtain ⟨s, hs, rfl⟩ := List.mem_map.1 hmem
    have hhandled := h _ (List.mem_append_right _ (List.mem_map_of_mem hs)) hlt
    have hcuts := (TimedItem.hoursHandled_eq_iff rfl (hdue s.1) hpos (Nat.zero_le _)
      (by simpa using hlt)).1 hhandled
    exact hcuts stop hstop ⟨hopens, hle⟩
  · intro hcuts x hx hlt
    rcases List.mem_append.1 hx with hx | hx
    · obtain ⟨spec, -, rfl⟩ := List.mem_map.1 hx
      exact TimedItem.hoursHandled_unclipped rfl (Nat.zero_le _) (by simpa using hlt)
    · obtain ⟨s, hs, rfl⟩ := List.mem_map.1 hx
      rw [TimedItem.hoursHandled_eq_iff rfl (hdue s.1) hpos (Nat.zero_le _) (by simpa using hlt)]
      rintro stop hstop ⟨hopens, hle⟩
      have hslot : s.1 ∈ w.slots (w.count windows.sum) := by
        rw [← List.zipIdx_map_fst (1 + fixed.length) (w.slots (w.count windows.sum))]
        exact List.mem_map_of_mem hs
      exact hcuts ⟨stop, hstop, s.1, (w.mem_slots.1 hslot).2, hopens, hle, hlt⟩

theorem unclipped_iff {horizon : Nat} (unclipped : Nat × Nat → Nat → σ)
    (hi : ∀ slot i, kind.index (unclipped slot i) = i)
    (hs : ∀ slot i, kind.screenHour (unclipped slot i) = due slot) (P : Nat → Nat → Prop) :
    (∀ spec ∈ w.grow unclipped horizon fixed (1 + fixed.length),
      kind.screenHour spec < horizon → P (kind.index spec) (kind.screenHour spec)) ↔
      ∀ x ∈ (waveTimetable kind w due make fixed horizon hindex happly hscreen hentry hdue hfixed
        hordered).plan, x.hours.due < horizon → P x.index x.hours.due := by
  rw [w.grow_eq (Nat.le_refl _)]
  constructor
  · intro h x hx hlt
    rcases List.mem_append.1 hx with hx | hx
    · obtain ⟨spec, hspec, rfl⟩ := List.mem_map.1 hx
      exact h spec (List.mem_append_left _ hspec) hlt
    · obtain ⟨s, hmem, rfl⟩ := List.mem_map.1 hx
      have hopen := Nat.lt_of_le_of_lt (hdue s.1) hlt
      have hspec := h (unclipped s.1 s.2) (List.mem_append_right _ (List.mem_map_of_mem
        (List.mem_filter.2 ⟨hmem, decide_eq_true hopen⟩))) (by rw [hs]; exact hlt)
      rw [hi, hs] at hspec
      exact hspec
  · intro h spec hspec hlt
    rcases List.mem_append.1 hspec with hspec | hspec
    · exact h _ (List.mem_append_left _ (List.mem_map_of_mem hspec)) hlt
    · obtain ⟨s, hmem, rfl⟩ := List.mem_map.1 hspec
      rw [hs] at hlt
      rw [hi, hs]
      exact h _ (List.mem_append_right _ (List.mem_map_of_mem (List.mem_of_mem_filter hmem))) hlt

end

/-! ## Composition -/

section

variable {driver : FormDriver} {runId : String} {before : Before runId}
  {m : TrackLog ApplicationStatus} {p : TrackLog PartnerStatus} {s : LoopState}

theorem memberSubmissions_of_tracks (h : Tracks runId before m p s) :
    s.db.memberSubmissions = before.members.map (fun v => (v.1, v.2.1)) ++
      m.submitted.map fun e => (memberRef runId e.1, e.2) := by
  have hrows := congrArg (List.map fun v => (v.1, v.2.1)) h.members.rows
  rw [Db.memberSeen, List.map_map, List.map_append, List.map_map] at hrows
  exact hrows

theorem partnerSubmissions_of_tracks (h : Tracks runId before m p s) :
    s.db.partnerSubmissions = before.partners.map (fun v => (v.1, v.2.1)) ++
      p.submitted.map fun e => (partnerRef runId e.1, e.2) := by
  have hrows := congrArg (List.map fun v => (v.1, v.2.1)) h.partners.rows
  rw [Db.partnerSeen, List.map_map, List.map_append, List.map_map] at hrows
  exact hrows

theorem memberHistories_of_tracks (h : Tracks runId before m p s) {i : Nat}
    (hi : i ∈ m.submitted.map Prod.fst) :
    s.db.memberHistories (memberRef runId i) = [historyIn m.screens i] := by
  obtain ⟨hour, -, hone⟩ := h.members.one before.membersOther (memberRef_injective _) hi
  rw [Db.memberSeen, List.filter_map] at hone
  have hhistory := congrArg (List.map fun v => v.2.2) hone
  rw [List.map_map] at hhistory
  exact hhistory

theorem partnerHistories_of_tracks (h : Tracks runId before m p s) {i : Nat}
    (hi : i ∈ p.submitted.map Prod.fst) :
    s.db.partnerHistories (partnerRef runId i) = [historyIn p.screens i] := by
  obtain ⟨hour, -, hone⟩ := h.partners.one before.partnersOther (partnerRef_injective _) hi
  rw [Db.partnerSeen, List.filter_map] at hone
  have hhistory := congrArg (List.map fun v => v.2.2) hone
  rw [List.map_map] at hhistory
  exact hhistory

theorem memberScreenings_iff {windows : List Nat} (hpos : ∀ hours ∈ windows, 0 < hours)
    {p₁ p₂ : TrackLog PartnerStatus} {s₁ s₂ : LoopState}
    (h₁ : Tracks runId before (memberLog windows.sum windows.sum
      (memberKind.screensOver applicantSpecsForHours 0 [windows.sum])) p₁ s₁)
    (h₂ : Tracks runId before (memberLog windows.sum windows.sum
      (memberKind.screensOver applicantSpecsForHours 0 windows)) p₂ s₂) :
    (∀ spec ∈ unclippedApplicants windows.sum, spec.screenHour < windows.sum →
      ∃ entry, entry.hour = spec.screenHour ∧
        s₁.db.memberHistories (memberRef runId spec.index) = [[entry]] ∧
        s₂.db.memberHistories (memberRef runId spec.index) = [[entry]]) ↔
      ¬ CutsScreening memberWaves memberDue windows := by
  let P (i due : Nat) : Prop := ∃ entry, entry.hour = due ∧
    s₁.db.memberHistories (memberRef runId i) = [[entry]] ∧
    s₂.db.memberHistories (memberRef runId i) = [[entry]]
  have hplan := plan_agree_iff (memberTimetable windows.sum) (fun _ _ => rfl)
    (fun _ hi => memberHistories_of_tracks h₁ hi) (fun _ hi => memberHistories_of_tracks h₂ hi)
  exact (unclipped_iff memberWaves memberDue grownApplicant memberApplicants _ _ _ _ _ _ _ _
    (fun _ _ => rfl) (fun _ _ => rfl) P).trans (hplan.trans
    (handled_iff memberWaves memberDue grownApplicant memberApplicants _ _ _ _ _ _ _ hpos))

theorem partnerScreenings_iff {windows : List Nat} (hpos : ∀ hours ∈ windows, 0 < hours)
    {m₁ m₂ : TrackLog ApplicationStatus} {s₁ s₂ : LoopState}
    (h₁ : Tracks runId before m₁ (partnerLog windows.sum windows.sum
      (partnerKind.screensOver partnerSpecsForHours 0 [windows.sum])) s₁)
    (h₂ : Tracks runId before m₂ (partnerLog windows.sum windows.sum
      (partnerKind.screensOver partnerSpecsForHours 0 windows)) s₂) :
    (∀ spec ∈ unclippedPartners windows.sum, spec.screenHour < windows.sum →
      ∃ entry, entry.hour = spec.screenHour ∧
        s₁.db.partnerHistories (partnerRef runId spec.index) = [[entry]] ∧
        s₂.db.partnerHistories (partnerRef runId spec.index) = [[entry]]) ↔
      ¬ CutsScreening partnerWaves partnerDue windows := by
  let P (i due : Nat) : Prop := ∃ entry, entry.hour = due ∧
    s₁.db.partnerHistories (partnerRef runId i) = [[entry]] ∧
    s₂.db.partnerHistories (partnerRef runId i) = [[entry]]
  have hplan := plan_agree_iff (partnerTimetable windows.sum) (fun _ _ => rfl)
    (fun _ hi => partnerHistories_of_tracks h₁ hi) (fun _ hi => partnerHistories_of_tracks h₂ hi)
  exact (unclipped_iff partnerWaves partnerDue grownPartner partnerApplicants _ _ _ _ _ _ _ _
    (fun _ _ => rfl) (fun _ _ => rfl) P).trans (hplan.trans
    (handled_iff partnerWaves partnerDue grownPartner partnerApplicants _ _ _ _ _ _ _ hpos))

/-- **Observation windows.** When every form succeeds, the windows of a new run end as one window
does, with the same submissions, and they screen as it does exactly when no window end cuts off the
screening of a member or a partner of the waves. -/
theorem runWindows_composes_iff (outlook : Db → ZeroStartRun → Nat → Outlook)
    (hd : driver.Succeeds) (newId : String) (db : Db)
    (hmembers : ∀ a ∈ db.memberApplications.rows, ∀ i, a.externalRef ≠ memberRef newId i)
    (hpartners : ∀ a ∈ db.partnerApplications.rows, ∀ i, a.externalRef ≠ partnerRef newId i)
    {windows : List Nat} (hne : windows ≠ []) (hpos : ∀ hours ∈ windows, 0 < hours) :
    ∃ one runOne byWindows runBy,
      runWindows driver outlook newId [windows.sum] none db = .ok (one, some runOne) ∧
      runWindows driver outlook newId windows none db = .ok (byWindows, some runBy) ∧
      (Composes newId windows.sum one byWindows ↔
        ¬ CutsScreening memberWaves memberDue windows ∧
          ¬ CutsScreening partnerWaves partnerDue windows) := by
  have hsum : 0 < windows.sum := by
    obtain ⟨hours, rest, rfl⟩ := List.exists_cons_of_ne_nil hne
    have hhours := hpos hours List.mem_cons_self
    rw [List.sum_cons]
    omega
  let before : Before newId := {
    members := db.memberSeen
    partners := db.partnerSeen
    membersOther := by
      intro v hv
      obtain ⟨a, ha, rfl⟩ := List.mem_map.1 hv
      exact hmembers a ha
    partnersOther := by
      intro v hv
      obtain ⟨a, ha, rfl⟩ := List.mem_map.1 hv
      exact hpartners a ha }
  have hsingle : [windows.sum].sum = windows.sum := List.sum_singleton
  obtain ⟨one, runOne, hone, h₁⟩ := @runWindows_new _ outlook newId windows.sum hd before db rfl rfl
    [windows.sum] (List.cons_ne_nil _ _) (by simpa using hsum) (Nat.le_of_eq hsingle)
  obtain ⟨byWindows, runBy, hby, h₂⟩ := @runWindows_new _ outlook newId windows.sum hd before db rfl
    rfl windows hne hpos (Nat.le_refl _)
  rw [hsingle] at h₁
  refine ⟨one, runOne, byWindows, runBy, hone, hby, ?_⟩
  have hmember := memberScreenings_iff hpos h₁ h₂
  have hpartner := partnerScreenings_iff hpos h₁ h₂
  constructor
  · intro h
    exact ⟨hmember.1 h.memberScreenings, hpartner.1 h.partnerScreenings⟩
  · rintro ⟨hm, hp⟩
    exact {
      memberSubmissions :=
        (memberSubmissions_of_tracks h₂).trans (memberSubmissions_of_tracks h₁).symm
      partnerSubmissions :=
        (partnerSubmissions_of_tracks h₂).trans (partnerSubmissions_of_tracks h₁).symm
      memberScreenings := hmember.2 hm
      partnerScreenings := hpartner.2 hp }

end

/-! ## Two runs -/

/-- An id longer than all those in use. -/
def longerId (ids : List String) : String :=
  String.ofList (List.replicate ((ids.map String.length).sum + 1) '0')

theorem longerId_new {ids : List String} {id : String} (h : id ∈ ids) : id ≠ longerId ids := by
  intro heq
  have hle : id.length ≤ (ids.map String.length).sum :=
    List.le_sum_of_mem (List.mem_map_of_mem h)
  have hlength := congrArg String.length heq
  rw [longerId, String.length_ofList, List.length_replicate] at hlength
  omega

/-- Forms that accept everything and draw new ids. -/
def openForms : FormDriver where
  submitMemberApplication db _ := .ok {
    applicationId := longerId (db.memberApplications.rows.map MemberApplication.applicationId)
    memberNo := none }
  submitPartnerApplication db _ :=
    .ok (longerId (db.partnerApplications.rows.map PartnerApplication.applicationId))

theorem openForms_succeeds : openForms.Succeeds where
  member _ _ := ⟨_, rfl, fun _ ha => longerId_new (List.mem_map_of_mem ha)⟩
  partner _ _ := ⟨_, rfl, fun _ ha => longerId_new (List.mem_map_of_mem ha)⟩

/-- A gate that stays closed. -/
def closedGate : Db → ZeroStartRun → Nat → Outlook := fun _ _ _ => ⟨false, false⟩

def emptyDb : Db where
  memberApplications := Table.empty
  partnerApplications := Table.empty

/-- Windows of one day and three days compose: no wave has started. -/
theorem runWindows_composes_iff_fourDays :
    ∃ one runOne byWindows runBy,
      runWindows openForms closedGate "sim-run-0001" [96] none emptyDb = .ok (one, some runOne) ∧
      runWindows openForms closedGate "sim-run-0001" [24, 72] none emptyDb =
        .ok (byWindows, some runBy) ∧
      Composes "sim-run-0001" 96 one byWindows := by
  obtain ⟨one, runOne, byWindows, runBy, hone, hby, hiff⟩ :=
    @runWindows_composes_iff openForms closedGate openForms_succeeds "sim-run-0001" emptyDb
      (fun _ ha => absurd ha List.not_mem_nil) (fun _ ha => absurd ha List.not_mem_nil) [24, 72]
      (by decide) (by decide)
  refine ⟨one, runOne, byWindows, runBy, hone, hby, hiff.2 ⟨?_, ?_⟩⟩
  · rintro ⟨stop, hstop, slot, -, hopens, -, -⟩
    have hle : ∀ stop ∈ windowEnds 0 [24, 72], stop ≤ 96 := by decide
    have hend := hle stop hstop
    have hfirst : 96 ≤ memberWaves.hourOf slot :=
      Nat.le_trans (Nat.le_add_right _ _) (memberWaves.first_le_hourOf slot)
    omega
  · rintro ⟨stop, hstop, slot, -, hopens, -, -⟩
    have hle : ∀ stop ∈ windowEnds 0 [24, 72], stop ≤ 96 := by decide
    have hend := hle stop hstop
    have hfirst : 132 ≤ partnerWaves.hourOf slot :=
      Nat.le_trans (Nat.le_add_right _ _) (partnerWaves.first_le_hourOf slot)
    omega

/-- The first applicant of the waves applies at hour 96 and is due at hour 106. Windows of a hundred
hours screen it at hour 99 and again at hour 106. -/
theorem runWindows_screensTwice :
    ∃ one runOne byWindows runBy,
      runWindows openForms closedGate "sim-run-0001" [200] none emptyDb = .ok (one, some runOne) ∧
      runWindows openForms closedGate "sim-run-0001" [100, 100] none emptyDb =
        .ok (byWindows, some runBy) ∧
      (one.memberHistories (memberRef "sim-run-0001" 7)).map (List.map HistoryEntry.hour) =
        [[106]] ∧
      (byWindows.memberHistories (memberRef "sim-run-0001" 7)).map (List.map HistoryEntry.hour) =
        [[99, 106]] ∧
      ¬ Composes "sim-run-0001" 200 one byWindows := by
  let before : Before "sim-run-0001" :=
    ⟨[], [], fun _ hv => absurd hv List.not_mem_nil, fun _ hv => absurd hv List.not_mem_nil⟩
  obtain ⟨one, runOne, hone, h₁⟩ := @runWindows_new _ closedGate "sim-run-0001" 200
    openForms_succeeds before emptyDb rfl rfl [200] (by decide) (by decide) (by decide)
  obtain ⟨byWindows, runBy, hby, h₂⟩ := @runWindows_new _ closedGate "sim-run-0001" 200
    openForms_succeeds before emptyDb rfl rfl [100, 100] (by decide) (by decide) (by decide)
  have hfirst : (((0, 0), 7) : (Nat × Nat) × Nat) ∈
      (memberWaves.slots (memberWaves.count 200)).zipIdx 7 := by decide
  have hx : (⟨7, ⟨96, 106, true⟩, fun stop => grownApplicant stop (0, 0) 7⟩ :
      Planned ApplicantSpec) ∈ (memberTimetable 200).plan :=
    List.mem_append_right _ (List.mem_map_of_mem hfirst)
  have hi := (memberTimetable 200).mem_submittedBefore.2
    ⟨_, hx, rfl, (by decide : 96 < 200)⟩
  have hoursOne : (one.memberHistories (memberRef "sim-run-0001" 7)).map
      (List.map HistoryEntry.hour) = [[106]] := by
    rw [memberHistories_of_tracks h₁ hi, memberLog,
      (memberTimetable 200).historyIn_screensOver hx (by decide)]
    rfl
  have hoursBy : (byWindows.memberHistories (memberRef "sim-run-0001" 7)).map
      (List.map HistoryEntry.hour) = [[99, 106]] := by
    rw [memberHistories_of_tracks h₂ hi, memberLog,
      (memberTimetable 200).historyIn_screensOver hx (by decide)]
    rfl
  refine ⟨one, runOne, byWindows, runBy, hone, hby, hoursOne, hoursBy, fun h => ?_⟩
  have hcut := (@memberScreenings_iff "sim-run-0001" before [100, 100] (by decide) _ _ _ _ h₁
    h₂).1 h.memberScreenings
  exact hcut ⟨100, by decide, (0, 0), by decide, by decide, by decide, by decide⟩

end LiveOs.ZeroStart
