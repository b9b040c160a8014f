import LiveOs.Lib.Runs
import LiveOs.Lib.JsonText
import LiveOs.ZeroStart.Recruitment

/-!
# The log of a run

The applications of a run are known by what has been submitted and screened so far. A submission
adds an application, and a screening adds one entry to the history of the application with its
index. The loop over an hour extends the two logs by the entries of the hour.
-/

namespace LiveOs.ZeroStart

open Lib

/-- A loop that finishes: every turn succeeds after those before it. -/
theorem foldlM_turns {ε σ ι : Type} {step : σ → ι → Except ε σ} : ∀ {xs : List ι}
    (P : List ι → σ → Prop) {s : σ}, P [] s →
      (∀ done x rest s, xs = done ++ x :: rest → P done s →
        ∃ s', step s x = .ok s' ∧ P (done ++ [x]) s') →
      ∃ s', xs.foldlM step s = .ok s' ∧ P xs s'
  | [], _, s, h, _ => ⟨s, rfl, h⟩
  | x :: xs, P, s, h, hstep => by
    obtain ⟨s₁, hx, h₁⟩ := hstep [] x xs s rfl h
    have hrest : ∀ done y rest t, xs = done ++ y :: rest → P (x :: done) t →
        ∃ t', step t y = .ok t' ∧ P (x :: (done ++ [y])) t' := by
      intro done y rest t hxs hP
      obtain ⟨t', ht, hP'⟩ := hstep (x :: done) y rest t (by rw [hxs, List.cons_append]) hP
      exact ⟨t', ht, hP'⟩
    obtain ⟨s', hs, h'⟩ := foldlM_turns (fun done => P (x :: done)) h₁ hrest
    refine ⟨s', ?_, h'⟩
    rw [List.foldlM_cons, hx, ok_bind]
    exact hs

/-! ## Applications and their log -/

/-- An application as the log knows it: its reference, its hour and its history. -/
abbrev Seen (δ : Type) := String × Nat × List (HistoryEntry δ)

def MemberApplication.seen (a : MemberApplication) : Seen ApplicationStatus :=
  (a.externalRef, a.simulationHour, a.stateHistory)

def PartnerApplication.seen (a : PartnerApplication) : Seen PartnerStatus :=
  (a.externalRef, a.simulationHour, a.stateHistory)

section

variable {δ : Type}

/-- The entries of the log for an index. -/
def historyIn (screens : List (Nat × HistoryEntry δ)) (index : Nat) : List (HistoryEntry δ) :=
  screens.filterMap fun e => if e.1 = index then some e.2 else none

/-- The applications are those of before and those of the log. -/
structure Logged (base : List (Seen δ)) (ref : Nat → String) (submitted : List (Nat × Nat))
    (screens : List (Nat × HistoryEntry δ)) (views : List (Seen δ)) : Prop where
  rows : views = base ++ submitted.map fun s => (ref s.1, s.2, historyIn screens s.1)
  numbered : (submitted.map Prod.fst).Nodup
  known : ∀ e ∈ screens, e.1 ∈ submitted.map Prod.fst

theorem historyIn_append (screens more : List (Nat × HistoryEntry δ)) (index : Nat) :
    historyIn (screens ++ more) index = historyIn screens index ++ historyIn more index :=
  List.filterMap_append

variable {base : List (Seen δ)} {ref : Nat → String} {submitted : List (Nat × Nat)}
  {screens : List (Nat × HistoryEntry δ)} {views : List (Seen δ)} {i : Nat}

theorem Logged.submit (h : Logged base ref submitted screens views)
    (hi : i ∉ submitted.map Prod.fst) (hour : Nat) :
    Logged base ref (submitted ++ [(i, hour)]) screens (views ++ [(ref i, hour, [])]) where
  rows := by
    have hnone : historyIn screens i = [] := by
      apply List.filterMap_eq_nil_iff.2
      intro e he
      have hmem := h.known e he
      exact if_neg fun heq => hi (by rwa [heq] at hmem)
    rw [h.rows, List.map_append, List.append_assoc, List.map_cons, List.map_nil, hnone]
  numbered := by
    rw [List.map_append, List.nodup_append]
    refine ⟨h.numbered, List.nodup_singleton _, ?_⟩
    rintro a ha b hb rfl
    rw [List.map_cons, List.map_nil, List.mem_singleton] at hb
    exact hi (by rwa [hb] at ha)
  known e he := by
    rw [List.map_append]
    exact List.mem_append_left _ (h.known e he)

/-- What a screening does to the application with the reference. -/
def addEntry (r : String) (entry : HistoryEntry δ) (v : Seen δ) : Seen δ :=
  if v.1 = r then (v.1, v.2.1, v.2.2 ++ [entry]) else v

variable (hbase : ∀ v ∈ base, ∀ i, v.1 ≠ ref i) (href : Function.Injective ref)

include hbase href in
theorem Logged.screen (h : Logged base ref submitted screens views)
    (hi : i ∈ submitted.map Prod.fst) (entry : HistoryEntry δ) :
    Logged base ref submitted (screens ++ [(i, entry)]) (views.map (addEntry (ref i) entry)) where
  rows := by
    rw [h.rows, List.map_append, List.map_map]
    congr 1
    · rw [List.map_congr_left (g := id), List.map_id]
      exact fun v hv => if_neg (hbase v hv i)
    · apply List.map_congr_left
      intro s hs
      rw [historyIn_append]
      by_cases hsi : s.1 = i
      · simp [addEntry, historyIn, hsi]
      · have hne : ref s.1 ≠ ref i := fun heq => hsi (href heq)
        have hne' : i ≠ s.1 := fun heq => hsi heq.symm
        simp [addEntry, historyIn, hne, hne']
  numbered := h.numbered
  known e he := by
    rcases List.mem_append.1 he with he | he
    · exact h.known e he
    · rw [List.mem_singleton.1 he]
      exact hi

include hbase href in
/-- An index of the log has exactly one application. -/
theorem Logged.one (h : Logged base ref submitted screens views)
    (hi : i ∈ submitted.map Prod.fst) :
    ∃ hour, (i, hour) ∈ submitted ∧
      views.filter (fun v => v.1 = ref i) = [(ref i, hour, historyIn screens i)] := by
  obtain ⟨⟨i', hour⟩, hmem, rfl⟩ := List.mem_map.1 hi
  refine ⟨hour, hmem, ?_⟩
  have hother : base.filter (fun v => v.1 = ref i') = [] := by
    rw [List.filter_eq_nil_iff]
    intro v hv
    simpa using hbase v hv i'
  rw [h.rows, List.filter_append, hother, List.nil_append]
  have hnd := h.numbered
  clear hi hother h
  induction submitted with
  | nil => cases hmem
  | cons s rest ih =>
    rw [List.map_cons, List.nodup_cons] at hnd
    rw [List.map_cons]
    rcases List.mem_cons.1 hmem with heq | hmem
    · have hnone : (rest.map fun s => (ref s.1, s.2, historyIn screens s.1)).filter
          (fun v => v.1 = ref i') = [] := by
        rw [List.filter_eq_nil_iff]
        intro v hv
        obtain ⟨t, ht, rfl⟩ := List.mem_map.1 hv
        simp only [decide_eq_true_eq]
        intro hsame
        apply hnd.1
        have hindex : t.1 = s.1 := by
          rw [← heq]
          exact href hsame
        rw [← hindex]
        exact List.mem_map_of_mem (f := Prod.fst) ht
      rw [← heq, List.filter_cons_of_pos (by simp), hnone]
    · have hne : ref s.1 ≠ ref i' := by
        intro hsame
        apply hnd.1
        rw [href hsame]
        exact List.mem_map_of_mem (f := Prod.fst) hmem
      rw [List.filter_cons_of_neg (by simpa using hne)]
      exact ih hmem hnd.2

end

/-! ## Submissions and screenings -/

/-- Every form submission succeeds: an application with a new id is stored. -/
structure FormDriver.Succeeds (driver : FormDriver) : Prop where
  member : ∀ db submission, ∃ receipt,
    driver.submitMemberApplication db submission = .ok receipt ∧
      ∀ a ∈ db.memberApplications.rows, a.applicationId ≠ receipt.applicationId
  partner : ∀ db submission, ∃ applicationId,
    driver.submitPartnerApplication db submission = .ok applicationId ∧
      ∀ a ∈ db.partnerApplications.rows, a.applicationId ≠ applicationId

/-- What has been submitted and screened. -/
structure TrackLog (δ : Type) where
  submitted : List (Nat × Nat) := []
  screens : List (Nat × HistoryEntry δ) := []

/-- The applications of before. -/
structure Before (runId : String) where
  members : List (Seen ApplicationStatus)
  partners : List (Seen PartnerStatus)
  membersOther : ∀ v ∈ members, ∀ i, v.1 ≠ memberRef runId i
  partnersOther : ∀ v ∈ partners, ∀ i, v.1 ≠ partnerRef runId i

def Db.memberSeen (db : Db) : List (Seen ApplicationStatus) :=
  db.memberApplications.rows.map MemberApplication.seen

def Db.partnerSeen (db : Db) : List (Seen PartnerStatus) :=
  db.partnerApplications.rows.map PartnerApplication.seen

/-- The state of the loop carries the logs of its run. -/
structure Tracks (runId : String) (before : Before runId) (m : TrackLog ApplicationStatus)
    (p : TrackLog PartnerStatus) (s : LoopState) : Prop where
  run_eq : s.run.runId = runId
  members : Logged before.members (memberRef runId) m.submitted m.screens s.db.memberSeen
  membersHeld : ∀ e ∈ s.applicationsByIndex, ∃ a ∈ s.db.memberApplications.rows,
    a.applicationId = e.2 ∧ a.externalRef = memberRef runId e.1
  partners : Logged before.partners (partnerRef runId) p.submitted p.screens s.db.partnerSeen
  partnersHeld : ∀ e ∈ s.partnerApplicationsByIndex, ∃ a ∈ s.db.partnerApplications.rows,
    a.applicationId = e.2 ∧ a.externalRef = partnerRef runId e.1

theorem append_inj_index {front : String} {i j : Nat} (h : front ++ i.repr = front ++ j.repr) :
    i = j := by
  apply Json.toNat_repr_inj
  rw [← String.toList_inj] at h ⊢
  rw [String.toList_append, String.toList_append] at h
  exact List.append_cancel_left h

theorem memberRef_injective (runId : String) : Function.Injective (memberRef runId) :=
  fun _ _ h => append_inj_index h

theorem partnerRef_injective (runId : String) : Function.Injective (partnerRef runId) :=
  fun _ _ h => append_inj_index h

variable {driver : FormDriver} {runId : String} {before : Before runId}
  {m : TrackLog ApplicationStatus} {p : TrackLog PartnerStatus} {s : LoopState}

theorem submitMember_ok (hd : driver.Succeeds) (h : Tracks runId before m p s) {spec : ApplicantSpec}
    (hi : spec.index ∉ m.submitted.map Prod.fst) (hour : Nat) :
    ∃ s', submitMember driver hour s spec = .ok s' ∧
      Tracks runId before { m with submitted := m.submitted ++ [(spec.index, hour)] } p s' := by
  obtain ⟨receipt, hreceipt, hfresh⟩ := hd.member s.db {
    runId := s.run.runId, simulationHour := hour
    externalRef := memberRef s.run.runId spec.index, spec := spec }
  obtain ⟨table, hinsert, hrows⟩ := Table.insert_of_fresh (t := s.db.memberApplications)
    (r := newMemberApplication { runId := s.run.runId, simulationHour := hour
                                 externalRef := memberRef s.run.runId spec.index, spec := spec }
      receipt)
    (e := ({ path := "/workspace/apply/", statusCode := 500, errors := [] } : FormFailure))
    hfresh nofun
  refine ⟨{ s with
    db := { s.db with memberApplications := table }
    applicationsByIndex := (spec.index, receipt.applicationId) :: s.applicationsByIndex }, ?_, ?_⟩
  · simp only [submitMember, hreceipt, ok_bind, hinsert]
    rfl
  · refine ⟨h.run_eq, ?_, ?_, h.partners, h.partnersHeld⟩
    · have hlog := h.members.submit hi hour
      have hviews : ({ s.db with memberApplications := table } : Db).memberSeen =
          s.db.memberSeen ++ [(memberRef runId spec.index, hour, [])] := by
        simp only [Db.memberSeen, hrows, List.map_append, List.map_cons, List.map_nil, ← h.run_eq]
        rfl
      rw [hviews]
      exact hlog
    · intro e he
      simp only [hrows]
      rcases List.mem_cons.1 he with rfl | he
      · exact ⟨_, List.mem_append_right _ (List.mem_singleton_self _), rfl, by
          simp only [newMemberApplication, h.run_eq]⟩
      · obtain ⟨a, ha, hid, href⟩ := h.membersHeld e he
        exact ⟨a, List.mem_append_left _ ha, hid, href⟩

theorem submitPartner_ok (hd : driver.Succeeds) (h : Tracks runId before m p s) {spec : PartnerSpec}
    (hi : spec.index ∉ p.submitted.map Prod.fst) (hour : Nat) :
    ∃ s', submitPartner driver hour s spec = .ok s' ∧
      Tracks runId before m { p with submitted := p.submitted ++ [(spec.index, hour)] } s' := by
  obtain ⟨applicationId, hreceipt, hfresh⟩ := hd.partner s.db {
    runId := s.run.runId, simulationHour := hour
    externalRef := partnerRef s.run.runId spec.index, spec := spec }
  obtain ⟨table, hinsert, hrows⟩ := Table.insert_of_fresh (t := s.db.partnerApplications)
    (r := newPartnerApplication { runId := s.run.runId, simulationHour := hour
                                  externalRef := partnerRef s.run.runId spec.index, spec := spec }
      applicationId)
    (e := ({ path := "service:submit_partner_application", statusCode := 500, errors := [] } :
      FormFailure)) hfresh nofun
  refine ⟨{ s with
    db := { s.db with partnerApplications := table }
    partnerApplicationsByIndex := (spec.index, applicationId) :: s.partnerApplicationsByIndex },
    ?_, ?_⟩
  · simp only [submitPartner, hreceipt, ok_bind, hinsert]
    rfl
  · refine ⟨h.run_eq, h.members, h.membersHeld, ?_, ?_⟩
    · have hlog := h.partners.submit hi hour
      have hviews : ({ s.db with partnerApplications := table } : Db).partnerSeen =
          s.db.partnerSeen ++ [(partnerRef runId spec.index, hour, [])] := by
        simp only [Db.partnerSeen, hrows, List.map_append, List.map_cons, List.map_nil, ← h.run_eq]
        rfl
      rw [hviews]
      exact hlog
    · intro e he
      simp only [hrows]
      rcases List.mem_cons.1 he with rfl | he
      · exact ⟨_, List.mem_append_right _ (List.mem_singleton_self _), rfl, by
          simp only [newPartnerApplication, h.run_eq]⟩
      · obtain ⟨a, ha, hid, href⟩ := h.partnersHeld e he
        exact ⟨a, List.mem_append_left _ ha, hid, href⟩

theorem mem_of_lookup {l : List (Nat × String)} {i : Nat} {id : String}
    (h : l.lookup i = some id) : (i, id) ∈ l := by
  obtain ⟨before, after, rfl, -⟩ := List.lookup_eq_some_iff.1 h
  exact List.mem_append_right _ List.mem_cons_self

theorem getOne_filter {α : Type} {l : List α} {p : α → Bool} {a : α} (h : l.filter p = [a]) :
    getOne (l.filter p) = .ok a := by
  rw [h]
  rfl

section

variable {ρ δ : Type} {pk : ρ → String} {t : Table ρ String Empty pk fun _ => none}
  {seen : ρ → Seen δ} {r : String}

/-- One application is seen with the reference: it is one row. -/
theorem one_row {rows : List ρ} {v : Seen δ}
    (h : (rows.map seen).filter (fun v => v.1 = r) = [v]) :
    ∃ a, rows.filter (fun b => (seen b).1 = r) = [a] ∧
      ∀ b, b ∈ rows ∧ (seen b).1 = r ↔ b = a := by
  rw [List.filter_map] at h
  obtain ⟨a, hrows, -⟩ := List.map_eq_singleton_iff.1 h
  have hfilter : rows.filter (fun b => (seen b).1 = r) = [a] := hrows
  refine ⟨a, hfilter, fun b => ?_⟩
  rw [← @List.mem_singleton _ b a, ← hfilter, List.mem_filter, decide_eq_true_eq]

/-- An application that was submitted in the window is the one with its reference. -/
theorem held_row {held : List (Nat × String)} {ref : Nat → String} {i : Nat} {a b : ρ}
    (hheld : ∀ e ∈ held, ∃ a ∈ t.rows, pk a = e.2 ∧ (seen a).1 = ref e.1)
    (hone : ∀ b, b ∈ t.rows ∧ (seen b).1 = ref i ↔ b = a)
    (h : (held.lookup i).bind t.get? = some b) : b = a := by
  obtain ⟨id, hid, hget⟩ := Option.bind_eq_some_iff.1 h
  obtain ⟨c, hc, hcid, hcref⟩ := hheld _ (mem_of_lookup hid)
  obtain ⟨hb, hbid⟩ := Table.get?_eq_some.1 hget
  have hbc : b = c := t.eq_of_pk hb hc (hbid.trans hcid.symm)
  exact (hone b).1 ⟨hb, hbc ▸ hcref⟩

end

/-- The one application with an index of the log is at hand. -/
theorem memberApplicationAtHand_ok (h : Tracks runId before m p s) {spec : ApplicantSpec}
    (hi : spec.index ∈ m.submitted.map Prod.fst) :
    ∃ a ∈ s.db.memberApplications.rows, memberApplicationAtHand s spec = .ok a ∧
      ∀ b ∈ s.db.memberApplications.rows,
        b.externalRef = memberRef runId spec.index ↔ b = a := by
  obtain ⟨hour, -, hseen⟩ := h.members.one before.membersOther (memberRef_injective _) hi
  obtain ⟨a, hfilter, hone⟩ := one_row hseen
  refine ⟨a, ((hone a).2 rfl).1, ?_, fun b hb => ⟨fun href => (hone b).1 ⟨hb, href⟩,
    fun hba => ((hone b).2 hba).2⟩⟩
  unfold memberApplicationAtHand
  cases hheld : (s.applicationsByIndex.lookup spec.index).bind s.db.memberApplications.get? with
  | none =>
    simp only [memberApplicationForRun, h.run_eq]
    exact getOne_filter hfilter
  | some b => rw [held_row h.membersHeld hone hheld]

theorem memberSeen_screened (db : Db) {a : MemberApplication} {spec : ApplicantSpec} {ref : String}
    (ha : a ∈ db.memberApplications.rows)
    (hone : ∀ b ∈ db.memberApplications.rows, b.externalRef = ref ↔ b = a) (hour : Nat) :
    (screenMemberApplication db a spec hour).1.memberSeen =
      db.memberSeen.map (addEntry ref (memberEntry spec hour)) := by
  change (db.memberApplications.rows.map fun row => if row.applicationId = a.applicationId then
    row.screened spec (memberEntry spec hour) else row).map MemberApplication.seen = _
  rw [Db.memberSeen, List.map_map, List.map_map]
  apply List.map_congr_left
  intro b hb
  by_cases hba : b = a
  · have href := (hone b hb).2 hba
    subst hba
    simp [href, addEntry, MemberApplication.seen, MemberApplication.screened]
  · have href : b.externalRef ≠ ref := fun heq => hba ((hone b hb).1 heq)
    have hid : b.applicationId ≠ a.applicationId :=
      fun heq => hba (db.memberApplications.eq_of_pk hb ha heq)
    simp [href, hid, addEntry, MemberApplication.seen]

theorem screenMember_ok (h : Tracks runId before m p s) {spec : ApplicantSpec}
    (hi : spec.index ∈ m.submitted.map Prod.fst) (hour : Nat) (rows : List MemberResult) :
    ∃ acc, screenMember hour (s, rows) spec = .ok acc ∧
      Tracks runId before { m with screens := m.screens ++ [(spec.index, memberEntry spec hour)] } p
        acc.1 := by
  obtain ⟨a, ha, hhand, hone⟩ := memberApplicationAtHand_ok h hi
  refine ⟨_, by simp only [screenMember, hhand, ok_bind]; rfl, h.run_eq, ?_, ?_, h.partners,
    h.partnersHeld⟩
  · rw [memberSeen_screened s.db ha hone]
    exact h.members.screen before.membersOther (memberRef_injective _) hi (memberEntry spec hour)
  · intro e he
    obtain ⟨b, hb, hid, href⟩ := h.membersHeld e he
    refine ⟨_, List.mem_map_of_mem hb, ?_, ?_⟩
    · split <;> exact hid
    · split <;> exact href

/-- The one application with an index of the log is at hand. -/
theorem partnerApplicationAtHand_ok (h : Tracks runId before m p s) {spec : PartnerSpec}
    (hi : spec.index ∈ p.submitted.map Prod.fst) :
    ∃ a ∈ s.db.partnerApplications.rows, partnerApplicationAtHand s spec = .ok a ∧
      ∀ b ∈ s.db.partnerApplications.rows,
        b.externalRef = partnerRef runId spec.index ↔ b = a := by
  obtain ⟨hour, -, hseen⟩ := h.partners.one before.partnersOther (partnerRef_injective _) hi
  obtain ⟨a, hfilter, hone⟩ := one_row hseen
  refine ⟨a, ((hone a).2 rfl).1, ?_, fun b hb => ⟨fun href => (hone b).1 ⟨hb, href⟩,
    fun hba => ((hone b).2 hba).2⟩⟩
  unfold partnerApplicationAtHand
  cases hheld : (s.partnerApplicationsByIndex.lookup spec.index).bind
      s.db.partnerApplications.get? with
  | none =>
    simp only [partnerApplicationForRun, h.run_eq]
    exact getOne_filter hfilter
  | some b => rw [held_row h.partnersHeld hone hheld]

/-- A review that is not refused leaves the application screened. -/
theorem screenPartnerApplication_ok (db : Db) {a : PartnerApplication} {spec : PartnerSpec}
    {ref : String} (ha : a ∈ db.partnerApplications.rows)
    (hone : ∀ b ∈ db.partnerApplications.rows, b.externalRef = ref ↔ b = a)
    (hstatus : spec.reviewStatus ≠ .submitted) (hour : Nat) :
    ∃ db' row, screenPartnerApplication db a spec hour = .ok (db', row) ∧
      db'.memberApplications = db.memberApplications ∧
      db'.partnerSeen = db.partnerSeen.map (addEntry ref (partnerEntry spec hour)) ∧
      ∀ b ∈ db.partnerApplications.rows, ∃ b' ∈ db'.partnerApplications.rows,
        b'.applicationId = b.applicationId ∧ b'.externalRef = b.externalRef := by
  refine ⟨_, _, (by
    simp only [screenPartnerApplication, reviewPartnerApplication, if_neg hstatus, ok_bind]
    rfl), ?_, ?_, ?_⟩
  · rfl
  · change ((db.partnerApplications.rows.map fun row => if row.applicationId = a.applicationId then
      { row with status := spec.reviewStatus, reviewNote := (partnerEntry spec hour).reason }
      else row).map fun row => if row.applicationId = a.applicationId then
        row.screened (partnerEntry spec hour) else row).map PartnerApplication.seen = _
    rw [Db.partnerSeen, List.map_map, List.map_map, List.map_map]
    apply List.map_congr_left
    intro b hb
    by_cases hba : b = a
    · have href := (hone b hb).2 hba
      subst hba
      simp [href, addEntry, PartnerApplication.seen, PartnerApplication.screened]
    · have href : b.externalRef ≠ ref := fun heq => hba ((hone b hb).1 heq)
      have hid : b.applicationId ≠ a.applicationId :=
        fun heq => hba (db.partnerApplications.eq_of_pk hb ha heq)
      simp [href, hid, addEntry, PartnerApplication.seen]
  · intro b hb
    refine ⟨_, List.mem_map_of_mem (List.mem_map_of_mem hb), ?_, ?_⟩
    · split <;> rfl
    · split <;> rfl

theorem screenPartner_ok (h : Tracks runId before m p s) {spec : PartnerSpec}
    (hi : spec.index ∈ p.submitted.map Prod.fst) (hstatus : spec.reviewStatus ≠ .submitted)
    (hour : Nat) (rows : List PartnerResult) :
    ∃ acc, screenPartner hour (s, rows) spec = .ok acc ∧
      Tracks runId before m { p with screens := p.screens ++ [(spec.index, partnerEntry spec hour)] }
        acc.1 := by
  obtain ⟨a, ha, hhand, hone⟩ := partnerApplicationAtHand_ok h hi
  obtain ⟨db, row, hscreen, hmembers, hseen, hkept⟩ :=
    screenPartnerApplication_ok s.db ha hone hstatus hour
  refine ⟨({ s with db := db }, rows ++ [row]), ?_, h.run_eq, ?_, ?_, ?_, ?_⟩
  · simp only [screenPartner, hhand, ok_bind, hscreen]
    rfl
  · simp only [Db.memberSeen, hmembers]
    exact h.members
  · simp only [hmembers]
    exact h.membersHeld
  · simp only [hseen]
    exact h.partners.screen before.partnersOther (partnerRef_injective _) hi
      (partnerEntry spec hour)
  · intro e he
    obtain ⟨b, hb, hid, href⟩ := h.partnersHeld e he
    obtain ⟨b', hb', hid', href'⟩ := hkept b hb
    exact ⟨b', hb', hid'.trans hid, href'.trans href⟩

/-! ## An hour -/

/-- The columns of a kind of specs, and the entry a screening adds. -/
structure SpecKind (σ δ : Type) where
  index : σ → Nat
  applyHour : σ → Nat
  screenHour : σ → Nat
  entry : σ → Nat → HistoryEntry δ

def memberKind : SpecKind ApplicantSpec ApplicationStatus :=
  ⟨ApplicantSpec.index, ApplicantSpec.applyHour, ApplicantSpec.screenHour, memberEntry⟩

def partnerKind : SpecKind PartnerSpec PartnerStatus :=
  ⟨PartnerSpec.index, PartnerSpec.applyHour, PartnerSpec.screenHour, partnerEntry⟩

namespace SpecKind

variable {σ δ : Type} (kind : SpecKind σ δ)

def submittedAt (specs : List σ) (hour : Nat) : List (Nat × Nat) :=
  (specs.filter fun spec => kind.applyHour spec = hour).map fun spec => (kind.index spec, hour)

def screensAt (specs : List σ) (hour : Nat) : List (Nat × HistoryEntry δ) :=
  (specs.filter fun spec => kind.screenHour spec = hour).map fun spec =>
    (kind.index spec, kind.entry spec hour)

/-- The log after an hour. -/
def after (specs : List σ) (hour : Nat) (log : TrackLog δ) : TrackLog δ where
  submitted := log.submitted ++ kind.submittedAt specs hour
  screens := log.screens ++ kind.screensAt specs hour

/-- The hour submits new indices, and what it screens has been submitted. -/
structure Fits (specs : List σ) (hour : Nat) (log : TrackLog δ) : Prop where
  numbered : ((log.submitted ++ kind.submittedAt specs hour).map Prod.fst).Nodup
  due : ∀ e ∈ kind.screensAt specs hour,
    e.1 ∈ (log.submitted ++ kind.submittedAt specs hour).map Prod.fst

/-- An index of the hour is new when it is submitted. -/
theorem Fits.new {specs done rest : List σ} {hour : Nat} {spec : σ} {log : TrackLog δ}
    (h : kind.Fits specs hour log)
    (hsplit : (specs.filter fun spec => kind.applyHour spec = hour) = done ++ spec :: rest) :
    kind.index spec ∉
      (log.submitted ++ done.map fun spec => (kind.index spec, hour)).map Prod.fst := by
  have hnd := h.numbered
  rw [submittedAt, hsplit, List.map_append (f := fun spec => (kind.index spec, hour)),
    List.map_cons, ← List.append_assoc, List.map_append, List.nodup_append] at hnd
  intro hmem
  exact hnd.2.2 _ hmem _ List.mem_cons_self rfl

end SpecKind

theorem submitMembers_ok (hd : driver.Succeeds) (h : Tracks runId before m p s)
    {specs : List ApplicantSpec} {hour : Nat} (hfits : memberKind.Fits specs hour m) :
    ∃ s', (specs.filter fun spec => spec.applyHour = hour).foldlM (submitMember driver hour) s =
        .ok s' ∧
      Tracks runId before
        { m with submitted := m.submitted ++ memberKind.submittedAt specs hour } p s' := by
  apply foldlM_turns fun done s => Tracks runId before { m with
    submitted := m.submitted ++ done.map fun (spec : ApplicantSpec) => (spec.index, hour) } p s
  · simpa using h
  · intro done spec rest s hsplit hs
    obtain ⟨s', hs', h'⟩ := submitMember_ok hd hs (hfits.new memberKind hsplit) hour
    refine ⟨s', hs', ?_⟩
    simpa using h'

theorem submitPartners_ok (hd : driver.Succeeds) (h : Tracks runId before m p s)
    {specs : List PartnerSpec} {hour : Nat} (hfits : partnerKind.Fits specs hour p) :
    ∃ s', (specs.filter fun spec => spec.applyHour = hour).foldlM (submitPartner driver hour) s =
        .ok s' ∧
      Tracks runId before m
        { p with submitted := p.submitted ++ partnerKind.submittedAt specs hour } s' := by
  apply foldlM_turns fun done s => Tracks runId before m { p with
    submitted := p.submitted ++ done.map fun (spec : PartnerSpec) => (spec.index, hour) } s
  · simpa using h
  · intro done spec rest s hsplit hs
    obtain ⟨s', hs', h'⟩ := submitPartner_ok hd hs (hfits.new partnerKind hsplit) hour
    refine ⟨s', hs', ?_⟩
    simpa using h'

theorem screenMembers_ok (h : Tracks runId before m p s) {specs : List ApplicantSpec} {hour : Nat}
    (hdue : ∀ e ∈ memberKind.screensAt specs hour, e.1 ∈ m.submitted.map Prod.fst) :
    ∃ acc, (specs.filter fun spec => spec.screenHour = hour).foldlM (screenMember hour) (s, []) =
        .ok acc ∧
      Tracks runId before { m with screens := m.screens ++ memberKind.screensAt specs hour } p
        acc.1 := by
  apply foldlM_turns fun done (acc : LoopState × List MemberResult) => Tracks runId before { m with
    screens := m.screens ++ done.map fun (spec : ApplicantSpec) => (spec.index, memberEntry spec hour) } p acc.1
  · simpa using h
  · rintro done spec rest ⟨s, rows⟩ hsplit hs
    have hspec : (spec.index, memberEntry spec hour) ∈ memberKind.screensAt specs hour := by
      refine List.mem_map.2 ⟨spec, ?_, rfl⟩
      rw [show (specs.filter fun spec => memberKind.screenHour spec = hour) = done ++ spec :: rest
        from hsplit]
      exact List.mem_append_right _ List.mem_cons_self
    obtain ⟨acc, hacc, h'⟩ := screenMember_ok hs (hdue _ hspec) hour rows
    refine ⟨acc, hacc, ?_⟩
    simpa using h'

theorem screenPartners_ok (h : Tracks runId before m p s) {specs : List PartnerSpec} {hour : Nat}
    (hstatus : ∀ spec ∈ specs, spec.reviewStatus ≠ .submitted)
    (hdue : ∀ e ∈ partnerKind.screensAt specs hour, e.1 ∈ p.submitted.map Prod.fst) :
    ∃ acc, (specs.filter fun spec => spec.screenHour = hour).foldlM (screenPartner hour) (s, []) =
        .ok acc ∧
      Tracks runId before m { p with screens := p.screens ++ partnerKind.screensAt specs hour }
        acc.1 := by
  apply foldlM_turns fun done (acc : LoopState × List PartnerResult) => Tracks runId before m { p with
    screens := p.screens ++ done.map fun (spec : PartnerSpec) => (spec.index, partnerEntry spec hour) } acc.1
  · simpa using h
  · rintro done spec rest ⟨s, rows⟩ hsplit hs
    have hmem : spec ∈ specs.filter fun spec => spec.screenHour = hour := by
      rw [hsplit]
      exact List.mem_append_right _ List.mem_cons_self
    have hspec : (spec.index, partnerEntry spec hour) ∈ partnerKind.screensAt specs hour :=
      List.mem_map.2 ⟨spec, hmem, rfl⟩
    obtain ⟨acc, hacc, h'⟩ := screenPartner_ok hs (hdue _ hspec)
      (hstatus _ (List.mem_of_mem_filter hmem)) hour rows
    refine ⟨acc, hacc, ?_⟩
    simpa using h'

/-- The loop over an hour extends the logs by the hour. -/
theorem runHour_ok (hd : driver.Succeeds) (h : Tracks runId before m p s)
    {applicants : List ApplicantSpec} {partners : List PartnerSpec} {hour : Nat}
    (hm : memberKind.Fits applicants hour m) (hp : partnerKind.Fits partners hour p)
    (hstatus : ∀ spec ∈ partners, spec.reviewStatus ≠ .submitted) :
    ∃ s', runHour driver applicants partners s hour = .ok s' ∧ s'.run.currentHour = hour ∧
      Tracks runId before (memberKind.after applicants hour m) (partnerKind.after partners hour p)
        s' := by
  obtain ⟨s₁, hs₁, h₁⟩ := submitMembers_ok hd h hm
  obtain ⟨s₂, hs₂, h₂⟩ := submitPartners_ok hd h₁ hp
  obtain ⟨⟨s₃, rows⟩, hs₃, h₃⟩ := screenMembers_ok h₂ hm.due
  obtain ⟨⟨s₄, partnerRows⟩, hs₄, h₄⟩ := screenPartners_ok h₃ hstatus hp.due
  refine ⟨_, by simp only [runHour, hs₁, hs₂, hs₃, hs₄, ok_bind]; rfl, rfl, ?_⟩
  exact ⟨h₄.run_eq, h₄.members, h₄.membersHeld, h₄.partners, h₄.partnersHeld⟩

end LiveOs.ZeroStart
