import LiveOs.Risk.Alerts

/-!
# Alerts that track stock

The deduplication key gives every resource at most one alert for good, so a history of alerts is a
status for each resource. An evaluation opens an alert where there is none, closes open ones above
the threshold, and leaves every other status alone, that of a resolved alert in a new shortage too.
-/

namespace LiveOs.Risk

open Lib EventLedger Roles
open Procurement (PyDecimal Resource ResourceTable)

variable {rt : Runtime} {env : RiskEnv} {s s' s₁ : RiskState rt} {r : Resource} {id : String}

/-! ## The alert of a resource -/

/-- The deduplication key of the alert of a resource. -/
def resourceKey (id : String) : String := dedupeKey "resource" "resource" id "current_stock"

theorem resourceKey_injective : Function.Injective resourceKey := by
  intro a b h
  have hlist := congrArg String.toList h
  simp only [resourceKey, dedupeKey, String.toList_append, List.append_assoc,
    List.append_cancel_left_eq, List.append_cancel_right_eq] at hlist
  exact String.toList_inj.1 hlist

/-- The alert is one that an evaluation has opened, whatever was done to it since. -/
structure Tracked (a : RiskAlert) : Prop where
  source : a.sourceType = "resource"
  key : a.dedupeKey = resourceKey a.sourceId
  rule : a.rule = some lowStockRule
  status : a.status = .active ∨ a.status = .acknowledged ∨ a.status = .resolved

/-- All alerts are of that kind. -/
def InOrder (s : RiskState rt) : Prop := ∀ a ∈ s.alerts.rows, Tracked a

/-- The status of the alert of a resource, if there is one. -/
def statusOf (alerts : AlertTable) (id : String) : Option AlertStatus :=
  (alerts.rows.find? fun a => a.dedupeKey = resourceKey id).map RiskAlert.status

theorem statusOf_eq_some {alerts : AlertTable} {a : RiskAlert} (ha : a ∈ alerts.rows)
    (hkey : a.dedupeKey = resourceKey id) : statusOf alerts id = some a.status := by
  cases hfind : alerts.rows.find? fun a => a.dedupeKey = resourceKey id with
  | none => exact absurd (decide_eq_true hkey) (List.find?_eq_none.1 hfind a ha)
  | some b =>
    have hb := List.mem_of_find?_eq_some hfind
    have hbkey : b.dedupeKey = resourceKey id := by simpa using List.find?_some hfind
    have hsame : b = a := Table.eq_of_alt _ hb ha (congrArg some hbkey) (congrArg some hkey)
    rw [statusOf, hfind, hsame]
    rfl

theorem exists_of_statusOf {alerts : AlertTable} {st : AlertStatus}
    (h : statusOf alerts id = some st) :
    ∃ a ∈ alerts.rows, a.dedupeKey = resourceKey id ∧ a.status = st := by
  obtain ⟨a, hfind, hstatus⟩ := Option.map_eq_some_iff.1 h
  exact ⟨a, List.mem_of_find?_eq_some hfind, by simpa using List.find?_some hfind, hstatus⟩

/-- A change of one row that keeps its key. -/
theorem statusOf_modify {alerts : AlertTable} {alertId : String} {f : RiskAlert → RiskAlert}
    (hpk : ∀ a, (f a).alertId = a.alertId) (halt : ∀ a, some (f a).dedupeKey = some a.dedupeKey) :
    statusOf (alerts.modify alertId f hpk halt) id =
      (alerts.rows.find? fun a => a.dedupeKey = resourceKey id).map fun a =>
        if a.alertId = alertId then (f a).status else a.status := by
  have hkey : ∀ a, (if a.alertId = alertId then f a else a).dedupeKey = a.dedupeKey := by
    intro a
    split
    · exact Option.some.inj (halt a)
    · rfl
  rw [statusOf, Table.modify_rows, List.find?_map, Option.map_map]
  simp only [Function.comp_def, hkey]
  congr 1
  funext a
  split <;> rfl

/-! ## Every call keeps the order -/

theorem InOrder.modify (h : InOrder s) {alertId : String} {f : RiskAlert → RiskAlert}
    {hpk : ∀ a, (f a).alertId = a.alertId} {halt : ∀ a, some (f a).dedupeKey = some a.dedupeKey}
    (hf : ∀ a, Tracked a → Tracked (f a)) :
    InOrder { s with alerts := s.alerts.modify alertId f hpk halt } := by
  intro a ha
  obtain ⟨b, hb, rfl⟩ := List.mem_map.1 ha
  split
  · exact hf b (h b hb)
  · exact h b hb

theorem appendAlertEvent_alerts {alert : RiskAlert} {eventType action summary : String}
    {actor : Option Nat} {facts : List (String × Json)}
    (h : appendAlertEvent env alert eventType action summary actor facts s = .ok s') :
    s'.alerts = s.alerts ∧ s'.resources = s.resources ∧ s'.rules = s.rules := by
  obtain ⟨events, -, h⟩ := bind_eq_ok.1 h
  obtain rfl := pure_eq_ok.1 h
  exact ⟨rfl, rfl, rfl⟩

theorem appendAlertEvent_inOrder {alert : RiskAlert} {eventType action summary : String}
    {actor : Option Nat} {facts : List (String × Json)} :
    Preserves (@InOrder rt)
      (update (appendAlertEvent env alert eventType action summary actor facts)) := by
  refine Preserves.update fun s s' hs h => ?_
  rw [InOrder, (appendAlertEvent_alerts h).1]
  exact hs

theorem newAlert_tracked {rule : RiskRule} (hrule : rule.ruleId = lowStockRule) :
    Tracked (newAlert env (shortageArgs rule r)).stored :=
  ⟨rfl, rfl, congrArg some hrule, .inl rfl⟩

theorem triggerRiskAlert_inOrder {rule : RiskRule} (hrule : rule.ruleId = lowStockRule) :
    Preserves (@InOrder rt) (triggerRiskAlert env (shortageArgs rule r)) := by
  refine Preserves.get_bind fun s hs => ?_
  dsimp only
  split
  · refine Preserves.bind (Preserves.update fun s s' hs h => ?_)
      (fun _ => appendAlertEvent_inOrder) s hs
    obtain ⟨alerts, hinsert, h⟩ := bind_eq_ok.1 h
    obtain rfl := pure_eq_ok.1 h
    intro a ha
    rw [(Table.insert_ok hinsert).1] at ha
    rcases List.mem_append.1 ha with ha | ha
    · exact hs a ha
    · rw [List.mem_singleton.1 ha]
      exact newAlert_tracked hrule
  · refine Preserves.update (fun s s' hs h => ?_) s hs
    obtain rfl := Except.ok.inj h
    exact hs.modify fun a ha => ⟨ha.source, ha.key, ha.rule, ha.status⟩

theorem settleAlert_inOrder {alert : RiskAlert} :
    Preserves (@InOrder rt) (settleAlert env alert) := by
  refine Preserves.get_bind fun s hs => ?_
  split
  · exact hs
  · split
    · refine Preserves.update (fun s s' hs h => ?_) s hs
      obtain rfl := Except.ok.inj h
      exact hs.modify fun a ha => ⟨ha.source, ha.key, ha.rule, .inr (.inr rfl)⟩
    · exact hs

theorem evaluateResourceRisks_inOrder :
    Preserves (@InOrder rt) (evaluateResourceRisks env) := by
  refine Preserves.get_bind fun s hs => ?_
  refine Preserves.compute_bind (fun rule hrule => ?_) s hs
  obtain ⟨-, hid⟩ := Table.get?_eq_some.1 (related_eq_ok.1 hrule)
  refine Preserves.bind (Preserves.foldlM (fun count r => ?_) _ _) fun count => ?_
  · exact Preserves.bind (triggerRiskAlert_inOrder hid) fun _ => Preserves.pure _
  · refine Preserves.get_bind fun s₁ hs₁ => ?_
    exact Preserves.bind (Preserves.foldlM (fun _ alert => settleAlert_inOrder) _ _)
      (fun _ => Preserves.pure _) s₁ hs₁

theorem setResource_inOrder {f : Resource → Resource} {hf : ∀ r, (f r).resourceId = r.resourceId} :
    Preserves (@InOrder rt) (setResource id f hf) := by
  unfold setResource
  refine Preserves.update fun s s' hs h => ?_
  obtain rfl := Except.ok.inj h
  exact hs

/-- **Order.** -/
theorem riskCall_inOrder (c : RiskEnv × RiskCall) : Preserves (@InOrder rt) (riskCall c) := by
  obtain ⟨env, c⟩ := c
  cases c with
  | setStock resourceId stock | setThreshold resourceId threshold => exact setResource_inOrder
  | acknowledge alertId actor note =>
    refine Preserves.get_bind fun s hs => Preserves.compute_bind (fun locked _ => ?_) s hs
    refine Preserves.bind (Preserves.update fun s s' hs h => ?_) fun _ => appendAlertEvent_inOrder
    obtain rfl := Except.ok.inj h
    exact hs.modify fun a ha => ⟨ha.source, ha.key, ha.rule, .inr (.inl rfl)⟩
  | resolve alertId actor note publicNote =>
    refine Preserves.get_bind fun s hs => Preserves.compute_bind (fun locked _ => ?_) s hs
    refine Preserves.bind (Preserves.update fun s s' hs h => ?_) fun _ => appendAlertEvent_inOrder
    obtain rfl := Except.ok.inj h
    exact hs.modify fun a ha => ⟨ha.source, ha.key, ha.rule, .inr (.inr rfl)⟩
  | evaluate => exact Preserves.bind evaluateResourceRisks_inOrder fun _ => Preserves.pure _

/-! ## What an evaluation does to a status -/

/-- The status of an alert after an evaluation. -/
def evaluated (short above : Bool) : Option AlertStatus → Option AlertStatus
  | none => if short then some .active else none
  | some st => if above && st.isOpen then some .resolved else some st

/-- The resource with the id is above its threshold. -/
def aboveAt (s : RiskState rt) (id : String) : Bool := (s.resources.get? id).any isAbove

/-- Everything but alerts and events is as it was, and every alert still has its row. -/
structure SameRows (s s' : RiskState rt) : Prop where
  resources : s'.resources = s.resources
  rules : s'.rules = s.rules
  alerts : ∀ a ∈ s.alerts.rows, ∃ a' ∈ s'.alerts.rows, a'.alertId = a.alertId ∧
    a'.dedupeKey = a.dedupeKey

theorem SameRows.refl (s : RiskState rt) : SameRows s s :=
  ⟨rfl, rfl, fun a ha => ⟨a, ha, rfl, rfl⟩⟩

theorem SameRows.trans {s₁ s₂ s₃ : RiskState rt} (h : SameRows s₁ s₂) (h' : SameRows s₂ s₃) :
    SameRows s₁ s₃ := by
  refine ⟨h'.resources.trans h.resources, h'.rules.trans h.rules, ?_⟩
  intro a ha
  obtain ⟨b, hb, hbid, hbkey⟩ := h.alerts a ha
  obtain ⟨c, hc, hcid, hckey⟩ := h'.alerts b hb
  exact ⟨c, hc, hcid.trans hbid, hckey.trans hbkey⟩

theorem SameRows.modify {alertId : String} {f : RiskAlert → RiskAlert}
    {hpk : ∀ a, (f a).alertId = a.alertId} {halt : ∀ a, some (f a).dedupeKey = some a.dedupeKey} :
    SameRows s { s with alerts := s.alerts.modify alertId f hpk halt } := by
  refine ⟨rfl, rfl, fun a ha => ⟨_, List.mem_map_of_mem ha, ?_⟩⟩
  split
  · exact ⟨hpk a, Option.some.inj (halt a)⟩
  · exact ⟨rfl, rfl⟩

/-- A trigger opens an alert for its resource, if there is none. -/
theorem triggerRiskAlert_ok {rule : RiskRule}
    (h : triggerRiskAlert env (shortageArgs rule r) s = .ok () s') :
    SameRows s s' ∧ ∀ id, statusOf s'.alerts id = if r.resourceId = id
      then some ((statusOf s.alerts id).getD .active) else statusOf s.alerts id := by
  unfold triggerRiskAlert at h
  rw [run_get_bind] at h
  dsimp only at h
  generalize hfind : List.find? _ s.alerts.rows = found at h
  cases found with
  | none =>
    obtain ⟨⟨⟩, s₁, hcreate, happend⟩ := run_bind_ok.1 h
    obtain ⟨alerts, hinsert, hs₁⟩ := bind_eq_ok.1 (run_update_ok.1 hcreate)
    obtain rfl := pure_eq_ok.1 hs₁
    obtain ⟨halerts, hresources, hrules⟩ := appendAlertEvent_alerts (run_update_ok.1 happend)
    have hrows := (Table.insert_ok hinsert).1
    refine ⟨⟨hresources, hrules, fun a ha => ⟨a, ?_, rfl, rfl⟩⟩, fun id => ?_⟩
    · rw [halerts]
      exact hrows ▸ List.mem_append_left _ ha
    · have hnew : (newAlert env (shortageArgs rule r)).stored.dedupeKey =
          resourceKey r.resourceId := rfl
      rw [halerts, statusOf, statusOf, hrows, List.find?_append]
      by_cases hid : r.resourceId = id
      · have hfree : s.alerts.rows.find? (fun a => a.dedupeKey = resourceKey id) = none :=
          hid ▸ hfind
        rw [if_pos hid, hfree, List.find?_cons_of_pos (by simp [hnew, hid])]
        rfl
      · have hother : ¬ resourceKey r.resourceId = resourceKey id :=
          fun h => hid (resourceKey_injective h)
        rw [if_neg hid, List.find?_cons_of_neg (by simp [hnew, hother]), List.find?_nil,
          Option.or_none]
  | some alert =>
    obtain rfl := Except.ok.inj (run_update_ok.1 h)
    refine ⟨SameRows.modify, fun id => ?_⟩
    rw [statusOf_modify]
    simp only [ite_self]
    by_cases hid : r.resourceId = id
    · have hstatus : statusOf s.alerts id = some alert.status := by
        rw [statusOf, ← hid]
        exact congrArg (Option.map RiskAlert.status) hfind
      rw [if_pos hid, hstatus, Option.getD_some]
      exact hstatus
    · rw [if_neg hid]
      rfl

/-- One turn of the last loop resolves the alert if its resource is above the threshold. -/
theorem settleAlert_ok {alert : RiskAlert}
    (hrow : ∃ a ∈ s.alerts.rows, a.alertId = alert.alertId ∧
      a.dedupeKey = resourceKey alert.sourceId)
    (h : settleAlert env alert s = .ok () s') :
    SameRows s s' ∧ ∀ id, statusOf s'.alerts id =
      if alert.sourceId = id ∧ aboveAt s id = true then some .resolved
      else statusOf s.alerts id := by
  obtain ⟨a, ha, haid, hakey⟩ := hrow
  unfold settleAlert at h
  rw [run_get_bind] at h
  generalize hget : s.resources.get? alert.sourceId = found at h
  cases found with
  | none =>
    obtain rfl := run_pure_ok.1 h
    refine ⟨SameRows.refl s, fun id => (if_neg ?_).symm⟩
    rintro ⟨rfl, habove⟩
    simp [aboveAt, hget] at habove
  | some resource =>
    dsimp only at h
    by_cases habove : isAbove resource = true
    · rw [if_pos habove] at h
      obtain rfl := Except.ok.inj (run_update_ok.1 h)
      refine ⟨SameRows.modify, fun id => ?_⟩
      rw [statusOf_modify]
      by_cases hid : alert.sourceId = id
      · subst hid
        rw [if_pos ⟨rfl, by rw [aboveAt, hget]; exact habove⟩]
        cases hfind : s.alerts.rows.find? fun a => a.dedupeKey = resourceKey alert.sourceId with
        | none => exact absurd (decide_eq_true hakey) (List.find?_eq_none.1 hfind a ha)
        | some b =>
          have hb := List.mem_of_find?_eq_some hfind
          have hbkey : b.dedupeKey = resourceKey alert.sourceId := by
            simpa using List.find?_some hfind
          have hsame : b = a := Table.eq_of_alt _ hb ha (congrArg some hbkey) (congrArg some hakey)
          rw [Option.map_some, if_pos (hsame ▸ haid)]
      · rw [if_neg fun h => hid h.1, statusOf]
        cases hfind : s.alerts.rows.find? fun a => a.dedupeKey = resourceKey id with
        | none => rfl
        | some b =>
          have hb := List.mem_of_find?_eq_some hfind
          have hbkey : b.dedupeKey = resourceKey id := by simpa using List.find?_some hfind
          have hne : b.alertId ≠ alert.alertId := by
            intro heq
            have hsame : b = a := Table.eq_of_pk _ hb ha (heq.trans haid.symm)
            rw [hsame, hakey] at hbkey
            exact hid (resourceKey_injective hbkey)
          rw [Option.map_some, if_neg hne]
          rfl
    · rw [if_neg habove] at h
      obtain rfl := run_pure_ok.1 h
      refine ⟨SameRows.refl s, fun id => (if_neg ?_).symm⟩
      rintro ⟨rfl, h⟩
      rw [aboveAt, hget] at h
      exact habove h

/-! ## The two loops -/

/-- The first loop leaves an alert for each of its resources. -/
theorem triggers_ok {rule : RiskRule} {rs : List Resource} {count n : Nat}
    (h : (rs.foldlM (fun count r => do
      triggerRiskAlert env (shortageArgs rule r)
      return count + 1) count : EStateM Error (RiskState rt) Nat) s = .ok n s') :
    SameRows s s' ∧ ∀ id, statusOf s'.alerts id = if ∃ r ∈ rs, r.resourceId = id
      then some ((statusOf s.alerts id).getD .active) else statusOf s.alerts id := by
  induction rs generalizing count s with
  | nil =>
    obtain ⟨-, rfl⟩ := by simpa [List.foldlM_nil] using h
    exact ⟨SameRows.refl s, fun id => (if_neg (by simp)).symm⟩
  | cons r rs ih =>
    rw [List.foldlM_cons, run_bind_ok] at h
    obtain ⟨count₁, s₁, hturn, h⟩ := h
    obtain ⟨⟨⟩, s₂, htrigger, hpure⟩ := run_bind_ok.1 hturn
    obtain ⟨rfl, rfl⟩ := EStateM.Result.ok.inj hpure
    obtain ⟨hsame₁, hstatus₁⟩ := triggerRiskAlert_ok htrigger
    obtain ⟨hsame, hstatus⟩ := ih h
    refine ⟨hsame₁.trans hsame, fun id => ?_⟩
    rw [hstatus id, hstatus₁ id]
    simp only [List.exists_mem_cons_iff]
    by_cases hr : r.resourceId = id
    · simp [hr]
    · simp [hr]

/-- The second loop resolves the alerts of its list whose resources are above their thresholds. -/
theorem settles_ok {alerts : List RiskAlert} (hrows : ∀ alert ∈ alerts, ∃ a ∈ s.alerts.rows,
      a.alertId = alert.alertId ∧ a.dedupeKey = resourceKey alert.sourceId)
    (h : alerts.foldlM (fun _ alert => settleAlert env alert) () s = .ok () s') :
    SameRows s s' ∧ ∀ id, statusOf s'.alerts id =
      if (∃ alert ∈ alerts, alert.sourceId = id) ∧ aboveAt s id = true then some .resolved
      else statusOf s.alerts id := by
  induction alerts generalizing s with
  | nil =>
    obtain rfl := by simpa [List.foldlM_nil] using h
    exact ⟨SameRows.refl s, fun id => (if_neg (by simp)).symm⟩
  | cons alert alerts ih =>
    rw [List.foldlM_cons, run_bind_ok] at h
    obtain ⟨⟨⟩, s₁, hturn, h⟩ := h
    obtain ⟨hrow, hrows⟩ := List.forall_mem_cons.1 hrows
    obtain ⟨hsame₁, hstatus₁⟩ := settleAlert_ok hrow hturn
    have hrows₁ : ∀ alert ∈ alerts, ∃ a ∈ s₁.alerts.rows,
        a.alertId = alert.alertId ∧ a.dedupeKey = resourceKey alert.sourceId := by
      intro alert halert
      obtain ⟨a, ha, hid, hkey⟩ := hrows alert halert
      obtain ⟨a', ha', hid', hkey'⟩ := hsame₁.alerts a ha
      exact ⟨a', ha', hid'.trans hid, hkey'.trans hkey⟩
    obtain ⟨hsame, hstatus⟩ := ih hrows₁ h
    refine ⟨hsame₁.trans hsame, fun id => ?_⟩
    have habove : aboveAt s₁ id = aboveAt s id := by
      rw [aboveAt, hsame₁.resources]
      rfl
    rw [hstatus id, hstatus₁ id, habove]
    simp only [List.exists_mem_cons_iff]
    by_cases hid : alert.sourceId = id
    · by_cases h : aboveAt s id = true <;> simp [hid, h]
    · simp [hid]

/-! ## The evaluation -/

theorem isAbove_eq (r : Resource) : isAbove r = !(r.currentStock.le r.warningThreshold) := by
  have hmin := min_comm r.warningThreshold.exponent r.currentStock.exponent
  simp only [isAbove, PyDecimal.lt, PyDecimal.le, PyDecimal.aligned, hmin]
  rw [Bool.eq_iff_iff, Bool.not_eq_true', decide_eq_true_eq]
  exact ⟨fun h => decide_eq_false (not_le.2 h), fun h => not_le.1 (of_decide_eq_false h)⟩

/-- A short resource is not above its threshold. -/
theorem isAbove_of_isShort (h : isShort r = true) : isAbove r = false := by
  simp only [isShort, Bool.and_eq_true] at h
  rw [isAbove_eq, h.2]
  rfl

/-- **An evaluation, status by status.** -/
theorem evaluateResourceRisks_ok {n : Nat} (hs : InOrder s)
    (h : evaluateResourceRisks env s = .ok n s') : SameRows s s' ∧ ∀ r ∈ s.resources.rows,
      statusOf s'.alerts r.resourceId =
        evaluated (isShort r) (isAbove r) (statusOf s.alerts r.resourceId) := by
  unfold evaluateResourceRisks at h
  rw [run_get_bind] at h
  obtain ⟨rule, hrule, h⟩ := run_compute_bind_ok.1 h
  obtain ⟨-, hruleId⟩ := Table.get?_eq_some.1 (related_eq_ok.1 hrule)
  obtain ⟨count, s₁, htriggers, h⟩ := run_bind_ok.1 h
  rw [run_get_bind] at h
  obtain ⟨⟨⟩, s₂, hsettles, hpure⟩ := run_bind_ok.1 h
  obtain ⟨rfl, rfl⟩ := EStateM.Result.ok.inj hpure
  obtain ⟨hsame₁, hstatus₁⟩ := triggers_ok htriggers
  have hs₁ : InOrder s₁ := by
    have hkept : Preserves (@InOrder rt) _ := Preserves.foldlM (fun count r =>
      Preserves.bind (@triggerRiskAlert_inOrder rt env r rule hruleId)
        fun _ => Preserves.pure (count + 1)) 0 (s.resources.rows.filter isShort)
    have hfinal := hkept s hs
    rwa [finalState_of_ok htriggers] at hfinal
  obtain ⟨hsame₂, hstatus₂⟩ := settles_ok (fun alert halert =>
    ⟨alert, (List.mem_filter.1 halert).1, rfl, (hs₁ alert (List.mem_filter.1 halert).1).key⟩) hsettles
  refine ⟨hsame₁.trans hsame₂, fun r hr => ?_⟩
  -- which alerts the second loop goes through
  have hopen : (∃ alert ∈ s₁.alerts.rows.filter fun a => a.rule = some rule.ruleId && a.status.isOpen,
      alert.sourceId = r.resourceId) ↔
      ∃ st, statusOf s₁.alerts r.resourceId = some st ∧ st.isOpen = true := by
    constructor
    · rintro ⟨alert, halert, hid⟩
      obtain ⟨hmem, htest⟩ := List.mem_filter.1 halert
      simp only [Bool.and_eq_true, decide_eq_true_eq] at htest
      have hkey := (hs₁ alert hmem).key
      rw [hid] at hkey
      exact ⟨_, statusOf_eq_some hmem hkey, htest.2⟩
    · rintro ⟨st, hst, hopen⟩
      obtain ⟨alert, hmem, hkey, rfl⟩ := exists_of_statusOf hst
      refine ⟨alert, List.mem_filter.2 ⟨hmem, ?_⟩, ?_⟩
      · simp [(hs₁ alert hmem).rule, hruleId, hopen]
      · exact resourceKey_injective ((hs₁ alert hmem).key.symm.trans hkey)
  have habove : aboveAt s₁ r.resourceId = isAbove r := by
    rw [aboveAt, hsame₁.resources, Table.get?_eq_some.2 ⟨hr, rfl⟩]
    rfl
  have hshort : (∃ r' ∈ s.resources.rows.filter isShort, r'.resourceId = r.resourceId) ↔
      isShort r = true := by
    constructor
    · rintro ⟨r', hr', hid⟩
      obtain ⟨hmem, hshort⟩ := List.mem_filter.1 hr'
      rwa [Table.eq_of_pk _ hmem hr hid] at hshort
    · intro h
      exact ⟨r, List.mem_filter.2 ⟨hr, h⟩, rfl⟩
  have hfirst := hstatus₁ r.resourceId
  have hsecond := hstatus₂ r.resourceId
  rw [habove] at hsecond
  by_cases hr_short : isShort r = true
  · have hr_above := isAbove_of_isShort hr_short
    rw [if_pos (hshort.2 hr_short)] at hfirst
    rw [if_neg (by simp [hr_above]), hfirst] at hsecond
    rw [hsecond, hr_short, hr_above]
    cases statusOf s.alerts r.resourceId <;> rfl
  · rw [if_neg fun h => hr_short (hshort.1 h)] at hfirst
    simp only [hopen, hfirst] at hsecond
    rw [hsecond]
    cases hst : statusOf s.alerts r.resourceId with
    | none => simp [evaluated, hr_short]
    | some st =>
      cases habove : isAbove r <;> cases hst_open : st.isOpen <;> simp [evaluated, hst_open]

/-! ## Tracking -/

/-- The alert is about the resource. -/
def AlertOf (a : RiskAlert) (r : Resource) : Prop :=
  a.sourceType = "resource" ∧ a.sourceId = r.resourceId

/-- The alerts after an evaluation track the stock. -/
structure AlertsTrack (s s' : RiskState rt) : Prop where
  /-- A resource has an open alert exactly when it is short. -/
  open_iff : ∀ r ∈ s'.resources.rows,
    (∃ a ∈ s'.alerts.rows, AlertOf a r ∧ a.status.isOpen = true) ↔ isShort r = true
  /-- A resource has at most one alert. -/
  unique : ∀ r ∈ s'.resources.rows, ∀ a ∈ s'.alerts.rows, ∀ b ∈ s'.alerts.rows, AlertOf a r →
    AlertOf b r → a = b
  /-- A resolved alert of a resource above its threshold stays resolved. -/
  resolved : ∀ r ∈ s'.resources.rows, isAbove r = true → ∀ a ∈ s.alerts.rows, AlertOf a r →
    a.status = .resolved → ∃ a' ∈ s'.alerts.rows, a'.alertId = a.alertId ∧ a'.status = .resolved

theorem InOrder.key_of {a : RiskAlert} (hs : InOrder s) (ha : a ∈ s.alerts.rows)
    (hof : AlertOf a r) : a.dedupeKey = resourceKey r.resourceId := by
  rw [(hs a ha).key, hof.2]

theorem InOrder.alertOf {a : RiskAlert} (hs : InOrder s) (ha : a ∈ s.alerts.rows)
    (hkey : a.dedupeKey = resourceKey r.resourceId) : AlertOf a r :=
  ⟨(hs a ha).source, resourceKey_injective ((hs a ha).key.symm.trans hkey)⟩

/-- The open alerts of a resource, by its status. -/
theorem InOrder.open_iff (hs : InOrder s) :
    (∃ a ∈ s.alerts.rows, AlertOf a r ∧ a.status.isOpen = true) ↔
      ∃ st, statusOf s.alerts r.resourceId = some st ∧ st.isOpen = true := by
  constructor
  · rintro ⟨a, ha, hof, hopen⟩
    exact ⟨_, statusOf_eq_some ha (hs.key_of ha hof), hopen⟩
  · rintro ⟨st, hst, hopen⟩
    obtain ⟨a, ha, hkey, rfl⟩ := exists_of_statusOf hst
    exact ⟨a, ha, hs.alertOf ha hkey, hopen⟩

/-- When an evaluation gives a resource an open alert exactly if it is short. -/
theorem evaluated_open_iff {st : Option AlertStatus} :
    ((∃ st', evaluated (isShort r) (isAbove r) st = some st' ∧ st'.isOpen = true) ↔
      isShort r = true) ↔
    ∀ st', st = some st' → (isShort r = true → st'.isOpen = true) ∧
      (st'.isOpen = true → isShort r = true ∨ isAbove r = true) := by
  have hdisjoint : isShort r = true → isAbove r = false := isAbove_of_isShort
  cases st with
  | none => cases isShort r <;> simp [evaluated, AlertStatus.isOpen]
  | some st =>
    cases hshort : isShort r <;> cases habove : isAbove r <;> cases hopen : st.isOpen <;>
      simp_all [evaluated, AlertStatus.isOpen]

/-- A resource with 1 in stock and a threshold of 5. -/
def lowStore : RiskState textRuntime where
  rules := ⟨[⟨lowStockRule, "high", "public", "governance"⟩], List.nodup_singleton _, List.nodup_nil⟩
  resources := ⟨[⟨"r", "", "grain", "kg", ⟨1000, -3⟩, ⟨5000, -3⟩, "purchase", true, []⟩],
    List.nodup_singleton _, List.nodup_nil⟩
  alerts := Table.empty
  events := Journal.empty

def watchEnv (now : Nat) : RiskEnv := ⟨now, fun source => source, true⟩

/-- The resource is short, recovers, and is short again. -/
def secondShortage : List (RiskEnv × RiskCall) := [(watchEnv 1, .evaluate),
  (watchEnv 2, .setStock "r" ⟨10000, -3⟩), (watchEnv 3, .evaluate),
  (watchEnv 4, .setStock "r" ⟨1000, -3⟩)]

end LiveOs.Risk
