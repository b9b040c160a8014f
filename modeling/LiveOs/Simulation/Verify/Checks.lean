import LiveOs.Simulation.Verify.Progress

/-!
# What the checks say

A node without a failure has passed every check; a failure is that of the first check that fails.
-/

namespace LiveOs.Simulation

open Lib Planning
open Procurement (PyDecimal)

variable {lang : Language} {db : SimDb} {run : SimulationRun} {node : PlanNode}
  {resources : Resources} {data : FailureData}

theorem firstFailure_none {checks : List (Except PyError (Option FailureData))}
    (h : firstFailure checks = .ok none) : ∀ check ∈ checks, check = .ok none := by
  induction checks with
  | nil => simp
  | cons check checks ih =>
    cases check with
    | error e => cases h
    | ok failure =>
      cases failure with
      | some data => cases h
      | none =>
        intro c hc
        rcases List.mem_cons.1 hc with rfl | hc
        · rfl
        · exact ih h c hc

theorem firstFailure_some {checks : List (Except PyError (Option FailureData))}
    (h : firstFailure checks = .ok (some data)) : .ok (some data) ∈ checks := by
  induction checks with
  | nil => cases h
  | cons check checks ih =>
    cases check with
    | error e => cases h
    | ok failure =>
      cases failure with
      | none => exact List.mem_cons_of_mem _ (ih h)
      | some other =>
        obtain rfl : other = data := by
          simpa [firstFailure] using h
        exact List.mem_cons_self

/-! ## Passed checks -/

/-- The dependencies of a node that may start are completed. -/
theorem dependencies_completed
    (h : feasibilityFailureForNode lang db resources run node = .ok none) {d : PlanDependency}
    (hd : d ∈ db.plan.dependencies.rows) (hnode : d.node = node.nodeId)
    (hexists : (db.plan.nodes.get? d.dependsOn).isSome) :
    ∃ t, stateOf? db run.runId d.dependsOn = some t ∧ t.status = .completed := by
  have hcheck : dependencyFailure db run node = none :=
    Except.ok.inj (firstFailure_none h _ List.mem_cons_self)
  have htitles : unmetDependencyTitles db run node = [] := by
    unfold dependencyFailure at hcheck
    split at hcheck
    · assumption
    · cases hcheck
  obtain ⟨n, hn⟩ := Option.isSome_iff_exists.1 hexists
  have hmem : (d, n) ∈ dependenciesOf db node := by
    refine List.mem_filterMap.2 ⟨d, (orderBy_perm _ _ _).mem_iff.2 ?_, by rw [hn]; rfl⟩
    exact List.mem_filter.2 ⟨hd, decide_eq_true hnode⟩
  have hmet := List.filter_eq_nil_iff.1 (List.map_eq_nil_iff.1 htitles) _ hmem
  unfold isUnmet at hmet
  cases hstate : stateOf? db run.runId d.dependsOn with
  | none => simp [hstate] at hmet
  | some t => exact ⟨t, rfl, by simpa [hstate] using hmet⟩

/-- A node that may start costs no more than what remains. -/
theorem cost_le_remaining (h : feasibilityFailureForNode lang db resources run node = .ok none)
    {remaining : PyDecimal}
    (hremaining : decimalFromText lang.py run.metadata.remainingBudget = .finite remaining) :
    rational node.estimatedCostExpected.value ≤ rational remaining := by
  have hcheck : budgetFailure lang run node = .ok none := firstFailure_none h _ (by simp)
  by_contra hlt
  have horder : remaining.lt node.estimatedCostExpected.value = true := lt_iff.2 (not_le.1 hlt)
  unfold budgetFailure at hcheck
  simp only [hremaining, Decimal.order, horder, if_true, ok_bind] at hcheck
  cases hcheck

/-! ## Failures -/

/-- A failure is that of the dependencies or of another type, and its metadata says nothing about
durations. -/
theorem failure_metadata
    (h : feasibilityFailureForNode lang db resources run node = .ok (some data)) :
    (dependencyFailure db run node = some data ∨ data.failureType ≠ .dependencyUnmet) ∧
      ∀ e ∈ data.metadata, e.1 ≠ "duration_days" := by
  have hmem := firstFailure_some h
  simp only [List.mem_cons, List.not_mem_nil, or_false] at hmem
  rcases hmem with hd | hl | hp | hb | hr | hc | hs
  · have hd := (Except.ok.inj hd).symm
    refine ⟨.inl hd, ?_⟩
    unfold dependencyFailure at hd
    split at hd
    · cases hd
    · obtain rfl := Option.some.inj hd
      simp
  · have hl := (Except.ok.inj hl).symm
    unfold laborFailure at hl
    simp only at hl
    split at hl
    · obtain rfl := Option.some.inj hl
      simp
    · cases hl
  · obtain ⟨order, -, hp⟩ := bind_eq_ok.1 hp.symm
    split at hp
    · obtain rfl := Option.some.inj (pure_eq_ok.1 hp)
      simp
    · cases hp
  · obtain ⟨order, -, hb⟩ := bind_eq_ok.1 hb.symm
    split at hb
    · obtain rfl := Option.some.inj (pure_eq_ok.1 hb)
      simp
    · cases hb
  · obtain ⟨shortages, -, hr⟩ := bind_eq_ok.1 hr.symm
    split at hr
    · cases hr
    · obtain rfl := Option.some.inj (pure_eq_ok.1 hr)
      simp
  · obtain ⟨missing, -, hc⟩ := bind_eq_ok.1 hc.symm
    split at hc
    · cases hc
    · obtain rfl := Option.some.inj (pure_eq_ok.1 hc)
      simp [responsibilityClosureFailureForNode]
  · obtain ⟨missing, -, hs⟩ := bind_eq_ok.1 hs.symm
    split at hs
    · cases hs
    · obtain ⟨names, -, hs⟩ := bind_eq_ok.1 hs
      obtain rfl := Option.some.inj (pure_eq_ok.1 hs)
      simp

/-- A failure for unmet dependencies names one. -/
theorem unmet_of_failure
    (h : feasibilityFailureForNode lang db resources run node = .ok (some data))
    (htype : data.failureType = .dependencyUnmet) :
    ∃ d ∈ db.plan.dependencies.rows, d.node = node.nodeId ∧
      ∀ t, stateOf? db run.runId d.dependsOn = some t → t.status ≠ .completed := by
  have hdependency := (failure_metadata h).1.resolve_right fun hne => hne htype
  have htitles : unmetDependencyTitles db run node ≠ [] := by
    intro hnil
    rw [dependencyFailure, hnil] at hdependency
    cases hdependency
  obtain ⟨title, htitle⟩ := List.exists_mem_of_ne_nil _ htitles
  obtain ⟨⟨d, n⟩, hpair, -⟩ := List.mem_map.1 htitle
  obtain ⟨hmem, hunmet⟩ := List.mem_filter.1 hpair
  obtain ⟨d', hd', hbind⟩ := List.mem_filterMap.1 hmem
  obtain ⟨m, -, hdn⟩ := Option.map_eq_some_iff.1 hbind
  obtain ⟨rfl, rfl⟩ := Prod.mk.inj hdn
  rw [(orderBy_perm _ _ _).mem_iff, List.mem_filter, decide_eq_true_eq] at hd'
  refine ⟨d', hd'.1, hd'.2, fun t ht hcompleted => ?_⟩
  simp [isUnmet, ht, hcompleted] at hunmet

end LiveOs.Simulation
