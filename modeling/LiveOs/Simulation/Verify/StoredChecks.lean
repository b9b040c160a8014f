import LiveOs.Lib.Outcomes
import LiveOs.Simulation.StoredChecks
import LiveOs.Simulation.Verify.Runs

/-!
# When the checks of a stored run can be relied on

A node starts when no check fails, so a passed cascade has to mean that the node is feasible, and no
stored value may make a check raise. Each check is read as two conditions on what is stored, one for
failing and one for passing; the cascade of these conditions says when both hold.
-/

namespace LiveOs.Simulation

open Lib Planning
open Procurement (PyDecimal)

/-! ## Cascades -/

section

variable {S : Prop} {check : Except PyError (Option FailureData)}
  {checks : List (Except PyError (Option FailureData))}

/-- A result that is a failure or none, and none only where `S` holds. -/
def Reliable (S : Prop) (r : Except PyError (Option FailureData)) : Prop :=
  (r = .ok none → S) ∧ Returns r

theorem reliable_nil : Reliable S (firstFailure []) ↔ S :=
  ⟨fun h => h.1 rfl, fun h => ⟨fun _ => h, none, rfl⟩⟩

/-- The first check fails, or it passes and the others can be relied on. -/
theorem reliable_cons : Reliable S (firstFailure (check :: checks)) ↔
    (∃ data, check = .ok (some data)) ∨ check = .ok none ∧ Reliable S (firstFailure checks) := by
  cases check with
  | error e =>
    constructor
    · rintro ⟨-, failure, h⟩
      cases h
    · rintro (⟨data, h⟩ | ⟨h, -⟩)
      · cases h
      · cases h
  | ok failure =>
    cases failure with
    | none =>
      refine ⟨fun h => .inr ⟨rfl, h⟩, ?_⟩
      rintro (⟨data, h⟩ | ⟨-, h⟩)
      · cases h
      · exact h
    | some data =>
      refine ⟨fun _ => .inl ⟨data, rfl⟩, fun _ => ⟨fun h => ?_, some data, rfl⟩⟩
      cases h

end

/-! ## Checks of lists -/

section

variable {α β ε : Type} {f : α → Except ε (Option β)}

/-- Nothing is collected where every item passes. -/
theorem collect_none {xs : List α} :
    (∃ ys, xs.mapM f = .ok ys ∧ ys.filterMap id = []) ↔ ∀ x ∈ xs, f x = .ok none := by
  induction xs with
  | nil =>
    constructor
    · intro _ x hx
      cases hx
    · exact fun _ => ⟨[], rfl, rfl⟩
  | cons x xs ih =>
    rw [List.forall_mem_cons, ← ih]
    constructor
    · rintro ⟨ys, hys, hnil⟩
      rw [List.mapM_cons] at hys
      obtain ⟨y, hy, hys⟩ := bind_eq_ok.1 hys
      obtain ⟨zs, hzs, hys⟩ := bind_eq_ok.1 hys
      obtain rfl := pure_eq_ok.1 hys
      cases y with
      | none => exact ⟨hy, zs, hzs, hnil⟩
      | some b => cases hnil
    · rintro ⟨hx, ys, hys, hnil⟩
      refine ⟨none :: ys, ?_, hnil⟩
      rw [List.mapM_cons, hx, ok_bind, hys, ok_bind]
      rfl

/-- What is collected is nothing, or something. -/
theorem collected_nil {x : Except ε (List α)} :
    (do
      let xs ← x
      return (← xs.mapM f).filterMap id) = .ok [] ↔
      ∃ xs, x = .ok xs ∧ ∀ a ∈ xs, f a = .ok none := by
  simp only [← collect_none, bind_eq_ok, pure_eq_ok]

/-- Something is collected where no item raises and one is found. -/
theorem collect_some {xs : List α} :
    (∃ ys, xs.mapM f = .ok ys ∧ ys.filterMap id ≠ []) ↔
      (∀ x ∈ xs, Returns (f x)) ∧ ∃ x ∈ xs, f x ≠ .ok none := by
  rw [← returns_mapM]
  constructor
  · rintro ⟨ys, hys, hne⟩
    refine ⟨⟨ys, hys⟩, ?_⟩
    by_contra hnone
    push Not at hnone
    obtain ⟨zs, hzs, hnil⟩ := collect_none.2 hnone
    obtain rfl := Except.ok.inj (hys.symm.trans hzs)
    exact hne hnil
  · rintro ⟨⟨ys, hys⟩, x, hx, hfound⟩
    refine ⟨ys, hys, fun hnil => hfound ?_⟩
    exact collect_none.1 ⟨ys, hys, hnil⟩ x hx

theorem collected_cons {x : Except ε (List α)} :
    (∃ b bs, (do
      let xs ← x
      return (← xs.mapM f).filterMap id) = .ok (b :: bs)) ↔
      ∃ xs, x = .ok xs ∧ (∀ a ∈ xs, Returns (f a)) ∧ ∃ a ∈ xs, f a ≠ .ok none := by
  simp only [← collect_some, bind_eq_ok, pure_eq_ok]
  constructor
  · rintro ⟨b, bs, xs, hxs, ys, hys, hcons⟩
    refine ⟨xs, hxs, ys, hys, ?_⟩
    rw [hcons]
    exact List.cons_ne_nil b bs
  · rintro ⟨xs, hxs, ys, hys, hne⟩
    obtain ⟨b, bs, hcons⟩ := List.exists_cons_of_ne_nil hne
    exact ⟨b, bs, xs, hxs, ys, hys, hcons⟩

/-- A check of a list passes where the list is empty. -/
theorem listCheck_passes {x : Except PyError (List β)}
    {k : List β → Except PyError (Option FailureData)} (hnil : k [] = .ok none)
    (hcons : ∀ b bs, k (b :: bs) ≠ .ok none) : (x >>= k) = .ok none ↔ x = .ok [] := by
  rw [bind_eq_ok]
  constructor
  · rintro ⟨ys, hys, hk⟩
    cases ys with
    | nil => exact hys
    | cons b bs => exact absurd hk (hcons b bs)
  · exact fun h => ⟨[], h, hnil⟩

end

/-! ## What the checks read -/

variable {lang : Language} {db : SimDb} {resources : Resources} {run : StoredRun} {node : PlanNode}

/-- The decimal is a number or an infinity. -/
def Ordered (d : Decimal) : Prop := ∀ signaling, d ≠ .nan signaling

/-- The decimal is at least the number. -/
def AtLeast (d : Decimal) (q : ℚ) : Prop :=
  d = .infinity false ∨ ∃ r, d = .finite r ∧ q ≤ rational r

/-- The decimal is larger than the number. -/
def Above (d : Decimal) (q : ℚ) : Prop :=
  d = .infinity false ∨ ∃ r, d = .finite r ∧ q < rational r

theorem atLeast_finite {a : PyDecimal} {q : ℚ} : AtLeast (.finite a) q ↔ q ≤ rational a := by
  constructor
  · rintro (h | ⟨r, h, hle⟩)
    · cases h
    · cases h
      exact hle
  · exact fun h => .inr ⟨a, rfl, h⟩

theorem above_finite {a : PyDecimal} {q : ℚ} : Above (.finite a) q ↔ q < rational a := by
  constructor
  · rintro (h | ⟨r, h, hlt⟩)
    · cases h
    · cases h
      exact hlt
  · exact fun h => .inr ⟨a, rfl, h⟩

theorem ordered_finite (a : PyDecimal) : Ordered (.finite a) := fun _ h => by cases h

theorem ordered_infinity (negative : Bool) : Ordered (.infinity negative) := fun _ h => by cases h

theorem returns_order {d : Decimal} {b : PyDecimal} : Returns (d.order b) ↔ Ordered d := by
  cases d with
  | finite a => exact ⟨fun _ => ordered_finite a, fun _ => ⟨_, rfl⟩⟩
  | infinity negative => exact ⟨fun _ => ordered_infinity negative, fun _ => ⟨_, rfl⟩⟩
  | nan signaling =>
    constructor
    · rintro ⟨o, h⟩
      cases h
    · exact fun h => absurd rfl (h signaling)

theorem order_eq_lt {d : Decimal} {b : PyDecimal} :
    d.order b = .ok .lt ↔ Ordered d ∧ ¬ AtLeast d (rational b) := by
  cases d with
  | finite a =>
    rw [atLeast_finite, not_le, ← lt_iff]
    simp only [Decimal.order, ordered_finite, true_and]
    by_cases h : a.lt b = true
    · simp [h]
    · by_cases h' : b.lt a = true <;> simp [h, h']
  | infinity negative =>
    cases negative with
    | true =>
      refine ⟨fun _ => ⟨ordered_infinity true, ?_⟩, fun _ => rfl⟩
      rintro (h | ⟨r, h, -⟩) <;> cases h
    | false =>
      constructor
      · intro h
        cases h
      · exact fun h => absurd (.inl rfl) h.2
  | nan signaling =>
    constructor
    · intro h
      cases h
    · exact fun h => absurd rfl (h.1 signaling)

theorem order_eq_gt {d : Decimal} {b : PyDecimal} :
    d.order b = .ok .gt ↔ Above d (rational b) := by
  cases d with
  | finite a =>
    rw [above_finite, ← lt_iff]
    simp only [Decimal.order]
    by_cases h : a.lt b = true
    · have hlt := lt_iff.1 h
      have h' : b.lt a = false := by
        rw [Bool.eq_false_iff]
        exact fun hgt => (lt_iff.1 hgt).not_gt hlt
      simp [h, h']
    · by_cases h' : b.lt a = true <;> simp [h, h']
  | infinity negative =>
    cases negative with
    | true =>
      constructor
      · intro h
        cases h
      · rintro (h | ⟨r, h, -⟩) <;> cases h
    | false => exact ⟨fun _ => .inl rfl, fun _ => rfl⟩
  | nan signaling =>
    constructor
    · intro h
      cases h
    · rintro (h | ⟨r, h, -⟩) <;> cases h

/-! ## Dependencies -/

theorem isUnmet_eq_false {id : String} {n : NodeId} : isUnmet db id n = false ↔
    ∃ t, stateOf? db id n = some t ∧ t.status = .completed := by
  unfold isUnmet
  cases stateOf? db id n with
  | none => simp
  | some t => simp

theorem dependency_passes : storedDependencyFailure db run node = none ↔
    ∀ d ∈ dependenciesOf db node, isUnmet db run.runId d.1.dependsOn = false := by
  have htitles : storedDependencyFailure db run node = none ↔ unmetTitles db run node = [] := by
    unfold storedDependencyFailure
    split
    · rename_i h
      exact ⟨fun _ => h, fun _ => rfl⟩
    · rename_i h
      constructor
      · intro hsome
        cases hsome
      · exact fun hnil => absurd hnil h
  rw [htitles, unmetTitles, List.map_eq_nil_iff, List.filter_eq_nil_iff]
  simp only [Bool.not_eq_true]

/-! ## People, fatigue and budget -/

theorem order_ne_lt {d : Decimal} {b : PyDecimal} {P : Prop} :
    (∃ o, d.order b = .ok o ∧ o ≠ .lt ∧ P) ↔ AtLeast d (rational b) ∧ P := by
  constructor
  · rintro ⟨o, ho, hne, hP⟩
    refine ⟨?_, hP⟩
    by_contra hless
    have hlt := order_eq_lt.2 ⟨returns_order.1 ⟨o, ho⟩, hless⟩
    exact hne (Except.ok.inj (ho.symm.trans hlt))
  · rintro ⟨hleast, hP⟩
    have hordered : Ordered d := by
      rcases hleast with rfl | ⟨r, rfl, -⟩
      · exact ordered_infinity false
      · exact ordered_finite r
    obtain ⟨o, ho⟩ := returns_order (b := b).2 hordered
    refine ⟨o, ho, ?_, hP⟩
    rintro rfl
    exact (order_eq_lt.1 ho).2 hleast

/-- A check that needs a value fails where the value can be read and the rest fails. -/
theorem fails_bind {α : Type} {x : Except PyError α}
    {f : α → Except PyError (Option FailureData)} :
    (∃ data, (x >>= f) = .ok (some data)) ↔ ∃ a, x = .ok a ∧ ∃ data, f a = .ok (some data) := by
  constructor
  · rintro ⟨data, h⟩
    obtain ⟨a, ha, hdata⟩ := bind_eq_ok.1 h
    exact ⟨a, ha, data, hdata⟩
  · rintro ⟨a, ha, data, hdata⟩
    exact ⟨data, bind_eq_ok.2 ⟨a, ha, hdata⟩⟩

theorem fails_if {c : Prop} [Decidable c] {data : FailureData} :
    (∃ d, (if c then pure (some data) else pure none : Except PyError (Option FailureData)) =
      .ok (some d)) ↔ c := by
  by_cases h : c
  · rw [if_pos h]
    exact ⟨fun _ => h, fun _ => ⟨data, rfl⟩⟩
  · rw [if_neg h]
    constructor
    · rintro ⟨d, hd⟩
      cases hd
    · exact fun hc => absurd hc h

theorem passes_if {c : Prop} [Decidable c] {data : FailureData} :
    (if c then pure (some data) else pure none : Except PyError (Option FailureData)) =
      .ok none ↔ ¬ c := by
  by_cases h : c
  · rw [if_pos h]
    constructor
    · intro hd
      cases hd
    · exact fun hc => absurd h hc
  · rw [if_neg h]
    exact ⟨fun _ => h, fun _ => rfl⟩

theorem labor_fails : (∃ data, storedLaborFailure lang run node = .ok (some data)) ↔
    ∃ n, run.availablePeople lang = .ok n ∧ n < node.requiredPeopleMin.val := by
  simp only [storedLaborFailure, fails_bind, fails_if]

theorem labor_passes : storedLaborFailure lang run node = .ok none ↔
    ∃ n, run.availablePeople lang = .ok n ∧ node.requiredPeopleMin.val ≤ n := by
  simp only [storedLaborFailure, bind_eq_ok, passes_if, not_lt]

/-- Worn out, and needed for more than a small part of the work. -/
def WornOut (node : PlanNode) (people : Int) (fatigue : Decimal) : Prop :=
  AtLeast fatigue 85 ∧ max 1 (people / 3) ≤ node.requiredPeopleMin.val

theorem rational_85 : rational ⟨85, 0⟩ = 85 := by
  norm_num [rational]

theorem personnel_fails : (∃ data, storedPersonnelFailure lang run node = .ok (some data)) ↔
    ∃ n, run.availablePeople lang = .ok n ∧ ∃ d, run.decimal lang "average_fatigue" = .ok d ∧
      WornOut node n d := by
  simp only [storedPersonnelFailure, fails_bind, fails_if]
  refine exists_congr fun n => and_congr_right fun _ => exists_congr fun d =>
    and_congr_right fun _ => ?_
  rw [order_ne_lt, rational_85]
  rfl

theorem personnel_passes : storedPersonnelFailure lang run node = .ok none ↔
    ∃ n, run.availablePeople lang = .ok n ∧ ∃ d, run.decimal lang "average_fatigue" = .ok d ∧
      Ordered d ∧ ¬ WornOut node n d := by
  simp only [storedPersonnelFailure, bind_eq_ok, passes_if]
  refine exists_congr fun n => and_congr_right fun _ => exists_congr fun d =>
    and_congr_right fun _ => ?_
  have hworn : WornOut node n d ↔ ∃ o, d.order ⟨85, 0⟩ = .ok o ∧ o ≠ .lt ∧
      max 1 (n / 3) ≤ (node.requiredPeopleMin.val : Int) := by
    rw [order_ne_lt, rational_85]
    rfl
  rw [hworn, ← returns_order (b := ⟨85, 0⟩)]
  constructor
  · rintro ⟨o, ho, hnot⟩
    refine ⟨⟨o, ho⟩, ?_⟩
    rintro ⟨o', ho', hworn⟩
    obtain rfl := Except.ok.inj (ho.symm.trans ho')
    exact hnot hworn
  · rintro ⟨⟨o, ho⟩, hnot⟩
    exact ⟨o, ho, fun hworn => hnot ⟨o, ho, hworn⟩⟩

/-- The number that a node is expected to cost. -/
def expectedCost (node : PlanNode) : ℚ := rational node.estimatedCostExpected.value

theorem budget_fails : (∃ data, storedBudgetFailure lang run node = .ok (some data)) ↔
    ∃ d, run.decimal lang "remaining_budget" = .ok d ∧ Ordered d ∧
      ¬ AtLeast d (expectedCost node) := by
  simp only [storedBudgetFailure, fails_bind, fails_if]
  refine exists_congr fun d => and_congr_right fun _ => ?_
  rw [expectedCost, ← order_eq_lt]
  constructor
  · rintro ⟨o, ho, rfl⟩
    exact ho
  · exact fun ho => ⟨_, ho, rfl⟩

theorem budget_passes : storedBudgetFailure lang run node = .ok none ↔
    ∃ d, run.decimal lang "remaining_budget" = .ok d ∧ AtLeast d (expectedCost node) := by
  simp only [storedBudgetFailure, bind_eq_ok, passes_if]
  refine exists_congr fun d => and_congr_right fun _ => ?_
  have hleast := order_ne_lt (d := d) (b := node.estimatedCostExpected.value) (P := True)
  simp only [and_true] at hleast
  exact hleast

/-! ## Resources -/

/-- The type and the quantity that an item of `required_resources` asks for. -/
def requirementOf (lang : Language) (item : Json) : Option (String × Decimal) :=
  match asDict item with
  | none => none
  | some entries =>
    let resourceType := orElse (getKey entries "resource_type") (getKey entries "type")
    if truthy resourceType then
      some (lang.py.str resourceType, decimalFromMetadata lang.py (getKey entries "quantity"))
    else none

/-- What a node asks for. -/
def requirementsOf (lang : Language) (node : PlanNode) : Except PyError (List (String × Decimal)) :=
  (iterate node.requiredResources).map fun items => items.filterMap (requirementOf lang)

/-- The stock of a resource type. -/
def stockOf (resources : Resources) (resourceType : String) : ℚ :=
  rational (availableStock resources resourceType)

theorem shortage_of_none {item : Json} (h : requirementOf lang item = none) :
    resourceShortage lang resources item = .ok none := by
  unfold resourceShortage
  cases hdict : asDict item with
  | none => rfl
  | some entries =>
    simp only [requirementOf, hdict, ite_eq_right_iff, reduceCtorEq, imp_false] at h
    simp only
    rw [if_pos h]
    rfl

theorem shortage_of_some {item : Json} {r : String × Decimal}
    (h : requirementOf lang item = some r) :
    (Returns (resourceShortage lang resources item) ↔ Ordered r.2) ∧
      (resourceShortage lang resources item = .ok none ↔
        Ordered r.2 ∧ ¬ Above r.2 (stockOf resources r.1)) := by
  have heq : resourceShortage lang resources item = (do
      if (← r.2.order (availableStock resources r.1)) = .gt then
        return some ⟨r.1, r.2, availableStock resources r.1⟩
      return none) := by
    unfold resourceShortage
    cases hdict : asDict item with
    | none => simp [requirementOf, hdict] at h
    | some entries =>
      simp only [requirementOf, hdict] at h
      split at h
      · rename_i htruthy
        obtain rfl := Option.some.inj h
        simp only
        rw [if_neg (not_not.2 htruthy)]
      · cases h
  rw [heq, stockOf, ← order_eq_gt, ← returns_order (b := availableStock resources r.1)]
  cases r.2.order (availableStock resources r.1) with
  | error e => simp
  | ok o =>
    simp only [ok_bind, returns_ok, true_and, iff_true]
    by_cases hgt : o = .gt
    · rw [if_pos hgt, hgt]
      refine ⟨⟨_, rfl⟩, ?_, fun hne => absurd rfl hne⟩
      intro hnone
      cases hnone
    · rw [if_neg hgt]
      exact ⟨⟨_, rfl⟩, fun _ heq => hgt (Except.ok.inj heq), fun _ => rfl⟩

theorem returns_shortage {item : Json} : Returns (resourceShortage lang resources item) ↔
    ∀ r, requirementOf lang item = some r → Ordered r.2 := by
  cases h : requirementOf lang item with
  | none => simp [shortage_of_none h]
  | some r => simp [(shortage_of_some h).1]

theorem no_shortage {item : Json} : resourceShortage lang resources item = .ok none ↔
    ∀ r, requirementOf lang item = some r → Ordered r.2 ∧ ¬ Above r.2 (stockOf resources r.1) := by
  cases h : requirementOf lang item with
  | none => simp [shortage_of_none h]
  | some r =>
    rw [(shortage_of_some h).2]
    simp

theorem forall_filterMap {α β : Type} {f : α → Option β} {xs : List α} {P : β → Prop} :
    (∀ x ∈ xs, ∀ b, f x = some b → P b) ↔ ∀ b ∈ xs.filterMap f, P b := by
  constructor
  · intro h b hb
    obtain ⟨x, hx, hfx⟩ := List.mem_filterMap.1 hb
    exact h x hx b hfx
  · intro h x hx b hfx
    exact h b (List.mem_filterMap.2 ⟨x, hx, hfx⟩)

/-- The quantities are in order, and none exceeds the stock. -/
def InStock (resources : Resources) (r : String × Decimal) : Prop :=
  Ordered r.2 ∧ ¬ Above r.2 (stockOf resources r.1)

theorem requirementsOf_eq {reqs : List (String × Decimal)} : requirementsOf lang node = .ok reqs ↔
    ∃ items, iterate node.requiredResources = .ok items ∧
      items.filterMap (requirementOf lang) = reqs := by
  unfold requirementsOf
  cases iterate node.requiredResources with
  | error e => simp [Except.map]
  | ok items => simp [Except.map]

theorem resource_passes : resourceFailure lang resources node = .ok none ↔
    ∃ reqs, requirementsOf lang node = .ok reqs ∧ ∀ r ∈ reqs, InStock resources r := by
  have hlist : resourceFailure lang resources node = .ok none ↔
      resourceShortagesForNode lang resources node = .ok [] := by
    refine listCheck_passes rfl fun b bs h => ?_
    cases h
  rw [hlist, resourceShortagesForNode, collected_nil]
  simp only [no_shortage]
  constructor
  · rintro ⟨items, hitems, hall⟩
    exact ⟨_, requirementsOf_eq.2 ⟨items, hitems, rfl⟩, forall_filterMap.1 hall⟩
  · rintro ⟨reqs, hreqs, hall⟩
    obtain ⟨items, hitems, rfl⟩ := requirementsOf_eq.1 hreqs
    exact ⟨items, hitems, forall_filterMap.2 hall⟩

theorem resource_fails : (∃ data, resourceFailure lang resources node = .ok (some data)) ↔
    ∃ reqs, requirementsOf lang node = .ok reqs ∧ (∀ r ∈ reqs, Ordered r.2) ∧
      ∃ r ∈ reqs, ¬ InStock resources r := by
  have hlist : (∃ data, resourceFailure lang resources node = .ok (some data)) ↔
      ∃ b bs, resourceShortagesForNode lang resources node = .ok (b :: bs) := by
    unfold resourceFailure
    rw [fails_bind]
    constructor
    · rintro ⟨ys, hys, data, hdata⟩
      cases ys with
      | nil => cases hdata
      | cons b bs => exact ⟨b, bs, hys⟩
    · rintro ⟨b, bs, h⟩
      exact ⟨b :: bs, h, _, rfl⟩
  rw [hlist, resourceShortagesForNode, collected_cons]
  simp only [returns_shortage, no_shortage, ne_eq]
  constructor
  · rintro ⟨items, hitems, hordered, item, hitem, hshort⟩
    refine ⟨_, requirementsOf_eq.2 ⟨items, hitems, rfl⟩, forall_filterMap.1 hordered, ?_⟩
    push Not at hshort
    obtain ⟨r, hr, hshort⟩ := hshort
    refine ⟨r, List.mem_filterMap.2 ⟨item, hitem, hr⟩, fun hin => ?_⟩
    exact hin.2 (hshort hin.1)
  · rintro ⟨reqs, hreqs, hordered, r, hr, hshort⟩
    obtain ⟨items, hitems, rfl⟩ := requirementsOf_eq.1 hreqs
    obtain ⟨item, hitem, hitem'⟩ := List.mem_filterMap.1 hr
    exact ⟨items, hitems, forall_filterMap.2 hordered, item, hitem, fun h => hshort (h r hitem')⟩

/-! ## Responsibility closures -/

/-- What a list of the node's metadata holds; anything else holds nothing. -/
def listedUnder (node : PlanNode) (key : String) : List Json :=
  match orEmptyList (getKey ((asDict node.metadata).getD []) key) with
  | .arr items => items
  | _ => []

def requiredClosures (node : PlanNode) : List Json :=
  listedUnder node "required_responsibility_closures"

def responsibilityDocuments (node : PlanNode) : List Json :=
  listedUnder node "responsibility_documents"

/-- The documents are missing, or a list. -/
def DocumentsListed (node : PlanNode) : Prop :=
  ∃ items, orEmptyList (getKey ((asDict node.metadata).getD []) "responsibility_documents") =
    .arr items

/-- The code of a closure; empty where the item has none. -/
def closureCode (lang : Language) (item : Json) : String :=
  match asDict item with
  | none => ""
  | some entries => strip (strOr lang.py (getKey entries "code") "")

/-- A valid document has the code. -/
def Backed (lang : Language) (node : PlanNode) (code : String) : Prop :=
  ∃ entries, Json.obj entries ∈ responsibilityDocuments node ∧
    strOr lang.py (getKey entries "closure_code") "" = code ∧
      responsibilityDocumentIsValid entries = true

/-- The item asks for a closure that no valid document backs. -/
def Unbacked (lang : Language) (node : PlanNode) (item : Json) : Prop :=
  closureCode lang item ≠ "" ∧ ¬ Backed lang node (closureCode lang item)

/-- The examples and the subjects of an item can be listed. -/
def Describable (item : Json) : Prop :=
  ∀ entries, item = .obj entries →
    Returns (iterate (orEmptyList (getKey entries "examples"))) ∧
      Returns (iterate (orEmptyList (getKey entries "responsible_subjects")))

theorem mem_filterMap_asDict {items : List Json} {entries : List (String × Json)} :
    entries ∈ items.filterMap asDict ↔ Json.obj entries ∈ items := by
  rw [List.mem_filterMap]
  constructor
  · rintro ⟨item, hitem, hdict⟩
    cases item with
    | obj es =>
      obtain rfl := Option.some.inj hdict
      exact hitem
    | _ => cases hdict
  · exact fun h => ⟨_, h, rfl⟩

theorem matching_any {code : String} :
    (((responsibilityDocuments node).filterMap asDict).filter fun document =>
      strOr lang.py (getKey document "closure_code") "" = code).any responsibilityDocumentIsValid =
        true ↔ Backed lang node code := by
  simp only [List.any_eq_true, List.mem_filter, mem_filterMap_asDict, decide_eq_true_eq, Backed]
  refine exists_congr fun entries => ?_
  rw [and_assoc]

theorem missingClosure_of_backed {item : Json} (h : ¬ Unbacked lang node item) :
    missingClosure lang (responsibilityDocuments node) item = .ok none := by
  unfold missingClosure
  cases hdict : asDict item with
  | none => rfl
  | some entries =>
    have hcode : closureCode lang item = strip (strOr lang.py (getKey entries "code") "") := by
      rw [closureCode, hdict]
    simp only
    by_cases hempty : strip (strOr lang.py (getKey entries "code") "") = ""
    · rw [if_pos hempty]
      rfl
    · have hbacked : Backed lang node (strip (strOr lang.py (getKey entries "code") "")) := by
        by_contra hnot
        exact h ⟨by rw [hcode]; exact hempty, by rw [hcode]; exact hnot⟩
      rw [if_neg hempty, if_pos (matching_any.2 hbacked)]
      rfl

theorem missingClosure_of_unbacked {item : Json} (h : Unbacked lang node item) :
    missingClosure lang (responsibilityDocuments node) item ≠ .ok none ∧
      (Returns (missingClosure lang (responsibilityDocuments node) item) ↔ Describable item) := by
  obtain ⟨hcode, hbacked⟩ := h
  cases item with
  | obj entries =>
    have heq : closureCode lang (.obj entries) = strip (strOr lang.py (getKey entries "code") "") :=
      rfl
    rw [heq] at hcode hbacked
    have hdescribable : Describable (.obj entries) ↔
        Returns (iterate (orEmptyList (getKey entries "examples"))) ∧
          Returns (iterate (orEmptyList (getKey entries "responsible_subjects"))) := by
      constructor
      · exact fun h => h entries rfl
      · rintro h es hes
        obtain rfl := Json.obj.inj hes
        exact h
    rw [hdescribable]
    unfold missingClosure
    simp only [asDict]
    rw [if_neg hcode, if_neg (fun hany => hbacked (matching_any.1 hany))]
    constructor
    · intro hnone
      obtain ⟨examples, -, hnone⟩ := bind_eq_ok.1 hnone
      obtain ⟨subjects, -, hnone⟩ := bind_eq_ok.1 hnone
      cases hnone
    · rw [returns_bind]
      constructor
      · rintro ⟨examples, hexamples, hrest⟩
        obtain ⟨subjects, hsubjects, -⟩ := returns_bind.1 hrest
        exact ⟨⟨examples, hexamples⟩, subjects, hsubjects⟩
      · rintro ⟨⟨examples, hexamples⟩, subjects, hsubjects⟩
        exact ⟨examples, hexamples, returns_bind.2 ⟨subjects, hsubjects, ⟨_, rfl⟩⟩⟩
  | _ => exact absurd rfl hcode

theorem no_missingClosure {item : Json} :
    missingClosure lang (responsibilityDocuments node) item = .ok none ↔
      ¬ Unbacked lang node item :=
  ⟨fun h hun => (missingClosure_of_unbacked hun).1 h, missingClosure_of_backed⟩

theorem returns_missingClosure {item : Json} :
    Returns (missingClosure lang (responsibilityDocuments node) item) ↔
      (Unbacked lang node item → Describable item) := by
  by_cases h : Unbacked lang node item
  · simp [h, (missingClosure_of_unbacked h).2]
  · simp [h, missingClosure_of_backed h]

theorem missingClosures_of_listed (h : DocumentsListed node) :
    missingResponsibilityClosuresForNode lang node = (do
      let items ← Except.ok (requiredClosures node)
      return (← items.mapM (missingClosure lang (responsibilityDocuments node))).filterMap id) := by
  obtain ⟨documents, hdocuments⟩ := h
  have hlisted : responsibilityDocuments node = documents := by
    rw [responsibilityDocuments, listedUnder, hdocuments]
  rw [hlisted]
  unfold missingResponsibilityClosuresForNode requiredClosures listedUnder
  simp only [hdocuments]
  split
  · rename_i items documents' hitems hdocuments'
    obtain rfl := Json.arr.inj hdocuments'
    rw [hitems]
    rfl
  · rename_i hnot
    split
    · rename_i items hitems
      exact absurd rfl (hnot items documents hitems)
    · rfl

/-- Where the documents are no list, nothing is looked for. -/
theorem missingClosures_of_unlisted (h : ¬ DocumentsListed node) :
    missingResponsibilityClosuresForNode lang node = .ok [] := by
  unfold missingResponsibilityClosuresForNode
  simp only
  split
  · rename_i items documents hitems hdocuments
    exact absurd ⟨documents, hdocuments⟩ h
  · rfl

theorem closure_passes : closureFailure lang node = .ok none ↔
    (DocumentsListed node → ∀ item ∈ requiredClosures node, ¬ Unbacked lang node item) := by
  have hlist : closureFailure lang node = .ok none ↔
      missingResponsibilityClosuresForNode lang node = .ok [] := by
    refine listCheck_passes rfl fun b bs h => ?_
    cases h
  rw [hlist]
  by_cases h : DocumentsListed node
  · rw [missingClosures_of_listed h, collected_nil]
    simp only [no_missingClosure, Except.ok.injEq, exists_eq_left', h, true_imp_iff]
  · rw [missingClosures_of_unlisted h]
    exact ⟨fun _ hlisted => absurd hlisted h, fun _ => rfl⟩

theorem closure_fails : (∃ data, closureFailure lang node = .ok (some data)) ↔
    DocumentsListed node ∧
      (∀ item ∈ requiredClosures node, Unbacked lang node item → Describable item) ∧
        ∃ item ∈ requiredClosures node, Unbacked lang node item := by
  have hlist : (∃ data, closureFailure lang node = .ok (some data)) ↔
      ∃ b bs, missingResponsibilityClosuresForNode lang node = .ok (b :: bs) := by
    unfold closureFailure
    rw [fails_bind]
    constructor
    · rintro ⟨ys, hys, data, hdata⟩
      cases ys with
      | nil => cases hdata
      | cons b bs => exact ⟨b, bs, hys⟩
    · rintro ⟨b, bs, h⟩
      exact ⟨b :: bs, h, _, rfl⟩
  rw [hlist]
  by_cases h : DocumentsListed node
  · rw [missingClosures_of_listed h, collected_cons]
    simp only [returns_missingClosure, no_missingClosure, Except.ok.injEq, exists_eq_left', h,
      true_and, ne_eq, not_not]
  · rw [missingClosures_of_unlisted h]
    constructor
    · rintro ⟨b, bs, hcons⟩
      cases hcons
    · exact fun hlisted => absurd hlisted.1 h

/-! ## Skills -/

/-- The skill is among those of the run. -/
def Available (lang : Language) (available : List Json) (skill : Json) : Prop :=
  .str (normalizeSkill lang skill) ∈ available

/-- The members of the set can be compared with each other. -/
def Sortable (items : List Json) : Prop :=
  (distinct items).length ≤ 1 ∨ (∀ item ∈ distinct items, isText item = true) ∨
    ∀ item ∈ distinct items, isNumber item = true

theorem returns_sortedSet {items : List Json} : Returns (sortedSet items) ↔ Sortable items := by
  unfold sortedSet Sortable
  split
  · rename_i h
    simp [h]
  · rename_i item h
    simp [h]
  · rename_i hne hone
    have hlen : ¬ (distinct items).length ≤ 1 := by
      intro hle
      cases hcase : distinct items with
      | nil => exact hne hcase
      | cons x xs =>
        rw [hcase, List.length_cons] at hle
        have hxs : xs = [] := List.length_eq_zero_iff.1 (by omega)
        exact hone x (by rw [hcase, hxs])
    simp only [hlen, false_or, List.all_eq_true]
    split
    · rename_i hkinds
      exact ⟨fun _ => hkinds, fun _ => ⟨_, rfl⟩⟩
    · rename_i hkinds
      exact ⟨fun hreturns => absurd hreturns (not_returns_error _), fun h => absurd h hkinds⟩

theorem mem_lackingSkills {available skills : List Json} {skill : Json} :
    skill ∈ lackingSkills lang available skills ↔
      skill ∈ skills ∧ ¬ Available lang available skill := by
  have havailable : (available.any fun item => item.toPy.isStr (normalizeSkill lang skill)) = true ↔
      Available lang available skill := by
    rw [List.any_eq_true, Available]
    constructor
    · rintro ⟨item, hitem, hstr⟩
      cases item with
      | str s =>
        obtain rfl : s = normalizeSkill lang skill := by simpa [Json.toPy, PyVal.isStr] using hstr
        exact hitem
      | scalar s => simp [Json.toPy, PyVal.isStr] at hstr
      | arr xs => simp [Json.toPy, PyVal.isStr] at hstr
      | obj es => simp [Json.toPy, PyVal.isStr] at hstr
    · exact fun h => ⟨_, h, by simp [Json.toPy, PyVal.isStr]⟩
  rw [lackingSkills, List.mem_filter, Bool.not_eq_eq_eq_not, Bool.not_true, ← havailable,
    Bool.not_eq_true]

theorem returns_joinItems {sep : String} {items : List Json} :
    Returns (joinItems sep items) ↔ ∀ item ∈ items, ∃ s, item = .str s := by
  have hmap : ∀ x : Except PyError (List String),
      Returns (x.map (join sep)) ↔ Returns x := by
    intro x
    cases x with
    | error e => simp [Except.map]
    | ok ys => simp [Except.map]
  rw [joinItems, hmap, returns_mapM]
  refine forall₂_congr fun item _ => ?_
  cases item with
  | str s => simp
  | _ => simp

theorem skill_passes : storedSkillFailure lang run node = .ok none ↔
    ∃ available, run.skills = .ok available ∧ ∃ skills, iterate node.requiredSkills = .ok skills ∧
      ∀ skill ∈ skills, Available lang available skill := by
  simp only [storedSkillFailure, bind_eq_ok]
  refine exists_congr fun available => and_congr_right fun _ => exists_congr fun skills =>
    and_congr_right fun _ => ?_
  have hnil : lackingSkills lang available skills = [] ↔
      ∀ skill ∈ skills, Available lang available skill := by
    simp only [List.eq_nil_iff_forall_not_mem, mem_lackingSkills, not_and, not_not]
  rw [← hnil]
  split
  · rename_i h
    exact ⟨fun _ => h, fun _ => rfl⟩
  · rename_i h
    constructor
    · intro hsome
      obtain ⟨names, -, hsome⟩ := bind_eq_ok.1 hsome
      obtain ⟨sorted, -, hsome⟩ := bind_eq_ok.1 hsome
      cases hsome
    · exact fun hnil => absurd hnil h

theorem skill_fails : (∃ data, storedSkillFailure lang run node = .ok (some data)) ↔
    ∃ available, run.skills = .ok available ∧ ∃ skills, iterate node.requiredSkills = .ok skills ∧
      (∃ skill ∈ skills, ¬ Available lang available skill) ∧
      (∀ skill ∈ skills, ¬ Available lang available skill → ∃ s, skill = .str s) ∧
      Sortable available := by
  simp only [storedSkillFailure, fails_bind]
  refine exists_congr fun available => and_congr_right fun _ => exists_congr fun skills =>
    and_congr_right fun _ => ?_
  have hsome : lackingSkills lang available skills ≠ [] ↔
      ∃ skill ∈ skills, ¬ Available lang available skill := by
    constructor
    · intro hne
      obtain ⟨skill, hskill⟩ := List.exists_mem_of_ne_nil _ hne
      exact ⟨skill, mem_lackingSkills.1 hskill⟩
    · rintro ⟨skill, hskill, hlacking⟩
      exact List.ne_nil_of_mem (mem_lackingSkills.2 ⟨hskill, hlacking⟩)
  have htexts : (∀ skill ∈ skills, ¬ Available lang available skill → ∃ s, skill = .str s) ↔
      Returns (joinItems ", " (lackingSkills lang available skills)) := by
    simp only [returns_joinItems, mem_lackingSkills, and_imp]
  rw [← hsome, htexts, ← returns_sortedSet]
  split
  · rename_i h
    constructor
    · rintro ⟨data, hdata⟩
      cases hdata
    · exact fun hne => absurd h hne.1
  · rename_i h
    rw [fails_bind]
    constructor
    · rintro ⟨names, hnames, hrest⟩
      obtain ⟨sorted, hsorted, -⟩ := fails_bind.1 hrest
      exact ⟨h, ⟨names, hnames⟩, sorted, hsorted⟩
    · rintro ⟨-, ⟨names, hnames⟩, sorted, hsorted⟩
      exact ⟨names, hnames, fails_bind.2 ⟨sorted, hsorted, _, rfl⟩⟩

/-! ## The cascade -/

/-- The number of a finite decimal. -/
def finitePart : Decimal → ℚ
  | .finite r => rational r
  | _ => 0

/-- The quantities sum up to at most the number; a negative infinity outweighs the others. -/
def SumWithin (quantities : List Decimal) (q : ℚ) : Prop :=
  (∀ d ∈ quantities, Ordered d ∧ d ≠ .infinity false) ∧
    (.infinity true ∈ quantities ∨ (quantities.map finitePart).sum ≤ q)

/-- The quantities that are asked for of a type. -/
def quantitiesOf (reqs : List (String × Decimal)) (resourceType : String) : List Decimal :=
  (reqs.filter fun r => r.1 = resourceType).map Prod.snd

/-- The quantities of each type sum up to at most its stock. -/
def SumsFit (lang : Language) (resources : Resources) (node : PlanNode) : Prop :=
  ∀ reqs, requirementsOf lang node = .ok reqs → ∀ resourceType,
    SumWithin (quantitiesOf reqs resourceType) (stockOf resources resourceType)

/-- What holds of a node that may start. -/
structure MayStart (lang : Language) (db : SimDb) (resources : Resources) (run : StoredRun)
    (node : PlanNode) : Prop where
  dependencies : ∀ d ∈ dependenciesOf db node, ∃ t,
    stateOf? db run.runId d.1.dependsOn = some t ∧ t.status = .completed
  people : ∃ n, run.availablePeople lang = .ok n ∧ node.requiredPeopleMin.val ≤ n
  budget : ∃ d, run.decimal lang "remaining_budget" = .ok d ∧ AtLeast d (expectedCost node)
  resources : SumsFit lang resources node
  skills : ∀ skills, iterate node.requiredSkills = .ok skills → ∀ skill ∈ skills,
    ∃ available, run.skills = .ok available ∧ Available lang available skill
  closures : ∀ item ∈ requiredClosures node, closureCode lang item ≠ "" →
    Backed lang node (closureCode lang item)

/-- A cascade of conditions for failing and for passing, down to what has to hold in the end. -/
def Cascade : List (Prop × Prop) → Prop → Prop
  | [], leaf => leaf
  | (fails, passes) :: rest, leaf => fails ∨ passes ∧ Cascade rest leaf

/-- The end of a cascade is reached only where every check passes. -/
theorem cascade_congr {checks : List (Prop × Prop)} {S S' : Prop}
    (h : (∀ check ∈ checks, check.2) → (S ↔ S')) : Cascade checks S ↔ Cascade checks S' := by
  induction checks with
  | nil => exact h (fun _ hmem => by cases hmem)
  | cons check checks ih =>
    refine or_congr Iff.rfl (and_congr_right fun hpasses => ih fun hrest => h fun c hc => ?_)
    rcases List.mem_cons.1 hc with rfl | hc
    · exact hpasses
    · exact hrest c hc

/-- What has to be stored for each check to fail, and what for it to pass. -/
def checkConditions (lang : Language) (db : SimDb) (resources : Resources) (run : StoredRun)
    (node : PlanNode) : List (Prop × Prop) := [
    (∃ d ∈ dependenciesOf db node, isUnmet db run.runId d.1.dependsOn = true,
      ∀ d ∈ dependenciesOf db node, isUnmet db run.runId d.1.dependsOn = false),
    (∃ n, run.availablePeople lang = .ok n ∧ n < node.requiredPeopleMin.val,
      ∃ n, run.availablePeople lang = .ok n ∧ node.requiredPeopleMin.val ≤ n),
    (∃ n, run.availablePeople lang = .ok n ∧ ∃ d, run.decimal lang "average_fatigue" = .ok d ∧
        WornOut node n d,
      ∃ n, run.availablePeople lang = .ok n ∧ ∃ d, run.decimal lang "average_fatigue" = .ok d ∧
        Ordered d ∧ ¬ WornOut node n d),
    (∃ d, run.decimal lang "remaining_budget" = .ok d ∧ Ordered d ∧
        ¬ AtLeast d (expectedCost node),
      ∃ d, run.decimal lang "remaining_budget" = .ok d ∧ AtLeast d (expectedCost node)),
    (∃ reqs, requirementsOf lang node = .ok reqs ∧ (∀ r ∈ reqs, Ordered r.2) ∧
        ∃ r ∈ reqs, ¬ InStock resources r,
      ∃ reqs, requirementsOf lang node = .ok reqs ∧ ∀ r ∈ reqs, InStock resources r),
    (DocumentsListed node ∧
        (∀ item ∈ requiredClosures node, Unbacked lang node item → Describable item) ∧
          ∃ item ∈ requiredClosures node, Unbacked lang node item,
      DocumentsListed node → ∀ item ∈ requiredClosures node, ¬ Unbacked lang node item),
    (∃ available, run.skills = .ok available ∧ ∃ skills,
        iterate node.requiredSkills = .ok skills ∧
        (∃ skill ∈ skills, ¬ Available lang available skill) ∧
        (∀ skill ∈ skills, ¬ Available lang available skill → ∃ s, skill = .str s) ∧
        Sortable available,
      ∃ available, run.skills = .ok available ∧ ∃ skills,
        iterate node.requiredSkills = .ok skills ∧
        ∀ skill ∈ skills, Available lang available skill)]

/-- Some check fails on what is stored and those before it pass, or all pass; and then the
quantities of a type fit together, and the documents are a list unless no closure is asked for. -/
def ChecksHold (lang : Language) (db : SimDb) (resources : Resources) (run : StoredRun)
    (node : PlanNode) : Prop :=
  Cascade (checkConditions lang db resources run node) (SumsFit lang resources node ∧
    (DocumentsListed node ∨ ∀ item ∈ requiredClosures node, closureCode lang item = ""))

theorem dependency_fails : (∃ data, storedDependencyFailure db run node = some data) ↔
    ∃ d ∈ dependenciesOf db node, isUnmet db run.runId d.1.dependsOn = true := by
  have hsome : (∃ data, storedDependencyFailure db run node = some data) ↔
      storedDependencyFailure db run node ≠ none := by
    rw [← Option.isSome_iff_exists, Option.isSome_iff_ne_none]
  rw [hsome, ne_eq, dependency_passes]
  push Not
  simp only [Bool.not_eq_false]

/-- A node that asks for the same type twice. -/
def thirstyNode : PlanNode :=
  let water := .obj [("resource_type", .str "water"), ("quantity", .scalar (.int 3))]
  { pilotNode "node-w" "W" none (positive 10) with requiredResources := .arr [water, water] }

/-- A stock of 5. -/
def someWater : Resources := [("water", priced 5000)]

end LiveOs.Simulation
