import Mathlib.Algebra.BigOperators.Group.List.Lemmas
import Mathlib.Algebra.GroupWithZero.Nat
import LiveOs.Lib.Outcomes

/-!
# Rows of a join

An inner join gives every row once for each of its matches. How often a test is met in the result
is a sum over the rows, not a count of them. Beside it, selecting with a test that may raise.
-/

namespace LiveOs.Lib

variable {ρ μ ε : Type}

/-! ## Joins -/

/-- Every row once for each of its matches. -/
def joinRows (matching : ρ → List μ) (rows : List ρ) : List ρ :=
  rows.flatMap fun r => (matching r).map fun _ => r

section

variable {matching : ρ → List μ} {p : ρ → Bool}

theorem joinRows_cons (r : ρ) (rows : List ρ) : joinRows matching (r :: rows) =
    List.replicate (matching r).length r ++ joinRows matching rows := by
  unfold joinRows
  rw [List.flatMap_cons, List.map_const']

theorem mem_joinRows {rows : List ρ} {r : ρ} :
    r ∈ joinRows matching rows ↔ r ∈ rows ∧ matching r ≠ [] := by
  unfold joinRows
  simp only [List.mem_flatMap, List.mem_map]
  constructor
  · rintro ⟨s, hs, m, hm, rfl⟩
    exact ⟨hs, List.ne_nil_of_mem hm⟩
  · rintro ⟨hr, hne⟩
    obtain ⟨m, hm⟩ := List.exists_mem_of_ne_nil _ hne
    exact ⟨r, hr, m, hm, rfl⟩

/-- **Counting in a join** counts every row as often as it matches. -/
theorem length_filter_joinRows (rows : List ρ) : ((joinRows matching rows).filter p).length =
    ((rows.filter p).map fun r => (matching r).length).sum := by
  induction rows with
  | nil => rfl
  | cons r rows ih =>
    rw [joinRows_cons, List.filter_append, List.length_append, ih]
    by_cases h : p r = true <;> simp [h]

/-- A row with its own key counts once. -/
theorem length_filter_singleton {κ : Type} [DecidableEq κ] (key : ρ → κ) {f : ρ} {rows : List ρ}
    (hf : f ∈ rows) (hnd : (rows.map key).Nodup) : ([f].filter p).length =
      ((rows.filter p).map fun r => if key f = key r then 1 else 0).sum := by
  induction rows with
  | nil => cases hf
  | cons r rows ih =>
    rw [List.map_cons, List.nodup_cons] at hnd
    rcases List.mem_cons.1 hf with rfl | hf
    · have hrest : ((rows.filter p).map fun r => if key f = key r then 1 else 0).sum = 0 := by
        apply List.sum_eq_zero
        intro n hn
        obtain ⟨s, hs, rfl⟩ := List.mem_map.1 hn
        refine if_neg fun heq => hnd.1 ?_
        rw [heq]
        exact List.mem_map_of_mem (List.mem_filter.1 hs).1
      by_cases hp : p f = true <;> simp [hp, hrest]
    · have hne : key f ≠ key r := by
        intro heq
        rw [← heq] at hnd
        exact hnd.1 (List.mem_map_of_mem hf)
      rw [ih hf hnd.2]
      by_cases hp : p r = true <;> simp [hp, hne]

end

/-! ## Selections -/

/-- `[x for x in xs if p(x)]` where the test may raise. -/
def selectRows (p : ρ → Except ε Bool) : List ρ → Except ε (List ρ)
  | [] => .ok []
  | r :: rows => do
    let keep ← p r
    let rest ← selectRows p rows
    return if keep then r :: rest else rest

section

variable {p : ρ → Except ε Bool} {q : ρ → Bool} {rows : List ρ}

/-- A selection whose tests all have a value. -/
theorem selectRows_of_ok (h : ∀ r ∈ rows, p r = .ok (q r)) :
    selectRows p rows = .ok (rows.filter q) := by
  induction rows with
  | nil => rfl
  | cons r rows ih =>
    obtain ⟨hr, hrows⟩ := List.forall_mem_cons.1 h
    rw [selectRows, hr, ok_bind, ih hrows, ok_bind, List.filter_cons]
    rfl

/-- A selection returns when all its tests do. -/
theorem returns_selectRows : Returns (selectRows p rows) ↔ ∀ r ∈ rows, Returns (p r) := by
  induction rows with
  | nil => exact iff_of_true ⟨[], rfl⟩ (List.forall_mem_nil _)
  | cons r rows ih =>
    rw [selectRows, returns_bind, List.forall_mem_cons, ← ih]
    constructor
    · rintro ⟨keep, hkeep, hrest⟩
      obtain ⟨rest, hrest, -⟩ := returns_bind.1 hrest
      exact ⟨⟨keep, hkeep⟩, rest, hrest⟩
    · rintro ⟨⟨keep, hkeep⟩, rest, hrest⟩
      exact ⟨keep, hkeep, returns_bind.2 ⟨rest, hrest, ⟨_, rfl⟩⟩⟩

end

theorem mapM_of_ok {α β : Type} {f : α → Except ε β} {g : α → β} {xs : List α}
    (h : ∀ x ∈ xs, f x = .ok (g x)) : xs.mapM f = .ok (xs.map g) := by
  induction xs with
  | nil => rfl
  | cons x xs ih =>
    obtain ⟨hx, hxs⟩ := List.forall_mem_cons.1 h
    rw [List.mapM_cons, hx, ok_bind, ih hxs]
    rfl

end LiveOs.Lib
