import Mathlib.Algebra.BigOperators.Group.Finset.Piecewise
import Mathlib.Algebra.BigOperators.Group.Finset.Basic
import Mathlib.Algebra.BigOperators.Group.List.Lemmas
import Mathlib.Algebra.Order.Ring.Int

/-!
# Sums over a posting log

Balances derived from a log: the sum of the amounts of the rows that meet a test. Appending a row
adds its amount where the test holds, and splitting the rows by a label and summing over the
labels gives back the whole.
-/

namespace LiveOs.Lib

variable {ρ α : Type}

/-- The sum of the amounts of the rows that meet the test. -/
def sumWhere (amount : ρ → Int) (p : ρ → Bool) (rows : List ρ) : Int :=
  ((rows.filter p).map amount).sum

variable {amount : ρ → Int} {p q : ρ → Bool}

@[simp] theorem sumWhere_nil : sumWhere amount p [] = 0 := rfl

theorem sumWhere_cons (r : ρ) (rows : List ρ) :
    sumWhere amount p (r :: rows) = (if p r then amount r else 0) + sumWhere amount p rows := by
  unfold sumWhere
  by_cases h : p r = true <;> simp [h]

theorem sumWhere_append (rows rows' : List ρ) :
    sumWhere amount p (rows ++ rows') = sumWhere amount p rows + sumWhere amount p rows' := by
  simp [sumWhere]

theorem sumWhere_concat (rows : List ρ) (r : ρ) :
    sumWhere amount p (rows ++ [r]) = sumWhere amount p rows + if p r then amount r else 0 := by
  rw [sumWhere_append, sumWhere_cons, sumWhere_nil, add_zero]

theorem sumWhere_congr {rows : List ρ} (h : ∀ r ∈ rows, p r = q r) :
    sumWhere amount p rows = sumWhere amount q rows := by
  unfold sumWhere
  rw [List.filter_congr h]

theorem sumWhere_map {f : ρ → ρ} {rows : List ρ}
    (h : ∀ r ∈ rows, amount (f r) = amount r ∧ p (f r) = p r) :
    sumWhere amount p (rows.map f) = sumWhere amount p rows := by
  induction rows with
  | nil => rfl
  | cons r rows ih =>
    obtain ⟨hr, hrows⟩ := List.forall_mem_cons.1 h
    rw [List.map_cons, sumWhere_cons, sumWhere_cons, hr.1, hr.2, ih hrows]

/-- The sum without the one row that has the key of `x`. -/
theorem sumWhere_without [DecidableEq α] (key : ρ → α) {rows : List ρ}
    (hnd : (rows.map key).Nodup) {x : ρ} (hx : x ∈ rows) : sumWhere amount p rows =
      sumWhere amount p (rows.filter fun r => key r ≠ key x) + if p x then amount x else 0 := by
  induction rows with
  | nil => cases hx
  | cons r rows ih =>
    rw [List.map_cons, List.nodup_cons] at hnd
    by_cases hr : key r = key x
    · have hout : rows.filter (fun r => key r ≠ key x) = rows := by
        refine List.filter_eq_self.2 fun s hs => ?_
        simp only [ne_eq, decide_eq_true_eq, ← hr]
        exact fun h => hnd.1 (h ▸ List.mem_map_of_mem hs)
      have hrx : r = x := by
        rcases List.mem_cons.1 hx with heq | hmem
        · exact heq.symm
        · exact absurd (List.mem_map_of_mem hmem) (hr ▸ hnd.1)
      rw [List.filter_cons_of_neg (by simp [hr]), hout, sumWhere_cons, hrx, add_comm]
    · have hmem : x ∈ rows := by
        rcases List.mem_cons.1 hx with rfl | hmem
        · exact absurd rfl hr
        · exact hmem
      rw [List.filter_cons_of_pos (by simp [hr]), sumWhere_cons, sumWhere_cons, ih hnd.2 hmem,
        add_assoc]

/-- **Summing over labels.** The rows that meet the test, counted once under their label, when the
labels in use are among those summed over. -/
theorem sum_sumWhere_label [DecidableEq α] (label : ρ → Option α) (T : Finset α) {rows : List ρ}
    (h : ∀ r ∈ rows, p r = true → ∀ a, label r = some a → a ∈ T) :
    ∑ a ∈ T, sumWhere amount (fun r => p r && label r = some a) rows =
      sumWhere amount (fun r => p r && (label r).isSome) rows := by
  induction rows with
  | nil => simp
  | cons r rows ih =>
    obtain ⟨hr, hrows⟩ := List.forall_mem_cons.1 h
    simp only [sumWhere_cons, Finset.sum_add_distrib, ih hrows]
    congr 1
    cases hp : p r with
    | false => simp
    | true =>
      cases hl : label r with
      | none => simp
      | some a =>
        have ha : a ∈ T := hr hp a hl
        simp [Finset.sum_ite_eq, ha]

/-- The rows that meet a test, with and without a second one. -/
theorem sumWhere_split (q : ρ → Bool) (rows : List ρ) : sumWhere amount p rows =
    sumWhere amount (fun r => p r && q r) rows + sumWhere amount (fun r => p r && !q r) rows := by
  induction rows with
  | nil => rfl
  | cons r rows ih =>
    rw [sumWhere_cons, sumWhere_cons, sumWhere_cons, ih]
    cases p r <;> cases q r <;> simp <;> omega

/-! ## Double entries -/

/-- What flowed into an account less what flowed out of it, over the rows that meet the test. -/
def balanceWhere [DecidableEq α] (amount : ρ → Int) (source target : ρ → Option α) (p : ρ → Bool)
    (rows : List ρ) (a : α) : Int :=
  sumWhere amount (fun r => p r && target r = some a) rows -
    sumWhere amount (fun r => p r && source r = some a) rows

/-- **Double entries.** Summed over all accounts, the balances are what came in from outside less
what went out. -/
theorem sum_balanceWhere [DecidableEq α] (source target : ρ → Option α) (T : Finset α)
    {rows : List ρ} (h : ∀ r ∈ rows, ∀ a, source r = some a ∨ target r = some a → a ∈ T) :
    ∑ a ∈ T, balanceWhere amount source target p rows a =
      sumWhere amount (fun r => p r && (target r).isSome) rows -
        sumWhere amount (fun r => p r && (source r).isSome) rows := by
  simp only [balanceWhere, Finset.sum_sub_distrib]
  rw [sum_sumWhere_label target T fun r hr _ a ha => h r hr a (.inr ha),
    sum_sumWhere_label source T fun r hr _ a ha => h r hr a (.inl ha)]

end LiveOs.Lib
