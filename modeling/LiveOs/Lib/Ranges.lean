import Mathlib.Data.List.Nodup
import Mathlib.Data.List.Range

/-!
# Numbers from fixed ranges

Records of several kinds are numbered from a base of their kind on. The numbers are distinct exactly
when every kind ends before the bases of the later kinds that have records.
-/

namespace LiveOs.Lib

/-- The numbers of a kind with a base and a count. -/
def numbersOf (kind : Nat × Nat) : List Nat := List.range' (kind.1 + 1) kind.2

theorem mem_numbersOf {kind : Nat × Nat} {n : Nat} :
    n ∈ numbersOf kind ↔ kind.1 < n ∧ n ≤ kind.1 + kind.2 := by
  rw [numbersOf, List.mem_range'_1]
  omega

/-- Every kind ends before the bases of the later kinds with records. -/
def Apart (kinds : List (Nat × Nat)) : Prop :=
  kinds.Pairwise fun a b => b.2 = 0 ∨ a.1 + a.2 ≤ b.1

instance (kinds : List (Nat × Nat)) : Decidable (Apart kinds) :=
  inferInstanceAs (Decidable (List.Pairwise ..))

theorem disjoint_numbersOf {a b : Nat × Nat} (h : a.1 < b.1) :
    (numbersOf a).Disjoint (numbersOf b) ↔ b.2 = 0 ∨ a.1 + a.2 ≤ b.1 := by
  constructor
  · intro hdisjoint
    by_contra hnot
    push Not at hnot
    obtain ⟨hb, ha⟩ := hnot
    exact hdisjoint (mem_numbersOf.2 ⟨(by omega : a.1 < b.1 + 1), by omega⟩)
      (mem_numbersOf.2 ⟨by omega, by omega⟩)
  · intro hapart n hna hnb
    rw [mem_numbersOf] at hna hnb
    omega

/-- **Fixed ranges.** Over growing bases the numbers are distinct exactly when the kinds are
apart. -/
theorem nodup_numbers_iff {kinds : List (Nat × Nat)} (hbases : kinds.Pairwise (·.1 < ·.1)) :
    (kinds.flatMap numbersOf).Nodup ↔ Apart kinds := by
  rw [List.nodup_flatMap]
  constructor
  · rintro ⟨-, hdisjoint⟩
    exact (hbases.and hdisjoint).imp fun ⟨hlt, hd⟩ => (disjoint_numbersOf hlt).1 hd
  · intro hapart
    refine ⟨fun kind _ => List.nodup_range', ?_⟩
    exact (hbases.and hapart).imp fun ⟨hlt, ha⟩ => (disjoint_numbersOf hlt).2 ha

/-- A text splits in one way at its last separator. -/
theorem append_separator_inj {α : Type} {sep : α} {ds es : List α} (hds : sep ∉ ds)
    (hes : sep ∉ es) : ∀ {xs ys : List α}, xs ++ sep :: ds = ys ++ sep :: es → xs = ys ∧ ds = es
  | [], [], h => ⟨rfl, (List.cons.inj h).2⟩
  | [], y :: ys, h => by
    rw [List.nil_append, List.cons_append] at h
    rw [(List.cons.inj h).2] at hds
    exact absurd (List.mem_append_right ys List.mem_cons_self) hds
  | x :: xs, [], h => by
    rw [List.nil_append, List.cons_append] at h
    rw [← (List.cons.inj h).2] at hes
    exact absurd (List.mem_append_right xs List.mem_cons_self) hes
  | x :: xs, y :: ys, h => by
    obtain ⟨hhead, htail⟩ := List.cons.inj h
    obtain ⟨hrest, hend⟩ := append_separator_inj hds hes htail
    exact ⟨by rw [hhead, hrest], hend⟩

end LiveOs.Lib
