import Mathlib.Algebra.Order.Field.Basic
import Mathlib.Algebra.Ring.Int.Parity
import Mathlib.Data.Rat.Cast.Order
import Mathlib.Tactic.Linarith
import Mathlib.Tactic.Ring

/-!
# Rounding half to even

The integer nearest to a number, halves to the even one, by what it satisfies. The numbers that are
rounded to an integer up to `k` end at the half above `k`, which belongs to them where `k` is even.
-/

namespace LiveOs.Lib

/-- `c` is the integer nearest to `x`, halves to the even one. -/
structure HalfEven (x : ℚ) (c : ℤ) : Prop where
  below : 2 * (c : ℚ) - 1 ≤ 2 * x
  above : 2 * x ≤ 2 * (c : ℚ) + 1
  evenBelow : 2 * x = 2 * (c : ℚ) - 1 → Even c
  evenAbove : 2 * x = 2 * (c : ℚ) + 1 → Even c

namespace HalfEven

variable {x : ℚ} {c k : ℤ}

/-- Nearer than a half, no tie arises. -/
theorem of_near (hlo : 2 * (c : ℚ) - 1 < 2 * x) (hhi : 2 * x < 2 * (c : ℚ) + 1) : HalfEven x c := by
  refine ⟨hlo.le, hhi.le, fun h => ?_, fun h => ?_⟩
  · exact absurd h hlo.ne'
  · exact absurd h hhi.ne

theorem of_even (hlo : 2 * (c : ℚ) - 1 ≤ 2 * x) (hhi : 2 * x ≤ 2 * (c : ℚ) + 1) (hc : Even c) :
    HalfEven x c :=
  ⟨hlo, hhi, fun _ => hc, fun _ => hc⟩

theorem of_int (c : ℤ) : HalfEven c c := by
  apply of_near
  · linarith
  · linarith

/-- The half above `k` lies below what is rounded up from it. -/
theorem lt_iff (h : HalfEven x c) :
    k < c ↔ 2 * (k : ℚ) + 1 < 2 * x ∨ 2 * (k : ℚ) + 1 = 2 * x ∧ Odd k := by
  constructor
  · intro hk
    have hle : (k : ℚ) + 1 ≤ c := by exact_mod_cast hk
    have hbelow := h.below
    rcases (show 2 * (k : ℚ) + 1 ≤ 2 * x by linarith).lt_or_eq with hlt | heq
    · exact .inl hlt
    · have hck : (c : ℚ) = k + 1 := by linarith
      have hc : c = k + 1 := by exact_mod_cast hck
      have heven : Even c := h.evenBelow (by linarith)
      refine .inr ⟨heq, ?_⟩
      rw [hc] at heven
      exact Int.not_even_iff_odd.1 fun hk => by
        rw [Int.even_add_one] at heven
        exact heven hk
  · rintro (hlt | ⟨heq, hodd⟩)
    · by_contra hge
      have hle : (c : ℚ) ≤ k := by exact_mod_cast not_lt.1 hge
      have habove := h.above
      linarith
    · by_contra hge
      have hle : (c : ℚ) ≤ k := by exact_mod_cast not_lt.1 hge
      have habove := h.above
      have hck : (c : ℚ) = k := by linarith
      have hc : c = k := by exact_mod_cast hck
      have heven : Even c := h.evenAbove (by linarith)
      rw [hc] at heven
      exact Int.not_even_iff_odd.2 hodd heven

theorem le_iff (h : HalfEven x c) :
    c ≤ k ↔ 2 * x < 2 * (k : ℚ) + 1 ∨ 2 * x = 2 * (k : ℚ) + 1 ∧ Even k := by
  rw [← not_lt, h.lt_iff]
  constructor
  · intro hnot
    rw [not_or, not_lt, not_and, Int.not_odd_iff_even] at hnot
    rcases hnot.1.lt_or_eq with hlt | heq
    · exact .inl hlt
    · exact .inr ⟨heq, hnot.2 heq.symm⟩
  · rintro (hlt | ⟨heq, heven⟩) (hgt | ⟨heq', hodd⟩)
    · exact absurd hlt hgt.not_gt
    · linarith
    · linarith
    · exact Int.not_even_iff_odd.2 hodd heven

end HalfEven

/-! ## A second number -/

/-- `y` lies on the side of every half on which `x` is rounded. -/
def SameSide (y x : ℚ) : Prop := ∀ k : ℤ,
  ¬ (2 * y < 2 * k + 1 ∧ (2 * (k : ℚ) + 1 < 2 * x ∨ 2 * (k : ℚ) + 1 = 2 * x ∧ Odd k)) ∧
    ¬ (2 * (k : ℚ) + 1 < 2 * y ∧ (2 * x < 2 * (k : ℚ) + 1 ∨ 2 * x = 2 * (k : ℚ) + 1 ∧ Even k))

variable {x y : ℚ} {c : ℤ}

/-- **A number is within a half of what another one is rounded to** exactly when no half separates
the two. -/
theorem HalfEven.close_iff (h : HalfEven x c) : |y - c| ≤ 1 / 2 ↔ SameSide y x := by
  rw [abs_le]
  constructor
  · rintro ⟨hlo, hhi⟩ k
    rw [← h.lt_iff, ← h.le_iff]
    constructor
    · rintro ⟨hy, hk⟩
      have hle : (k : ℚ) + 1 ≤ c := by exact_mod_cast hk
      linarith
    · rintro ⟨hy, hk⟩
      have hle : (c : ℚ) ≤ k := by exact_mod_cast hk
      linarith
  · intro hside
    have hlo := (hside (c - 1)).1
    have hhi := (hside c).2
    rw [← h.lt_iff] at hlo
    rw [← h.le_iff] at hhi
    push_cast at hlo
    have hlo' := not_lt.1 fun hy => hlo ⟨hy, by omega⟩
    have hhi' := not_lt.1 fun hy => hhi ⟨hy, le_refl c⟩
    constructor
    · linarith
    · linarith

theorem sameSide_refl (x : ℚ) : SameSide x x := by
  intro k
  constructor
  · rintro ⟨hlt, hgt | ⟨heq, -⟩⟩
    · exact absurd hlt hgt.not_gt
    · linarith
  · rintro ⟨hlt, hgt | ⟨heq, -⟩⟩
    · exact absurd hlt hgt.not_gt
    · linarith

end LiveOs.Lib
