import Mathlib.Algebra.Order.Field.Power
import Mathlib.Data.Rat.Cast.Order
import Mathlib.Tactic.Linarith
import Mathlib.Tactic.Ring
import LiveOs.Lib.DecimalTexts
import LiveOs.Simulation.Engine

/-!
# Decimals and their texts

The budgets of a run are kept as texts. A decimal with at most six places that is written and read
again is the same decimal, and adding decimals adds the numbers that they stand for.
-/

namespace LiveOs.Simulation

open Lib Planning
open Procurement (PyDecimal)

/-! ## Numbers -/

/-- The number that a decimal stands for. -/
def rational (d : PyDecimal) : ℚ := d.coefficient * (10 : ℚ) ^ d.exponent

theorem ten_zpow_split {e m : ℤ} (h : m ≤ e) :
    (10 : ℚ) ^ e = (10 : ℚ) ^ (e - m).toNat * (10 : ℚ) ^ m := by
  have hnat : ((e - m).toNat : ℤ) = e - m := Int.toNat_of_nonneg (by omega)
  rw [← zpow_natCast, hnat, ← zpow_add₀ (by norm_num)]
  congr 1
  omega

theorem rational_aligned (a b : PyDecimal) :
    rational a = (PyDecimal.aligned a b).1 * (10 : ℚ) ^ (min a.exponent b.exponent) ∧
      rational b = (PyDecimal.aligned a b).2 * (10 : ℚ) ^ (min a.exponent b.exponent) := by
  constructor
  · rw [rational, ten_zpow_split (min_le_left a.exponent b.exponent)]
    simp only [PyDecimal.aligned]
    push_cast
    ring
  · rw [rational, ten_zpow_split (min_le_right a.exponent b.exponent)]
    simp only [PyDecimal.aligned]
    push_cast
    ring

theorem rational_add (a b : PyDecimal) : rational (a.add b) = rational a + rational b := by
  obtain ⟨ha, hb⟩ := rational_aligned a b
  rw [ha, hb, rational]
  simp only [PyDecimal.add]
  push_cast
  ring

theorem rational_neg (c e : ℤ) : rational ⟨-c, e⟩ = -rational ⟨c, e⟩ := by
  simp only [rational]
  push_cast
  ring

theorem rational_zero : rational .zero = 0 := by
  simp [rational, PyDecimal.zero]

theorem lt_iff {a b : PyDecimal} : a.lt b = true ↔ rational a < rational b := by
  obtain ⟨ha, hb⟩ := rational_aligned a b
  have hpos : (0 : ℚ) < (10 : ℚ) ^ (min a.exponent b.exponent) := zpow_pos (by norm_num) _
  rw [ha, hb, mul_lt_mul_iff_left₀ hpos, Int.cast_lt, PyDecimal.lt, decide_eq_true_eq]

/-- The number in a column. -/
theorem rational_value_nonneg {digits places : ℕ} {d : DecimalColumn digits places}
    (h : 0 ≤ d.coefficient) : 0 ≤ rational d.value := by
  have hpos : (0 : ℚ) < (10 : ℚ) ^ (-(places : ℤ)) := zpow_pos (by norm_num) _
  have hc : (0 : ℚ) ≤ d.coefficient := by exact_mod_cast h
  exact mul_nonneg hc hpos.le

/-! ## Texts -/

/-- At most six places and no exponent of its own. -/
def Plain (d : PyDecimal) : Prop := -6 ≤ d.exponent ∧ d.exponent ≤ 0

theorem plain_add {a b : PyDecimal} (ha : Plain a) (hb : Plain b) : Plain (a.add b) := by
  obtain ⟨ha, ha'⟩ := ha
  obtain ⟨hb, hb'⟩ := hb
  constructor
  · exact le_min ha hb
  · exact (min_le_left _ _).trans ha'

theorem plain_availableStock (resources : Resources) (resourceType : String) :
    Plain (availableStock resources resourceType) := by
  unfold availableStock
  simp only
  split
  · exact ⟨by decide, by decide⟩
  · exact ⟨by norm_num, by norm_num⟩

theorem plain_value {d : DecimalColumn 14 2} : Plain d.value := by
  constructor <;> simp [DecimalColumn.value]

/-- The digits of a coefficient. -/
theorem digits_eq (n : ℕ) : (toString n).toList = Nat.toDigits 10 n := by
  rw [Nat.toString_eq_repr, Nat.toList_repr]

theorem digits_isDigit (n : ℕ) : ∀ c ∈ Nat.toDigits 10 n, c.isDigit = true :=
  fun _ hc => Nat.isDigit_of_mem_toDigits (by decide) (by decide) hc

theorem zeros_isDigit (k : ℕ) : ∀ c ∈ List.replicate k '0', c.isDigit = true := by
  intro c hc
  obtain rfl := List.eq_of_mem_replicate hc
  rfl

/-- The text of a plain decimal: its digits with a point in front of the last places. -/
theorem text_plain {d : PyDecimal} (h : Plain d) : ∃ int frac : List Char,
    d.text = String.ofList (plainChars (decide (d.coefficient < 0)) int frac) ∧ int ≠ [] ∧
      (∀ c ∈ int, c.isDigit = true) ∧ (∀ c ∈ frac, c.isDigit = true) ∧
      (frac.length : ℤ) = -d.exponent ∧ natOfDigits (int ++ frac) = d.coefficient.natAbs := by
  obtain ⟨hlow, hhigh⟩ := h
  have hdigits := digits_isDigit d.coefficient.natAbs
  have hlength : 0 < (Nat.toDigits 10 d.coefficient.natAbs).length := Nat.length_toDigits_pos
  have hvalue : natOfDigits (Nat.toDigits 10 d.coefficient.natAbs) = d.coefficient.natAbs := by
    rw [natOfDigits_eq, Nat.ofDigitChars_ten_toDigits]
  have htext : ∀ body int frac : List Char, body = int ++ (if frac = [] then [] else '.' :: frac) →
      (if d.coefficient < 0 then "-" else "") ++ String.ofList body ++ "" =
        String.ofList (plainChars (decide (d.coefficient < 0)) int frac) := by
    rintro body int frac rfl
    rw [plainChars, String.append_empty]
    by_cases hneg : d.coefficient < 0
    · rw [if_pos hneg, decide_eq_true hneg, if_pos rfl]
      exact String.ofList_append.symm
    · rw [if_neg hneg, decide_eq_false hneg, if_neg Bool.false_ne_true, List.nil_append,
        String.empty_append]
  generalize hds : Nat.toDigits 10 d.coefficient.natAbs = ds at hdigits hlength hvalue
  have hleft : d.exponent ≤ 0 ∧ -6 < d.exponent + ds.length := by omega
  have hbody : d.text = (if d.coefficient < 0 then "-" else "") ++ String.ofList
      (if d.exponent + ds.length ≤ 0 then
        '0' :: '.' :: (List.replicate (-(d.exponent + ds.length)).toNat '0' ++ ds)
      else if (ds.length : ℤ) ≤ d.exponent + ds.length then
        ds ++ List.replicate (d.exponent + ds.length - ds.length).toNat '0'
      else ds.take (d.exponent + ds.length).toNat ++ '.' :: ds.drop (d.exponent + ds.length).toNat)
      ++ "" := by
    rw [PyDecimal.text, digits_eq, hds]
    simp only [if_pos hleft, sub_self, if_true]
  rw [hbody]
  by_cases hzero : d.exponent + ds.length ≤ 0
  · -- all digits stand behind the point
    rw [if_pos hzero]
    refine ⟨['0'], List.replicate (-(d.exponent + ds.length)).toNat '0' ++ ds, htext _ _ _ ?_,
      by simp, by simp, ?_, ?_, ?_⟩
    · rw [if_neg (by
        rw [List.append_eq_nil_iff]
        rintro ⟨-, rfl⟩
        simp at hlength)]
      rfl
    · intro c hc
      rcases List.mem_append.1 hc with hc | hc
      · exact zeros_isDigit _ c hc
      · exact hdigits c hc
    · rw [List.length_append, List.length_replicate]
      push_cast
      omega
    · rw [natOfDigits_eq, Nat.ofDigitChars_append, Nat.ofDigitChars_append,
        Nat.ofDigitChars_replicate_zero]
      have hfirst : Nat.ofDigitChars 10 ['0'] 0 = 0 := by decide
      rw [hfirst, Nat.mul_zero, ← natOfDigits_eq]
      exact hvalue
  · rw [if_neg hzero]
    by_cases hint : (ds.length : ℤ) ≤ d.exponent + ds.length
    · -- no places
      rw [if_pos hint]
      have hexp : d.exponent = 0 := by omega
      refine ⟨ds, [], htext _ _ _ ?_, List.length_pos_iff.1 hlength, hdigits, by simp, ?_, ?_⟩
      · rw [hexp]
        simp
      · simp [hexp]
      · rw [List.append_nil]
        exact hvalue
    · rw [if_neg hint]
      refine ⟨ds.take (d.exponent + ds.length).toNat, ds.drop (d.exponent + ds.length).toNat,
        htext _ _ _ ?_, ?_, fun c hc => hdigits c (List.mem_of_mem_take hc),
        fun c hc => hdigits c (List.mem_of_mem_drop hc), ?_, ?_⟩
      · rw [if_neg (by
          intro hnil
          have hlen := congrArg List.length hnil
          rw [List.length_drop, List.length_nil] at hlen
          omega)]
      · intro hnil
        have hlen := congrArg List.length hnil
        rw [List.length_take, List.length_nil] at hlen
        omega
      · rw [List.length_drop]
        omega
      · rw [List.take_append_drop]
        exact hvalue

/-- **Round trip.** A plain decimal is read back from its text. -/
theorem decimalFromText_text (py : Python) {d : PyDecimal} (h : Plain d) :
    decimalFromText py d.text = .finite d := by
  obtain ⟨int, frac, htext, hne, hint, hfrac, hlength, hvalue⟩ := text_plain h
  rw [decimalFromText, Decimal.ofText, htext, decimalOfText_plain hint hne hfrac]
  have hsigned : signed (decide (d.coefficient < 0)) (natOfDigits (int ++ frac)) = d.coefficient := by
    rw [hvalue, signed]
    by_cases hneg : d.coefficient < 0
    · rw [if_pos (by simpa using hneg)]
      omega
    · rw [if_neg (by simpa using hneg)]
      omega
  have hexp : -(frac.length : ℤ) = d.exponent := by omega
  simp only [Option.map_some, Option.getD_some, hsigned, hexp]

end LiveOs.Simulation
