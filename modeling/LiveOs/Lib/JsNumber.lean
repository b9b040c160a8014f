import Mathlib.Algebra.Order.Group.Int
import Mathlib.Tactic.Linarith
import Mathlib.Tactic.Ring

/-!
# Whole JavaScript numbers

A `Number` with a whole value, by that value, and the operators that 32-bit code uses of it. Sums
and products are rounded to a double. `Rep bound n w` says that a number stands for a word: it is
congruent to it, and its size is bounded.
-/

namespace LiveOs.Lib.Js

/-- The double closest to a whole number, ties to an even significand; no number here comes near
the largest double. -/
def toDouble (n : Int) : Int :=
  let shift := Nat.log2 n.natAbs - 52
  let ulp : Int := 2 ^ shift
  let q := n / ulp
  let rest := 2 * (n % ulp)
  if rest < ulp then q * ulp
  else if ulp < rest then (q + 1) * ulp
  else if q % 2 = 0 then q * ulp
  else (q + 1) * ulp

def add (m n : Int) : Int := toDouble (m + n)

def mul (m n : Int) : Int := toDouble (m * n)

/-- The bits that `ToInt32` and `ToUint32` keep. -/
def word (n : Int) : BitVec 32 := BitVec.ofInt 32 n

def toUint32 (n : Int) : Int := (word n).toNat

def and (m n : Int) : Int := (word m &&& word n).toInt

def or (m n : Int) : Int := (word m ||| word n).toInt

def xor (m n : Int) : Int := (word m ^^^ word n).toInt

def not (n : Int) : Int := (~~~word n).toInt

/-- `n << k`. -/
def shl (n : Int) (k : Nat) : Int := (word n <<< (k % 32)).toInt

/-- `n >>> k`. -/
def ushr (n : Int) (k : Nat) : Int := (word n >>> (k % 32)).toNat

/-! ## Exact results -/

/-- A whole number of at most 53 bits is a double. -/
theorem toDouble_of_small {n : Int} (h : n.natAbs < 2 ^ 53) : toDouble n = n := by
  have hlog : Nat.log2 n.natAbs - 52 = 0 := by
    by_cases hn : n.natAbs = 0
    · rw [hn]
      rfl
    · have hlt : Nat.log2 n.natAbs < 53 := (Nat.log2_lt hn).2 h
      omega
  simp [toDouble, hlog]

theorem add_of_small {m n : Int} (h : (m + n).natAbs < 2 ^ 53) : add m n = m + n :=
  toDouble_of_small h

theorem mul_of_small {m n : Int} (h : (m * n).natAbs < 2 ^ 53) : mul m n = m * n :=
  toDouble_of_small h

/-! ## Numbers that stand for words -/

/-- The number is congruent to the word and not larger than the bound. -/
structure Rep (bound : Nat) (n : Int) (w : BitVec 32) : Prop where
  word_eq : word n = w
  le : n.natAbs ≤ bound

variable {m n : Int} {v w : BitVec 32} {a b : Nat}

theorem word_toInt (w : BitVec 32) : word w.toInt = w := BitVec.ofInt_toInt

theorem word_toNat (w : BitVec 32) : word w.toNat = w := by
  rw [word, BitVec.ofInt_natCast]
  rw [BitVec.ofNat_toNat, BitVec.setWidth_eq]

theorem natAbs_toInt_le (w : BitVec 32) : w.toInt.natAbs ≤ 2 ^ 32 := by
  have hlt := w.isLt
  rw [BitVec.toInt_eq_toNat_bmod]
  have hlo := @Int.le_bmod (w.toNat : Int) (2 ^ 32) (by decide)
  have hhi := @Int.bmod_lt (w.toNat : Int) (2 ^ 32) (by decide)
  omega

theorem rep_toInt (w : BitVec 32) : Rep (2 ^ 32) w.toInt w := ⟨word_toInt w, natAbs_toInt_le w⟩

theorem rep_toNat (w : BitVec 32) : Rep (2 ^ 32) w.toNat w := by
  refine ⟨word_toNat w, ?_⟩
  have hlt := w.isLt
  omega

theorem Rep.and (hm : Rep a m v) (hn : Rep b n w) : Rep (2 ^ 32) (Js.and m n) (v &&& w) := by
  rw [Js.and, hm.word_eq, hn.word_eq]
  exact rep_toInt _

theorem Rep.or (hm : Rep a m v) (hn : Rep b n w) : Rep (2 ^ 32) (Js.or m n) (v ||| w) := by
  rw [Js.or, hm.word_eq, hn.word_eq]
  exact rep_toInt _

theorem Rep.xor (hm : Rep a m v) (hn : Rep b n w) : Rep (2 ^ 32) (Js.xor m n) (v ^^^ w) := by
  rw [Js.xor, hm.word_eq, hn.word_eq]
  exact rep_toInt _

theorem Rep.not (hn : Rep b n w) : Rep (2 ^ 32) (Js.not n) (~~~w) := by
  rw [Js.not, hn.word_eq]
  exact rep_toInt _

theorem Rep.shl (hn : Rep b n w) (k : Nat) : Rep (2 ^ 32) (Js.shl n k) (w <<< (k % 32)) := by
  rw [Js.shl, hn.word_eq]
  exact rep_toInt _

theorem Rep.ushr (hn : Rep b n w) (k : Nat) : Rep (2 ^ 32) (Js.ushr n k) (w >>> (k % 32)) := by
  rw [Js.ushr, hn.word_eq]
  exact rep_toNat _

/-- A sum that stays below the first gap between doubles is exact. -/
theorem Rep.add (hm : Rep a m v) (hn : Rep b n w) (hsmall : a + b < 2 ^ 53) :
    Rep (a + b) (Js.add m n) (v + w) := by
  have hle : (m + n).natAbs ≤ a + b := (Int.natAbs_add_le m n).trans (Nat.add_le_add hm.le hn.le)
  rw [add_of_small (hle.trans_lt hsmall)]
  refine ⟨?_, hle⟩
  rw [word, BitVec.ofInt_add, ← hm.word_eq, ← hn.word_eq]
  rfl

/-- `n >>> 0` is the word as an unsigned number. -/
theorem Rep.ushr_zero (hn : Rep b n w) : Js.ushr n 0 = w.toNat := by
  rw [Js.ushr, hn.word_eq]
  simp

theorem Rep.toUint32 (hn : Rep b n w) : Js.toUint32 n = w.toNat := by
  rw [Js.toUint32, hn.word_eq]

/-- Two shifts joined by `|` rotate. -/
theorem Rep.rotate (hn : Rep b n w) {k : Nat} (hpos : 0 < k) (hk : k < 32) :
    Rep (2 ^ 32) (Js.or (Js.ushr n k) (Js.shl n (32 - k))) (w.rotateRight k) := by
  have h := (hn.ushr k).or (hn.shl (32 - k))
  rw [Nat.mod_eq_of_lt hk, Nat.mod_eq_of_lt (by omega)] at h
  rw [BitVec.rotateRight_def, Nat.mod_eq_of_lt hk]
  exact h

end LiveOs.Lib.Js
