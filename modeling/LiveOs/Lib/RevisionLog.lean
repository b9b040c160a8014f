import Mathlib.Data.List.Nodup
import Mathlib.Data.List.Perm.Basic

/-!
# Logs of numbered entries

An append-only log in which every entry has a key and a number, and the next entry of a key takes
the highest number of the key plus one. The entries of a key are then numbered from 1 in the order
they were written, and the entry with the highest number is the last one.
-/

namespace LiveOs.Lib.RevisionLog

variable {ρ κ γ : Type} [DecidableEq κ] {key : ρ → κ} {rev : ρ → Nat} {log : List ρ}

/-- The entries of a key, in the order they were written. -/
def entriesOf (key : ρ → κ) (log : List ρ) (k : κ) : List ρ := log.filter fun r => key r = k

/-- The highest number of a key, or 0. -/
def highest (key : ρ → κ) (rev : ρ → Nat) (log : List ρ) (k : κ) : Nat :=
  ((entriesOf key log k).map rev).foldr max 0

/-- The last entry of a key. -/
def last? (key : ρ → κ) (log : List ρ) (k : κ) : Option ρ := (entriesOf key log k).getLast?

/-- The entries of every key are numbered 1, 2, ... in their order. -/
def Numbered (key : ρ → κ) (rev : ρ → Nat) (log : List ρ) : Prop :=
  ∀ k, (entriesOf key log k).map rev = List.range' 1 (entriesOf key log k).length

@[simp] theorem mem_entriesOf {k : κ} {r : ρ} : r ∈ entriesOf key log k ↔ r ∈ log ∧ key r = k := by
  simp [entriesOf]

theorem entriesOf_append (new : List ρ) (k : κ) :
    entriesOf key (log ++ new) k = entriesOf key log k ++ entriesOf key new k :=
  List.filter_append _ _

theorem numbered_nil : Numbered key rev [] := fun _ => rfl

/-! ## Numbers -/

theorem foldr_max_range' (n a : Nat) : (List.range' 1 n).foldr max a = max a n := by
  induction n generalizing a with
  | zero => simp
  | succ n ih =>
    rw [List.range'_1_concat, List.foldr_append, ih, List.foldr_cons, List.foldr_nil]
    omega

theorem Numbered.highest (h : Numbered key rev log) (k : κ) :
    RevisionLog.highest key rev log k = (entriesOf key log k).length := by
  rw [RevisionLog.highest, h k, foldr_max_range']
  omega

/-- An entry that takes the next number of its key keeps the log numbered. -/
theorem Numbered.append (h : Numbered key rev log) {r : ρ}
    (hrev : rev r = RevisionLog.highest key rev log (key r) + 1) : Numbered key rev (log ++ [r]) := by
  intro k
  rw [entriesOf_append]
  by_cases hk : key r = k
  · subst hk
    have hone : entriesOf key [r] (key r) = [r] := by simp [entriesOf]
    rw [hone, List.map_append, h, List.length_append, List.length_singleton, List.range'_1_concat,
      List.map_singleton, hrev, h.highest, Nat.add_comm 1]
  · have hnone : entriesOf key [r] k = [] := by simp [entriesOf, hk]
    rw [hnone, List.append_nil]
    exact h k

/-! ## Last entries -/

theorem mem_of_last? {k : κ} {r : ρ} (h : last? key log k = some r) : r ∈ log ∧ key r = k :=
  mem_entriesOf.1 (List.mem_of_getLast? h)

theorem last?_isSome {k : κ} : (last? key log k).isSome ↔ ∃ r ∈ log, key r = k := by
  rw [last?, List.getLast?_isSome]
  constructor
  · intro hne
    obtain ⟨r, hr⟩ := List.exists_mem_of_ne_nil _ hne
    exact ⟨r, mem_entriesOf.1 hr⟩
  · rintro ⟨r, hr, hk⟩
    exact List.ne_nil_of_mem (mem_entriesOf.2 ⟨hr, hk⟩)

/-- In a numbered log the entry with the highest number of its key is the last one. -/
theorem Numbered.last?_iff (h : Numbered key rev log) {r : ρ} :
    r ∈ log ∧ rev r = RevisionLog.highest key rev log (key r) ↔
      last? key log (key r) = some r := by
  have hnth : ∀ i (hi : i < (entriesOf key log (key r)).length),
      rev (entriesOf key log (key r))[i] = 1 + i := by
    intro i hi
    have hmap : ((entriesOf key log (key r)).map rev)[i]? = some (1 + i) := by
      rw [h (key r), List.getElem?_range' hi, Nat.one_mul]
    rw [List.getElem?_map, List.getElem?_eq_getElem hi] at hmap
    exact Option.some.inj hmap
  rw [h.highest, last?, List.getLast?_eq_getElem?]
  constructor
  · rintro ⟨hmem, hrev⟩
    have hentry : r ∈ entriesOf key log (key r) := mem_entriesOf.2 ⟨hmem, rfl⟩
    obtain ⟨i, hi, heq⟩ := List.mem_iff_getElem.1 hentry
    have hnumber := hnth i hi
    rw [heq, hrev] at hnumber
    have hlast : (entriesOf key log (key r)).length - 1 = i := by omega
    rw [hlast, List.getElem?_eq_getElem hi, heq]
  · intro hlast
    obtain ⟨hi, heq⟩ := List.getElem?_eq_some_iff.1 hlast
    have hnumber := hnth _ hi
    rw [heq] at hnumber
    exact ⟨(mem_entriesOf.1 (heq ▸ List.getElem_mem hi)).1, by omega⟩

/-! ## Counting -/

/-- The last entries that meet a test, counted key by key. -/
theorem Numbered.length_filter (h : Numbered key rev log) (hlog : log.Nodup) {keys : List κ}
    (hkeys : keys.Nodup) {test : ρ → Bool} (htest : ∀ r ∈ log, test r = true → key r ∈ keys) :
    ((log.filter fun r => rev r = RevisionLog.highest key rev log (key r)).filter test).length =
      keys.countP fun k => (last? key log k).any test := by
  have hmem : ∀ r, r ∈ keys.filterMap (last? key log) ↔
      last? key log (key r) = some r ∧ key r ∈ keys := by
    intro r
    rw [List.mem_filterMap]
    constructor
    · rintro ⟨k, hk, hlast⟩
      obtain rfl := (mem_of_last? hlast).2
      exact ⟨hlast, hk⟩
    · rintro ⟨hlast, hk⟩
      exact ⟨key r, hk, hlast⟩
  have hnodup : (keys.filterMap (last? key log)).Nodup := by
    refine List.Nodup.filterMap (fun k k' r hr hr' => ?_) hkeys
    exact (mem_of_last? hr).2.symm.trans (mem_of_last? hr').2
  have hperm : ((log.filter fun r => rev r = RevisionLog.highest key rev log (key r)).filter
      test).Perm ((keys.filterMap (last? key log)).filter test) := by
    rw [List.perm_ext_iff_of_nodup ((hlog.filter _).filter _) (hnodup.filter _)]
    intro r
    rw [List.mem_filter, List.mem_filter, List.mem_filter, hmem, decide_eq_true_iff, h.last?_iff]
    constructor
    · rintro ⟨hlast, hr⟩
      exact ⟨⟨hlast, htest r (mem_of_last? hlast).1 hr⟩, hr⟩
    · rintro ⟨⟨hlast, -⟩, hr⟩
      exact ⟨hlast, hr⟩
  rw [hperm.length_eq, ← List.countP_eq_length_filter, List.countP_filterMap]
  refine List.countP_congr fun k _ => ?_
  cases last? key log k <;> simp

/-- What the last entry of a key says depends on the entries of the key only. -/
theorem last?_map (value : ρ → γ) (k : κ) :
    (last? key log k).map value = ((entriesOf key log k).map value).getLast? := by
  rw [List.getLast?_map, last?]

end LiveOs.Lib.RevisionLog
