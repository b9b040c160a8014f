import Mathlib.Data.List.Basic
import Mathlib.Data.List.Nodup
import Mathlib.Data.Nat.Basic

/-!
# Entries that come in waves

A generator runs through the waves that start before a given hour and stops inside a wave at that
hour. The entries are numbered as they are made. As every wave ends before the next one starts, an
earlier stop gives the same entries with the same numbers, cut off at its hour.
-/

namespace LiveOs.Lib

/-- Waves start at `first` and then every `period` hours, and the entries of a wave are `stride`
hours apart. -/
structure Waves where
  first : Nat
  period : Nat
  stride : Nat
  size : Nat → Nat
  periodPos : 0 < period
  spread : ∀ k, size k * stride ≤ period

namespace Waves

variable (w : Waves)

/-- The hour of an entry, by its wave and its place in it. -/
def hourOf (slot : Nat × Nat) : Nat := w.first + slot.1 * w.period + slot.2 * w.stride

/-- The number of waves that start before the hour: the length of `range(first, hours, period)`. -/
def count (hours : Nat) : Nat := (hours - w.first + (w.period - 1)) / w.period

/-- The entries of the first waves. -/
def slots (n : Nat) : List (Nat × Nat) :=
  (List.range n).flatMap fun k => (List.range (w.size k)).map (Prod.mk k)

section

variable {σ : Type} (make : Nat × Nat → Nat → σ) (hours : Nat)

/-- The loop over one wave, with the entries so far and the next number. -/
def growWave (k : Nat) : List Nat → List σ × Nat → List σ × Nat
  | [], acc => acc
  | offset :: offsets, (made, next) =>
    if hours ≤ w.hourOf (k, offset) then (made, next)
    else growWave k offsets (made ++ [make (k, offset) next], next + 1)

/-- The loop over the waves that start before the hour. -/
def grow (made : List σ) (next : Nat) : List σ :=
  ((List.range (w.count hours)).foldl
    (fun acc k => w.growWave make hours k (List.range (w.size k)) acc) (made, next)).1

end

theorem lt_count {k hours : Nat} : k < w.count hours ↔ w.first + k * w.period < hours := by
  have hpos := w.periodPos
  unfold count
  rw [Nat.lt_iff_add_one_le, Nat.le_div_iff_mul_le hpos, Nat.add_one_mul]
  generalize k * w.period = m
  omega

theorem mem_slots {n : Nat} {slot : Nat × Nat} :
    slot ∈ w.slots n ↔ slot.1 < n ∧ slot.2 < w.size slot.1 := by
  obtain ⟨k, j⟩ := slot
  simp only [slots, List.mem_flatMap, List.mem_range, List.mem_map, Prod.mk.injEq]
  constructor
  · rintro ⟨k', hk, j', hj, rfl, rfl⟩
    exact ⟨hk, hj⟩
  · rintro ⟨hk, hj⟩
    exact ⟨k, hk, j, hj, rfl, rfl⟩

theorem slots_succ (n : Nat) :
    w.slots (n + 1) = w.slots n ++ (List.range (w.size n)).map (Prod.mk n) := by
  simp [slots, List.range_succ]

theorem hourOf_lt_next {slot : Nat × Nat} (h : slot.2 < w.size slot.1) :
    w.hourOf slot ≤ w.first + (slot.1 + 1) * w.period := by
  have hspread := w.spread slot.1
  have hoffset : slot.2 * w.stride ≤ w.size slot.1 * w.stride := Nat.mul_le_mul_right _ (Nat.le_of_lt h)
  unfold hourOf
  rw [Nat.add_one_mul]
  omega

theorem first_le_hourOf (slot : Nat × Nat) : w.first + slot.1 * w.period ≤ w.hourOf slot :=
  Nat.le_add_right _ _

theorem wave_sorted (k : Nat) : (List.range (w.size k)).Pairwise
    fun i j => w.hourOf (k, i) ≤ w.hourOf (k, j) := by
  apply List.pairwise_lt_range.imp
  intro i j hij
  exact Nat.add_le_add_left (Nat.mul_le_mul_right _ (Nat.le_of_lt hij)) _

/-- The entries are in the order of their hours. -/
theorem slots_sorted (n : Nat) :
    (w.slots n).Pairwise fun a b => w.hourOf a ≤ w.hourOf b := by
  induction n with
  | zero => exact List.Pairwise.nil
  | succ n ih =>
    rw [slots_succ, List.pairwise_append]
    refine ⟨ih, ?_, ?_⟩
    · rw [List.pairwise_map]
      exact w.wave_sorted n
    · intro a ha b hb
      obtain ⟨j, -, rfl⟩ := List.mem_map.1 hb
      obtain ⟨hwave, hplace⟩ := w.mem_slots.1 ha
      have hnext := w.hourOf_lt_next hplace
      have hstart := w.first_le_hourOf (n, j)
      have hmul : (a.1 + 1) * w.period ≤ n * w.period := Nat.mul_le_mul_right _ hwave
      simp only at hstart
      omega

/-- A filter by an upper bound keeps a prefix of a sorted list, so that the numbers stay. -/
theorem zipIdx_filter_lt {α : Type} {f : α → Nat} {hours : Nat} :
    ∀ {l : List α}, l.Pairwise (fun a b => f a ≤ f b) → ∀ i : Nat,
      (l.filter fun a => f a < hours).zipIdx i = (l.zipIdx i).filter fun s => f s.1 < hours
  | [], _, _ => rfl
  | x :: l, h, i => by
    obtain ⟨hx, hl⟩ := List.pairwise_cons.1 h
    by_cases hlt : f x < hours
    · simp only [List.filter_cons, hlt, decide_true, if_true, List.zipIdx_cons]
      rw [zipIdx_filter_lt hl]
    · have hnone : ∀ y ∈ x :: l, ¬ f y < hours := by
        intro y hy
        rcases List.mem_cons.1 hy with rfl | hy
        · exact hlt
        · have := hx y hy
          omega
      rw [List.filter_eq_nil_iff.2 (by simpa using hnone), List.zipIdx_nil, eq_comm,
        List.filter_eq_nil_iff]
      intro s hs
      have hmem : s.1 ∈ x :: l := by
        rw [← List.zipIdx_map_fst i (x :: l)]
        exact List.mem_map_of_mem hs
      simpa using hnone s.1 hmem

section

variable {σ : Type} {make : Nat × Nat → Nat → σ} {hours : Nat}

theorem growWave_sorted {k : Nat} : ∀ {offsets : List Nat},
    offsets.Pairwise (fun i j => w.hourOf (k, i) ≤ w.hourOf (k, j)) → ∀ (made : List σ) (next : Nat),
      w.growWave make hours k offsets (made, next) =
        (made ++ (((offsets.map (Prod.mk k)).filter fun s => w.hourOf s < hours).zipIdx next).map
          (fun s => make s.1 s.2),
        next + ((offsets.map (Prod.mk k)).filter fun s => w.hourOf s < hours).length)
  | [], _, made, next => by simp [growWave]
  | offset :: offsets, h, made, next => by
    obtain ⟨hhead, htail⟩ := List.pairwise_cons.1 h
    unfold growWave
    by_cases hstop : hours ≤ w.hourOf (k, offset)
    · have hnone : ((offset :: offsets).map (Prod.mk k)).filter
          (fun s => w.hourOf s < hours) = [] := by
        rw [List.filter_eq_nil_iff]
        intro s hs
        obtain ⟨j, hj, rfl⟩ := List.mem_map.1 hs
        rcases List.mem_cons.1 hj with rfl | hj
        · simpa using hstop
        · have := hhead j hj
          simp only [decide_eq_true_eq]
          omega
      rw [if_pos hstop, hnone]
      simp
    · rw [if_neg hstop, growWave_sorted htail]
      have hlt : w.hourOf (k, offset) < hours := by omega
      simp only [List.map_cons, List.filter_cons, hlt, decide_true, if_true, List.zipIdx_cons,
        List.length_cons, List.append_assoc, List.cons_append, List.nil_append, Prod.mk.injEq,
        true_and]
      omega

theorem grow_waves (made : List σ) (next n : Nat) :
    (List.range n).foldl (fun acc k => w.growWave make hours k (List.range (w.size k)) acc)
        (made, next) =
      (made ++ (((w.slots n).filter fun s => w.hourOf s < hours).zipIdx next).map
        (fun s => make s.1 s.2),
      next + ((w.slots n).filter fun s => w.hourOf s < hours).length) := by
  induction n with
  | zero => simp [slots]
  | succ n ih =>
    rw [List.range_succ, List.foldl_append, ih, List.foldl_cons, List.foldl_nil,
      w.growWave_sorted (w.wave_sorted n), slots_succ, List.filter_append, List.zipIdx_append,
      List.map_append, List.append_assoc, List.length_append, Nat.add_assoc]

theorem filter_slots_of_le {n : Nat} (h : w.count hours ≤ n) :
    ((w.slots n).filter fun s => w.hourOf s < hours) =
      (w.slots (w.count hours)).filter fun s => w.hourOf s < hours := by
  induction n, h using Nat.le_induction with
  | base => rfl
  | succ n hle ih =>
    rw [slots_succ, List.filter_append, ih, List.append_right_eq_self, List.filter_eq_nil_iff]
    intro s hs
    obtain ⟨j, -, rfl⟩ := List.mem_map.1 hs
    have hlate : ¬ n < w.count hours := by omega
    rw [lt_count] at hlate
    have hstart := w.first_le_hourOf (n, j)
    simp only [decide_eq_true_eq]
    simp only at hstart
    omega

/-- **Earlier stops give prefixes.** Whatever the hour, the entries are those of one numbered list
that come before it. -/
theorem grow_eq {n : Nat} (h : w.count hours ≤ n) (made : List σ) (next : Nat) :
    w.grow make hours made next =
      made ++ (((w.slots n).zipIdx next).filter fun s => w.hourOf s.1 < hours).map
        (fun s => make s.1 s.2) := by
  rw [grow, grow_waves, ← w.filter_slots_of_le h, zipIdx_filter_lt (w.slots_sorted n)]

theorem count_mono {hours' : Nat} (h : hours ≤ hours') : w.count hours ≤ w.count hours' :=
  Nat.div_le_div_right (by omega)

end

end Waves

end LiveOs.Lib
