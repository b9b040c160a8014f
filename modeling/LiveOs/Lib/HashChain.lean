import Mathlib.Data.List.Basic
import Mathlib.Data.List.Forall2
import Mathlib.Data.List.Induction

/-!
# Hash chains

Records numbered from a start, each carrying the hash of the one before it. Appending keeps the
chain, and when the hash of a record determines the record together with the hash it carries, the
last hash of a chain of known length determines every record.
-/

namespace LiveOs.Lib

/-- How records are linked: their number, the hash they carry and their own hash. -/
structure ChainFormat (ρ η : Type) where
  seq : ρ → Nat
  prev : ρ → η
  hash : ρ → η

namespace ChainFormat

variable {ρ η : Type} (fmt : ChainFormat ρ η) (sealed : ρ → Prop)

/-- The records are numbered from `n`, the first carries `p`, each other one the hash of the
record before it, and every record is sealed, that is, its hash is computed from its content. -/
def Linked : Nat → η → List ρ → Prop
  | _, _, [] => True
  | n, p, r :: rs => fmt.seq r = n ∧ fmt.prev r = p ∧ sealed r ∧ Linked (n + 1) (fmt.hash r) rs

/-- The hash the next record has to carry. -/
def tip (p : η) (rs : List ρ) : η := rs.foldl (fun _ r => fmt.hash r) p

variable {fmt sealed}

@[simp] theorem tip_nil (p : η) : fmt.tip p [] = p := rfl

@[simp] theorem tip_cons (p : η) (r : ρ) (rs : List ρ) :
    fmt.tip p (r :: rs) = fmt.tip (fmt.hash r) rs := rfl

@[simp] theorem tip_concat (p : η) (rs : List ρ) (r : ρ) :
    fmt.tip p (rs ++ [r]) = fmt.hash r := by
  simp [tip]

/-- A chain splits anywhere: the second part goes on where the first one ends. -/
theorem linked_append {n : Nat} {p : η} {rs ss : List ρ} :
    fmt.Linked sealed n p (rs ++ ss) ↔
      fmt.Linked sealed n p rs ∧ fmt.Linked sealed (n + rs.length) (fmt.tip p rs) ss := by
  induction rs generalizing n p with
  | nil => simp [Linked]
  | cons r rs ih =>
    simp only [List.cons_append, Linked, ih, List.length_cons, tip_cons, and_assoc]
    rw [show n + 1 + rs.length = n + (rs.length + 1) from by omega]

/-- Appending one record at the tip. -/
theorem linked_concat {n : Nat} {p : η} {rs : List ρ} {r : ρ} :
    fmt.Linked sealed n p (rs ++ [r]) ↔ fmt.Linked sealed n p rs ∧
      fmt.seq r = n + rs.length ∧ fmt.prev r = fmt.tip p rs ∧ sealed r := by
  simp [linked_append, Linked]

/-- The records of a chain are numbered consecutively. -/
theorem Linked.map_seq {n : Nat} {p : η} {rs : List ρ} (h : fmt.Linked sealed n p rs) :
    rs.map fmt.seq = List.range' n rs.length := by
  induction rs generalizing n p with
  | nil => rfl
  | cons r rs ih => rw [List.map_cons, h.1, ih h.2.2.2, List.length_cons, List.range'_succ]

/-- Every record but the first carries the hash of the one before it. -/
theorem Linked.prev_eq {n : Nat} {p : η} {rs ss : List ρ} {r s : ρ}
    (h : fmt.Linked sealed n p (rs ++ r :: s :: ss)) : fmt.prev s = fmt.hash r :=
  (linked_append.1 h).2.2.2.2.2.1

theorem Linked.sealed_of_mem {n : Nat} {p : η} {rs : List ρ} (h : fmt.Linked sealed n p rs)
    {r : ρ} (hr : r ∈ rs) : sealed r := by
  induction rs generalizing n p with
  | nil => cases hr
  | cons s rs ih =>
    rcases List.mem_cons.1 hr with rfl | hr
    · exact h.2.2.1
    · exact ih h.2.2.2 hr

/-- Sealing by a weaker condition. -/
theorem Linked.mono {sealed' : ρ → Prop} (himp : ∀ r, sealed r → sealed' r) {n : Nat} {p : η}
    {rs : List ρ} (h : fmt.Linked sealed n p rs) : fmt.Linked sealed' n p rs := by
  induction rs generalizing n p with
  | nil => trivial
  | cons r rs ih => exact ⟨h.1, h.2.1, himp r h.2.2.1, ih h.2.2.2⟩

/-- **Binding.** Let equal hashes of sealed records mean that the records agree and carry equal
hashes. Then two chains of one length with one tip agree record by record. The induction goes
back from the last record, along the hashes the records carry. -/
theorem Linked.binding {R : ρ → ρ → Prop}
    (hbind : ∀ r s, sealed r → sealed s → fmt.hash r = fmt.hash s →
      R r s ∧ fmt.prev r = fmt.prev s)
    {n : Nat} {p : η} {rs ss : List ρ} (hr : fmt.Linked sealed n p rs)
    (hs : fmt.Linked sealed n p ss) (hlen : rs.length = ss.length)
    (htip : fmt.tip p rs = fmt.tip p ss) : List.Forall₂ R rs ss := by
  induction rs using List.reverseRecOn generalizing ss with
  | nil =>
    rw [List.length_nil] at hlen
    rw [List.length_eq_zero_iff.1 hlen.symm]
    exact .nil
  | append_singleton rs r ih =>
    rcases List.eq_nil_or_concat ss with rfl | ⟨ss, s, rfl⟩
    · simp at hlen
    · rw [List.concat_eq_append] at hs hlen htip ⊢
      rw [linked_concat] at hr hs
      obtain ⟨hrs, -, hrp, hrg⟩ := hr
      obtain ⟨hss, -, hsp, hsg⟩ := hs
      rw [tip_concat, tip_concat] at htip
      obtain ⟨hR, hprev⟩ := hbind r s hrg hsg htip
      refine List.rel_append (ih hrs hss (by simpa using hlen) ?_) (.cons hR .nil)
      rw [← hrp, ← hsp, hprev]

/-! ## Links read record by record -/

variable (fmt) in
/-- The hash of the record numbered one less, or `p` when there is none. -/
def before (p : η) (rs : List ρ) (r : ρ) : η :=
  ((rs.find? fun q => fmt.seq q + 1 = fmt.seq r).map fmt.hash).getD p

/-- A record numbered past the end has no record before it among the others. -/
theorem find?_past {rs : List ρ} {m : Nat} (h : ∀ q ∈ rs, fmt.seq q + 1 < m) :
    rs.find? (fun q => fmt.seq q + 1 = m) = none := by
  rw [List.find?_eq_none]
  intro q hq
  have hlt := h q hq
  simp only [decide_eq_true_eq]
  omega

theorem lt_of_map_seq {n : Nat} {rs : List ρ} (h : rs.map fmt.seq = List.range' n rs.length)
    {q : ρ} (hq : q ∈ rs) : n ≤ fmt.seq q ∧ fmt.seq q < n + rs.length := by
  have hmem : fmt.seq q ∈ List.range' n rs.length := h ▸ List.mem_map_of_mem hq
  simpa using hmem

/-- In a numbered list the tip is the hash before the next number. -/
theorem tip_eq_find? {n : Nat} {p : η} {rs : List ρ}
    (h : rs.map fmt.seq = List.range' n rs.length) :
    ((rs.find? fun q => fmt.seq q + 1 = n + rs.length).map fmt.hash).getD p = fmt.tip p rs := by
  rcases List.eq_nil_or_concat rs with rfl | ⟨rs, r, rfl⟩
  · rfl
  · rw [List.concat_eq_append] at h ⊢
    rw [List.map_append, List.length_append, List.length_singleton, List.range'_concat] at h
    obtain ⟨hrs, hr⟩ := List.append_inj h (by simp)
    have hseq : fmt.seq r = n + rs.length := by simpa using hr
    rw [tip_concat, List.length_append, List.length_singleton, List.find?_append,
      find?_past fun q hq => by have := (lt_of_map_seq hrs hq).2; omega]
    have hlast : fmt.seq r + 1 = n + (rs.length + 1) := by omega
    simp [hlast]

/-- The record before one of the first records does not depend on a later record. -/
theorem before_append {p : η} {rs : List ρ} {r s : ρ} (h : fmt.seq s ≤ fmt.seq r) :
    fmt.before p (rs ++ [r]) s = fmt.before p rs s := by
  have hne : ¬ fmt.seq r + 1 = fmt.seq s := by omega
  rw [before, before, List.find?_append]
  cases rs.find? fun q => fmt.seq q + 1 = fmt.seq s <;> simp [hne]

/-- **Links record by record.** A list is a chain exactly if it is numbered from `n` and every
record is sealed and carries the hash of the one numbered before it. The induction is along the
chain from its last record, whose predecessor is the tip of the others. -/
theorem linked_iff_before {n : Nat} {p : η} {rs : List ρ} :
    fmt.Linked sealed n p rs ↔ rs.map fmt.seq = List.range' n rs.length ∧
      ∀ r ∈ rs, sealed r ∧ fmt.prev r = fmt.before p rs r := by
  induction rs using List.reverseRecOn with
  | nil => exact ⟨fun _ => ⟨rfl, fun r hr => absurd hr List.not_mem_nil⟩, fun _ => trivial⟩
  | append_singleton rs r ih =>
    have hnumbered : (rs ++ [r]).map fmt.seq = List.range' n (rs ++ [r]).length ↔
        rs.map fmt.seq = List.range' n rs.length ∧ fmt.seq r = n + rs.length := by
      rw [List.map_append, List.length_append, List.length_singleton, List.range'_concat]
      constructor
      · intro h
        obtain ⟨hrs, hr⟩ := List.append_inj h (by simp)
        exact ⟨hrs, by simpa using hr⟩
      · rintro ⟨hrs, hr⟩
        rw [hrs]
        simp [hr]
    rw [linked_concat, ih, hnumbered]
    constructor
    · rintro ⟨⟨hrs, hall⟩, hseq, hprev, hsealed⟩
      refine ⟨⟨hrs, hseq⟩, ?_⟩
      rw [List.forall_mem_append]
      constructor
      · intro s hs
        obtain ⟨hs', hprev'⟩ := hall s hs
        have hlt := (lt_of_map_seq hrs hs).2
        exact ⟨hs', hprev'.trans (before_append (by omega)).symm⟩
      · intro s hs
        obtain rfl := List.mem_singleton.1 hs
        refine ⟨hsealed, ?_⟩
        rw [before_append (Nat.le_refl _), before, hseq, tip_eq_find? hrs]
        exact hprev
    · rintro ⟨⟨hrs, hseq⟩, hall⟩
      rw [List.forall_mem_append] at hall
      obtain ⟨hall, hlast⟩ := hall
      obtain ⟨hsealed, hprev⟩ := hlast r (List.mem_singleton_self r)
      refine ⟨⟨hrs, fun s hs => ?_⟩, hseq, ?_, hsealed⟩
      · obtain ⟨hs', hprev'⟩ := hall s hs
        have hlt := (lt_of_map_seq hrs hs).2
        exact ⟨hs', hprev'.trans (before_append (by omega))⟩
      · rw [before_append (Nat.le_refl _), before, hseq, tip_eq_find? hrs] at hprev
        exact hprev

/-! ## Removing records -/

theorem Linked.seq_of_mem {n : Nat} {p : η} {rs : List ρ} (h : fmt.Linked sealed n p rs) {r : ρ}
    (hr : r ∈ rs) : n ≤ fmt.seq r ∧ fmt.seq r < n + rs.length :=
  lt_of_map_seq h.map_seq hr

/-- **Truncation.** What is left of a chain is a chain exactly if every record that was removed
comes after every one that was kept: the first number that is missing ends it. -/
theorem Linked.filter_iff {keep : ρ → Bool} {n : Nat} {p : η} {rs : List ρ}
    (h : fmt.Linked sealed n p rs) : fmt.Linked sealed n p (rs.filter keep) ↔
      ∀ r ∈ rs, keep r = false → ∀ s ∈ rs, keep s = true → fmt.seq s < fmt.seq r := by
  induction rs generalizing n p with
  | nil => exact ⟨fun _ r hr => absurd hr List.not_mem_nil, fun _ => trivial⟩
  | cons r rs ih =>
    obtain ⟨hseq, hprev, hsealed, hrest⟩ := h
    have hlater : ∀ s ∈ rs, n < fmt.seq s := by
      intro s hs
      have := (hrest.seq_of_mem hs).1
      omega
    cases hkeep : keep r with
    | true =>
      rw [List.filter_cons_of_pos hkeep]
      constructor
      · intro hleft q hq hremoved s hs hkept
        have hq' : q ∈ rs := by
          rcases List.mem_cons.1 hq with rfl | hq
          · rw [hkeep] at hremoved
            cases hremoved
          · exact hq
        rcases List.mem_cons.1 hs with rfl | hs
        · have := hlater q hq'
          omega
        · exact (ih hrest).1 hleft.2.2.2 q hq' hremoved s hs hkept
      · intro hlast
        refine ⟨hseq, hprev, hsealed, (ih hrest).2 ?_⟩
        intro q hq hremoved s hs hkept
        exact hlast q (List.mem_cons_of_mem _ hq) hremoved s (List.mem_cons_of_mem _ hs) hkept
    | false =>
      rw [List.filter_cons_of_neg (by rw [hkeep]; decide)]
      constructor
      · intro hleft
        -- a record that is kept would carry a number that is too large
        have hnone : rs.filter keep = [] := by
          cases hkept : rs.filter keep with
          | nil => rfl
          | cons s ss =>
            have hs : s ∈ rs := List.mem_of_mem_filter (hkept ▸ List.mem_cons_self)
            rw [hkept] at hleft
            have := hlater s hs
            have := hleft.1
            omega
        intro q _ _ s hs hkept
        rcases List.mem_cons.1 hs with rfl | hs
        · rw [hkeep] at hkept
          cases hkept
        · have hmem : s ∈ rs.filter keep := List.mem_filter.2 ⟨hs, hkept⟩
          rw [hnone] at hmem
          exact absurd hmem List.not_mem_nil
      · intro hlast
        have hnone : rs.filter keep = [] := by
          rw [List.filter_eq_nil_iff]
          intro s hs hkept
          have := hlast r List.mem_cons_self hkeep s (List.mem_cons_of_mem _ hs) hkept
          have := hlater s hs
          omega
        rw [hnone]
        trivial

end ChainFormat

end LiveOs.Lib
