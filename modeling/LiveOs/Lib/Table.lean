import LiveOs.Lib.Runs
import Mathlib.Data.List.Sort
import Mathlib.Data.List.Nodup

/-!
# Tables with a primary key and a nullable unique column

Rows in the order they were inserted. The two uniqueness constraints are fields, so every table
that can be built meets them: an insertion that would break one is refused, and an update has to
show that it keeps both columns.
-/

namespace LiveOs.Lib

/-- A table of rows `ρ` with primary key `pk` and a column `alt` whose values other than null are
unique. -/
structure Table (ρ κ α : Type) (pk : ρ → κ) (alt : ρ → Option α) where
  rows : List ρ
  pkUnique : (rows.map pk).Nodup
  altUnique : (rows.filterMap alt).Nodup

namespace Table

variable {ρ κ α ε : Type} {pk : ρ → κ} {alt : ρ → Option α}

def empty : Table ρ κ α pk alt := ⟨[], List.nodup_nil, List.nodup_nil⟩

/-- The row with the given primary key. -/
def get? [DecidableEq κ] (t : Table ρ κ α pk alt) (key : κ) : Option ρ :=
  t.rows.find? fun r => pk r = key

/-- `filter(p).first()`: without an explicit order, the least primary key comes first. -/
def first? [LE κ] [DecidableLE κ] (t : Table ρ κ α pk alt) (p : ρ → Bool) : Option ρ :=
  ((t.rows.filter p).insertionSort fun a b => pk a ≤ pk b).head?

/-- Insert a row; a broken constraint raises `e`. -/
def insert [DecidableEq κ] [DecidableEq α] (t : Table ρ κ α pk alt) (r : ρ) (e : ε) :
    Except ε (Table ρ κ α pk alt) :=
  if hpk : pk r ∈ t.rows.map pk then .error e
  else if halt : ∃ a ∈ alt r, a ∈ t.rows.filterMap alt then .error e
  else .ok {
    rows := t.rows ++ [r]
    pkUnique := by
      rw [List.map_append, List.nodup_append]
      refine ⟨t.pkUnique, List.nodup_singleton _, ?_⟩
      rintro _ ha _ hb rfl
      exact hpk (List.mem_singleton.1 hb ▸ ha)
    altUnique := by
      rw [List.filterMap_append, List.nodup_append]
      refine ⟨t.altUnique, ?_, ?_⟩
      · cases h : alt r <;> simp [h]
      · rintro a ha _ hb rfl
        refine halt ⟨a, ?_, ha⟩
        simpa [List.mem_filterMap] using hb }

/-- Update the row with the given primary key by a function that keeps both unique columns. -/
def modify [DecidableEq κ] (t : Table ρ κ α pk alt) (key : κ) (f : ρ → ρ)
    (hpk : ∀ r, pk (f r) = pk r) (halt : ∀ r, alt (f r) = alt r) : Table ρ κ α pk alt where
  rows := t.rows.map fun r => if pk r = key then f r else r
  pkUnique := by
    rw [List.map_map]
    have hsame : (pk ∘ fun r => if pk r = key then f r else r) = pk := by
      funext r
      by_cases h : pk r = key <;> simp [h, hpk]
    rw [hsame]
    exact t.pkUnique
  altUnique := by
    rw [List.filterMap_map]
    have hsame : (alt ∘ fun r => if pk r = key then f r else r) = alt := by
      funext r
      by_cases h : pk r = key <;> simp [h, halt]
    rw [hsame]
    exact t.altUnique

/-- Update the rows that meet the test by a function that keeps both unique columns. -/
def update (t : Table ρ κ α pk alt) (p : ρ → Bool) (f : ρ → ρ) (hpk : ∀ r, pk (f r) = pk r)
    (halt : ∀ r, alt (f r) = alt r) : Table ρ κ α pk alt where
  rows := t.rows.map fun r => if p r = true then f r else r
  pkUnique := by
    rw [List.map_map]
    have hsame : (pk ∘ fun r => if p r = true then f r else r) = pk := by
      funext r
      by_cases h : p r = true <;> simp [h, hpk]
    rw [hsame]
    exact t.pkUnique
  altUnique := by
    rw [List.filterMap_map]
    have hsame : (alt ∘ fun r => if p r = true then f r else r) = alt := by
      funext r
      by_cases h : p r = true <;> simp [h, halt]
    rw [hsame]
    exact t.altUnique

/-- `get_or_create(...)`: the one row that meets the test, or the given row inserted, with whether
it was created. -/
def getOrCreate [DecidableEq κ] [DecidableEq α] (t : Table ρ κ α pk alt) (p : ρ → Bool) (r : ρ)
    (multiple integrity : ε) : Except ε (Table ρ κ α pk alt × ρ × Bool) :=
  match t.rows.filter p with
  | [] => do
    let t' ← t.insert r integrity
    return (t', r, true)
  | [x] => .ok (t, x, false)
  | _ => .error multiple

@[simp] theorem empty_rows : (empty : Table ρ κ α pk alt).rows = [] := rfl

/-! ## Uniqueness -/

theorem eq_of_pk (t : Table ρ κ α pk alt) {r s : ρ} (hr : r ∈ t.rows) (hs : s ∈ t.rows)
    (h : pk r = pk s) : r = s :=
  List.inj_on_of_nodup_map t.pkUnique hr hs h

theorem eq_of_filterMap_nodup {f : ρ → Option α} {a : α} : ∀ {rows : List ρ},
    (rows.filterMap f).Nodup → ∀ {r s : ρ}, r ∈ rows → s ∈ rows → f r = some a → f s = some a →
      r = s
  | [], _, _, _, hr, _, _, _ => absurd hr List.not_mem_nil
  | x :: rows, hnd, r, s, hr, hs, har, has => by
    have htail : (rows.filterMap f).Nodup := by
      cases hx : f x with
      | none => rwa [List.filterMap_cons_none hx] at hnd
      | some b =>
        rw [List.filterMap_cons_some hx] at hnd
        exact (List.nodup_cons.1 hnd).2
    -- a row of the tail cannot share its value with the head
    have hhead : f x = some a → ∀ y ∈ rows, f y = some a → False := by
      intro hx y hy hya
      rw [List.filterMap_cons_some hx] at hnd
      exact (List.nodup_cons.1 hnd).1 (List.mem_filterMap.2 ⟨y, hy, hya⟩)
    rcases List.mem_cons.1 hr with rfl | hrt
    · rcases List.mem_cons.1 hs with rfl | hst
      · rfl
      · exact (hhead har s hst has).elim
    · rcases List.mem_cons.1 hs with rfl | hst
      · exact (hhead has r hrt har).elim
      · exact eq_of_filterMap_nodup htail hrt hst har has

theorem eq_of_alt (t : Table ρ κ α pk alt) {r s : ρ} {a : α} (hr : r ∈ t.rows) (hs : s ∈ t.rows)
    (har : alt r = some a) (has : alt s = some a) : r = s :=
  eq_of_filterMap_nodup t.altUnique hr hs har has

/-- A row stands alone under its key, so updating it leaves the rows around it as they are. -/
theorem split_update [DecidableEq κ] (t : Table ρ κ α pk alt) {r : ρ} (hr : r ∈ t.rows)
    (f : ρ → ρ) : ∃ before after, t.rows = before ++ r :: after ∧
      (t.rows.map fun x => if pk x = pk r then f x else x) = before ++ f r :: after := by
  obtain ⟨before, after, heq⟩ := List.append_of_mem hr
  have hnd : (t.rows.map pk).Nodup := t.pkUnique
  rw [heq, List.map_append, List.map_cons, List.nodup_append, List.nodup_cons] at hnd
  obtain ⟨-, ⟨hafter, -⟩, hbefore⟩ := hnd
  have hsame : ∀ xs : List ρ, (∀ x ∈ xs, pk x ≠ pk r) →
      (xs.map fun x => if pk x = pk r then f x else x) = xs := by
    intro xs hxs
    exact (List.map_congr_left fun x hx => if_neg (hxs x hx)).trans (List.map_id _)
  refine ⟨before, after, heq, ?_⟩
  rw [heq, List.map_append, List.map_cons, if_pos rfl, hsame before, hsame after]
  · intro x hx hpk
    exact hafter (hpk ▸ List.mem_map_of_mem hx)
  · intro x hx
    exact hbefore _ (List.mem_map_of_mem hx) _ List.mem_cons_self

/-! ## Lookups -/

section

variable [DecidableEq κ]

theorem get?_eq_some {t : Table ρ κ α pk alt} {key : κ} {r : ρ} :
    t.get? key = some r ↔ r ∈ t.rows ∧ pk r = key := by
  constructor
  · intro h
    exact ⟨List.mem_of_find?_eq_some h, by simpa using List.find?_some h⟩
  · rintro ⟨hmem, rfl⟩
    unfold get?
    cases h : t.rows.find? fun s => pk s = pk r with
    | none => exact absurd (decide_eq_true rfl) (List.find?_eq_none.1 h r hmem)
    | some s =>
      have hs := List.mem_of_find?_eq_some h
      have hkey : pk s = pk r := by simpa using List.find?_some h
      rw [t.eq_of_pk hs hmem hkey]

theorem get?_eq_none {t : Table ρ κ α pk alt} {key : κ} :
    t.get? key = none ↔ ∀ r ∈ t.rows, pk r ≠ key := by
  unfold get?
  rw [List.find?_eq_none]
  simp

end

section

variable [LE κ] [DecidableLE κ] {t : Table ρ κ α pk alt} {p : ρ → Bool}

theorem mem_of_first? {r : ρ} (h : t.first? p = some r) : r ∈ t.rows ∧ p r = true := by
  have hmem : r ∈ (t.rows.filter p).insertionSort fun a b => pk a ≤ pk b := List.mem_of_head? h
  rw [List.Perm.mem_iff (List.perm_insertionSort _ _), List.mem_filter] at hmem
  exact hmem

theorem first?_eq_none : t.first? p = none ↔ ∀ r ∈ t.rows, p r = false := by
  unfold first?
  rw [List.head?_eq_none_iff, ← List.length_eq_zero_iff,
    (List.perm_insertionSort _ _).length_eq, List.length_eq_zero_iff, List.filter_eq_nil_iff]
  simp

/-- The only row that meets the test is the first one. -/
theorem first?_of_unique {r : ρ} (hr : r ∈ t.rows) (hp : p r = true)
    (huniq : ∀ s ∈ t.rows, p s = true → s = r) : t.first? p = some r := by
  cases h : t.first? p with
  | none => rw [first?_eq_none.1 h r hr] at hp; cases hp
  | some s =>
    obtain ⟨hs, hps⟩ := mem_of_first? h
    rw [huniq s hs hps]

end

/-! ## Insertions and updates -/

section

variable [DecidableEq κ] [DecidableEq α] {t t' : Table ρ κ α pk alt} {r : ρ} {e : ε}

theorem insert_ok (h : t.insert r e = .ok t') :
    t'.rows = t.rows ++ [r] ∧ (∀ s ∈ t.rows, pk s ≠ pk r) ∧
      ∀ a, alt r = some a → ∀ s ∈ t.rows, alt s ≠ some a := by
  unfold insert at h
  split at h
  · cases h
  · rename_i hpk
    split at h
    · cases h
    · rename_i halt
      obtain rfl := Except.ok.inj h
      refine ⟨rfl, fun s hs heq => hpk (heq ▸ List.mem_map_of_mem hs), fun a ha s hs hsa => ?_⟩
      exact halt ⟨a, ha, List.mem_filterMap.2 ⟨s, hs, hsa⟩⟩

theorem insert_of_fresh (hpk : ∀ s ∈ t.rows, pk s ≠ pk r)
    (halt : ∀ a, alt r = some a → ∀ s ∈ t.rows, alt s ≠ some a) :
    ∃ t', t.insert r e = .ok t' ∧ t'.rows = t.rows ++ [r] := by
  cases h : t.insert r e with
  | ok t' => exact ⟨t', rfl, (insert_ok h).1⟩
  | error e' =>
    unfold insert at h
    split at h
    · rename_i hmem
      obtain ⟨s, hs, heq⟩ := List.mem_map.1 hmem
      exact absurd heq (hpk s hs)
    · split at h
      · rename_i hmem
        obtain ⟨a, ha, hmem⟩ := hmem
        obtain ⟨s, hs, hsa⟩ := List.mem_filterMap.1 hmem
        exact absurd hsa (halt a ha s hs)
      · cases h

/-- `get_or_create` finds a row or appends the given one. -/
theorem getOrCreate_ok {p : ρ → Bool} {multiple : ε} {x : ρ} {created : Bool}
    (h : t.getOrCreate p r multiple e = .ok (t', x, created)) :
    (t' = t ∧ x ∈ t.rows ∧ p x = true) ∨
      (t'.rows = t.rows ++ [r] ∧ x = r ∧ ∀ y ∈ t.rows, p y = false) := by
  unfold getOrCreate at h
  split at h
  · rename_i hnone
    obtain ⟨t₁, hinsert, h⟩ := bind_eq_ok.1 h
    obtain ⟨rfl, hrest⟩ := Prod.mk.inj (pure_eq_ok.1 h)
    obtain ⟨rfl, -⟩ := Prod.mk.inj hrest
    refine .inr ⟨(insert_ok hinsert).1, rfl, fun y hy => ?_⟩
    simpa using List.filter_eq_nil_iff.1 hnone y hy
  · rename_i y hone
    obtain ⟨rfl, hrest⟩ := Prod.mk.inj (Except.ok.inj h)
    obtain ⟨rfl, -⟩ := Prod.mk.inj hrest
    have hmem : y ∈ t.rows.filter p := hone ▸ List.mem_singleton_self y
    exact .inl ⟨rfl, List.mem_filter.1 hmem⟩
  · cases h

end

section

variable [DecidableEq κ] {t : Table ρ κ α pk alt} {key : κ} {f : ρ → ρ}
  {hpk : ∀ r, pk (f r) = pk r} {halt : ∀ r, alt (f r) = alt r}

theorem modify_rows : (t.modify key f hpk halt).rows =
      t.rows.map fun r => if pk r = key then f r else r := rfl

end

section

variable {t : Table ρ κ α pk alt} {p : ρ → Bool} {f : ρ → ρ} {hpk : ∀ r, pk (f r) = pk r}
  {halt : ∀ r, alt (f r) = alt r}

/-- A row after a bulk update was not met, or is the update of one that was. -/
theorem mem_map_update {rows : List ρ} {s : ρ} :
    s ∈ rows.map (fun r => if p r = true then f r else r) ↔
      (s ∈ rows ∧ p s = false) ∨ ∃ r ∈ rows, p r = true ∧ s = f r := by
  rw [List.mem_map]
  constructor
  · rintro ⟨r, hr, rfl⟩
    by_cases h : p r = true
    · rw [if_pos h]
      exact .inr ⟨r, hr, h, rfl⟩
    · rw [if_neg h]
      exact .inl ⟨hr, Bool.eq_false_iff.2 h⟩
  · rintro (⟨hs, h⟩ | ⟨r, hr, h, rfl⟩)
    · exact ⟨s, hs, if_neg (Bool.eq_false_iff.1 h)⟩
    · exact ⟨r, hr, if_pos h⟩

end

end Table

end LiveOs.Lib
