import LiveOs.Lib.Runs

/-!
# What a computation returns and raises

Rules for a computation whose value is not of interest, only that there is one or which
exceptions there can be, and for the same computation over the items of a list.
-/

namespace LiveOs.Lib

variable {ε α β : Type}

/-- The computation returns. -/
def Returns (x : Except ε α) : Prop := ∃ a, x = .ok a

/-- Whatever the computation raises meets `p`. -/
def RaisesOnly (p : ε → Prop) (x : Except ε α) : Prop := ∀ e, x = .error e → p e

/-- A computation returns or raises. -/
theorem returns_or_error (x : Except ε α) : Returns x ∨ ∃ e, x = .error e := by
  cases x with
  | ok a => exact .inl ⟨a, rfl⟩
  | error e => exact .inr ⟨e, rfl⟩

@[simp] theorem returns_ok (a : α) : Returns (Except.ok a : Except ε α) := ⟨a, rfl⟩

@[simp] theorem not_returns_error (e : ε) : ¬ Returns (Except.error e : Except ε α) := by
  rintro ⟨a, h⟩
  cases h

theorem returns_bind {x : Except ε α} {f : α → Except ε β} :
    Returns (x >>= f) ↔ ∃ a, x = .ok a ∧ Returns (f a) := by
  constructor
  · rintro ⟨b, h⟩
    obtain ⟨a, ha, hb⟩ := bind_eq_ok.1 h
    exact ⟨a, ha, b, hb⟩
  · rintro ⟨a, ha, b, hb⟩
    exact ⟨b, bind_eq_ok.2 ⟨a, ha, hb⟩⟩

theorem Returns.bind {x : Except ε α} {f : α → Except ε β} (hx : Returns x)
    (hf : ∀ a, Returns (f a)) : Returns (x >>= f) := by
  obtain ⟨a, ha⟩ := hx
  exact returns_bind.2 ⟨a, ha, hf a⟩

section

variable {p : ε → Prop}

theorem RaisesOnly.ok (a : α) : RaisesOnly p (Except.ok a : Except ε α) := by
  intro e h
  cases h

theorem RaisesOnly.error {e : ε} (h : p e) : RaisesOnly p (Except.error e : Except ε α) := by
  rintro e' h'
  cases h'
  exact h

theorem RaisesOnly.of_returns {x : Except ε α} (h : Returns x) : RaisesOnly p x := by
  obtain ⟨a, rfl⟩ := h
  exact .ok a

theorem RaisesOnly.bind {x : Except ε α} {f : α → Except ε β} (hx : RaisesOnly p x)
    (hf : ∀ a, RaisesOnly p (f a)) : RaisesOnly p (x >>= f) := by
  intro e h
  cases x with
  | ok a => exact hf a e h
  | error e' =>
    obtain rfl := Except.error.inj h
    exact hx _ rfl

theorem RaisesOnly.guard {c : Prop} [Decidable c] {e : ε} {f : Unit → Except ε β} (he : p e)
    (hf : RaisesOnly p (f ())) : RaisesOnly p (rejectIf c e >>= f) := by
  apply RaisesOnly.bind
  · intro e' h
    rw [rejectIf_eq_error] at h
    exact h.2 ▸ he
  · exact fun _ => hf

/-- Two computations that do not return and can raise one exception only are the same. -/
theorem eq_of_not_returns {e : ε} {x y : Except ε α} (hx : RaisesOnly (· = e) x)
    (hy : RaisesOnly (· = e) y) (hnx : ¬ Returns x) (hny : ¬ Returns y) : x = y := by
  obtain ⟨e₁, rfl⟩ := (returns_or_error x).resolve_left hnx
  obtain ⟨e₂, rfl⟩ := (returns_or_error y).resolve_left hny
  rw [hx e₁ rfl, hy e₂ rfl]

end

/-! ## Over a list -/

theorem RaisesOnly.mapM {p : ε → Prop} {f : α → Except ε β} {xs : List α}
    (hf : ∀ x ∈ xs, RaisesOnly p (f x)) : RaisesOnly p (xs.mapM f) := by
  induction xs with
  | nil => exact .ok []
  | cons x xs ih =>
    rw [List.mapM_cons]
    obtain ⟨hx, hxs⟩ := List.forall_mem_cons.1 hf
    exact .bind hx fun _ => .bind (ih hxs) fun _ => .ok _

/-- All items are computed exactly when each of them is. -/
theorem returns_mapM {f : α → Except ε β} {xs : List α} :
    Returns (xs.mapM f) ↔ ∀ x ∈ xs, Returns (f x) := by
  induction xs with
  | nil =>
    constructor
    · intro _ x hx
      cases hx
    · exact fun _ => ⟨[], rfl⟩
  | cons x xs ih =>
    rw [List.mapM_cons, returns_bind, List.forall_mem_cons, ← ih]
    constructor
    · rintro ⟨y, hy, hys⟩
      obtain ⟨ys, hys, -⟩ := returns_bind.1 hys
      exact ⟨⟨y, hy⟩, ys, hys⟩
    · rintro ⟨⟨y, hy⟩, ys, hys⟩
      exact ⟨y, hy, returns_bind.2 ⟨ys, hys, ⟨_, rfl⟩⟩⟩

theorem mapM_congr {f g : α → Except ε β} {xs : List α} (h : ∀ x ∈ xs, f x = g x) :
    xs.mapM f = xs.mapM g := by
  induction xs with
  | nil => rfl
  | cons x xs ih =>
    obtain ⟨hx, hxs⟩ := List.forall_mem_cons.1 h
    rw [List.mapM_cons, List.mapM_cons, hx, ih hxs]

/-- Two computations with the same results over a list agree on its items. -/
theorem eq_of_mapM {f g : α → Except ε β} {xs : List α} {ys : List β} (hf : xs.mapM f = .ok ys)
    (hg : xs.mapM g = .ok ys) : ∀ x ∈ xs, f x = g x := by
  induction xs generalizing ys with
  | nil => intro x hx; cases hx
  | cons x xs ih =>
    rw [List.mapM_cons] at hf hg
    obtain ⟨y, hy, hf⟩ := bind_eq_ok.1 hf
    obtain ⟨zs, hzs, hf⟩ := bind_eq_ok.1 hf
    obtain ⟨y', hy', hg⟩ := bind_eq_ok.1 hg
    obtain ⟨zs', hzs', hg⟩ := bind_eq_ok.1 hg
    obtain rfl := pure_eq_ok.1 hf
    obtain ⟨rfl, rfl⟩ := List.cons.inj (pure_eq_ok.1 hg)
    exact List.forall_mem_cons.2 ⟨hy.trans hy'.symm, ih hzs hzs'⟩

theorem mapM_length {f : α → Except ε β} {xs : List α} {ys : List β} (h : xs.mapM f = .ok ys) :
    ys.length = xs.length := by
  induction xs generalizing ys with
  | nil =>
    obtain rfl := pure_eq_ok.1 h
    rfl
  | cons x xs ih =>
    rw [List.mapM_cons] at h
    obtain ⟨y, -, h⟩ := bind_eq_ok.1 h
    obtain ⟨zs, hzs, h⟩ := bind_eq_ok.1 h
    obtain rfl := pure_eq_ok.1 h
    rw [List.length_cons, List.length_cons, ih hzs]

end LiveOs.Lib
