import LiveOs.Lib.Rollback

/-!
# Which exceptions a computation raises

A set of exceptions that contains whatever a computation raises from a state. The rules go through a
computation step by step, each step knowing what the steps before it returned.
-/

namespace LiveOs.Lib

variable {ε σ α β : Type} {E F : ε → Prop} {s : σ}

/-- Whatever the value raises is in the set. -/
def Fails (E : ε → Prop) (x : Except ε α) : Prop := ∀ e, x = .error e → E e

/-- Whatever the computation raises from the state is in the set. -/
def Raises (E : ε → Prop) (m : EStateM ε σ α) (s : σ) : Prop := ∀ e s', m s = .error e s' → E e

/-- The exception the computation raises from the state, when it raises one. -/
def raised? (m : EStateM ε σ α) (s : σ) : Option ε :=
  match m s with
  | .ok _ _ => none
  | .error e _ => some e

theorem raised?_eq_some {m : EStateM ε σ α} {e : ε} :
    raised? m s = some e ↔ ∃ s', m s = .error e s' := by
  unfold raised?
  cases m s <;> simp

section

variable {x : Except ε α} {f : α → Except ε β}

theorem fails_ok {a : α} : Fails E (.ok a : Except ε α) := by
  intro e h
  cases h

theorem fails_pure {a : α} : Fails E (pure a : Except ε α) := fails_ok

theorem fails_error {e : ε} (h : E e) : Fails E (.error e : Except ε α) := by
  intro e' he
  cases he
  exact h

theorem Fails.mono (h : Fails E x) (hsub : ∀ e, E e → F e) : Fails F x :=
  fun e he => hsub e (h e he)

theorem Fails.bind (hx : Fails E x) (hf : ∀ a, x = .ok a → Fails E (f a)) : Fails E (x >>= f) := by
  intro e h
  cases hres : x with
  | error e' =>
    rw [hres] at h
    cases h
    exact hx e hres
  | ok a =>
    rw [hres] at h
    exact hf a hres e h

theorem Fails.map {g : α → β} (hx : Fails E x) : Fails E (x.map g) := by
  intro e h
  cases hres : x with
  | error e' =>
    rw [hres] at h
    cases h
    exact hx e hres
  | ok a =>
    rw [hres] at h
    cases h

theorem fails_ite {c : Prop} [Decidable c] {y : Except ε α} (hx : c → Fails E x)
    (hy : ¬ c → Fails E y) : Fails E (if c then x else y) := by
  by_cases h : c
  · rw [if_pos h]
    exact hx h
  · rw [if_neg h]
    exact hy h

end

/-! ## Steps -/

section

variable {x y : EStateM ε σ α} {f : α → EStateM ε σ β}

theorem raises_pure {a : α} : Raises E (pure a : EStateM ε σ α) s := by
  intro e s' h
  cases h

theorem raises_throw {e : ε} (h : E e) : Raises E (throw e : EStateM ε σ α) s := by
  intro e' s' he
  cases he
  exact h

theorem raises_of_ok {a : α} {s' : σ} (h : x s = .ok a s') : Raises E x s := by
  intro e s₁ he
  rw [h] at he
  cases he

theorem Raises.mono (h : Raises E x s) (hsub : ∀ e, E e → F e) : Raises F x s :=
  fun e s' he => hsub e (h e s' he)

theorem Raises.bind (hx : Raises E x s) (hf : ∀ a s', x s = .ok a s' → Raises E (f a) s') :
    Raises E (x >>= f) s := by
  intro e s' h
  rcases run_bind_error.1 h with hx' | ⟨a, s₁, hx', hf'⟩
  · exact hx e s' hx'
  · exact hf a s₁ hx' e s' hf'

/-- A step after which nothing can be raised. -/
theorem Raises.bind_pure {g : α → β} (hx : Raises E x s) :
    Raises E (x >>= fun a => pure (g a)) s :=
  hx.bind fun _ _ _ => raises_pure

theorem raises_throw_bind {e : ε} (h : E e) : Raises E ((throw e : EStateM ε σ α) >>= f) s :=
  (raises_throw h).bind fun _ _ ha => nomatch ha

/-- A computing step in front leaves the state. -/
theorem raises_compute_bind {x : Except ε α} (hx : Fails E x)
    (hf : ∀ a, x = .ok a → Raises E (f a) s) : Raises E (compute x >>= f) s := by
  intro e s' h
  rcases run_bind_error.1 h with hx' | ⟨a, s₁, hx', hf'⟩
  · exact hx e (run_compute_error.1 hx').1
  · obtain ⟨ha, rfl⟩ := run_compute_ok.1 hx'
    exact hf a ha e s' hf'

theorem raises_compute_of_ok {x : Except ε α} {a : α} (h : x = .ok a) (hf : Raises E (f a) s) :
    Raises E (compute x >>= f) s := by
  subst h
  exact hf

/-- A reading step in front. -/
theorem raises_get_bind {g : σ → EStateM ε σ β} (h : Raises E (g s) s) :
    Raises E ((get : EStateM ε σ σ) >>= g) s := h

theorem raises_update {g : σ → Except ε σ} (h : Fails E (g s)) : Raises E (update g) s := by
  intro e s' he
  exact h e (run_update_error.1 he).1

theorem raises_ite {c : Prop} [Decidable c] (hx : c → Raises E x s) (hy : ¬ c → Raises E y s) :
    Raises E (if c then x else y) s := by
  by_cases h : c
  · rw [if_pos h]
    exact hx h
  · rw [if_neg h]
    exact hy h

end

/-! ## Loops -/

section

variable {f : β → α → EStateM ε σ β} {b : β}

/-- What a loop raises is raised by one of its turns, from where the turns before it have led. -/
theorem foldlM_error {xs : List α} {e : ε} {s' : σ} (h : xs.foldlM f b s = .error e s') :
    ∃ done x rest b₁ s₁, xs = done ++ x :: rest ∧ done.foldlM f b s = .ok b₁ s₁ ∧
      f b₁ x s₁ = .error e s' := by
  induction xs generalizing b s with
  | nil => cases h
  | cons x xs ih =>
    rw [List.foldlM_cons, run_bind_error] at h
    rcases h with hx | ⟨b₁, s₁, hx, hxs⟩
    · exact ⟨[], x, xs, b, s, rfl, rfl, hx⟩
    · obtain ⟨done, y, rest, b₂, s₂, rfl, hdone, hy⟩ := ih hxs
      refine ⟨x :: done, y, rest, b₂, s₂, rfl, ?_, hy⟩
      rw [List.foldlM_cons, run_bind_of_ok hx]
      exact hdone

theorem raises_foldlM {xs : List α} (h : ∀ x ∈ xs, ∀ b s, Raises E (f b x) s) :
    Raises E (xs.foldlM f b) s := by
  intro e s' he
  obtain ⟨done, x, rest, b₁, s₁, rfl, -, hx⟩ := foldlM_error he
  exact h x (by simp) b₁ s₁ e s' hx

end

end LiveOs.Lib
