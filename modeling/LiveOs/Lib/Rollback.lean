import LiveOs.Lib.Runs

/-!
# Writes, exceptions and rollback

A computation over a database state that may raise. What it has written before it raises stays
written, unless the computation is an atomic block: then the state is the one before the block. The
rules below read a successful computation backwards, one step at a time, and carry a relation
between states over the turns of a loop.
-/

namespace LiveOs.Lib

variable {ε σ α β : Type}

/-- `with transaction.atomic(): m`. -/
def atomic (m : EStateM ε σ α) : EStateM ε σ α := fun s =>
  match m s with
  | .ok a s' => .ok a s'
  | .error e _ => .error e s

/-- A step that only computes. -/
def compute (x : Except ε α) : EStateM ε σ α := fun s =>
  match x with
  | .ok a => .ok a s
  | .error e => .error e s

/-- A step that computes its result and the next state from the state. -/
def update (f : σ → Except ε σ) : EStateM ε σ Unit := fun s =>
  match f s with
  | .ok s' => .ok () s'
  | .error e => .error e s

/-- The state a computation ends in, whether it returns or raises. -/
def finalState (m : EStateM ε σ α) (s : σ) : σ :=
  match m s with
  | .ok _ s' => s'
  | .error _ s' => s'

/-- The computation raises nothing. -/
def returns (m : EStateM ε σ α) (s : σ) : Bool :=
  match m s with
  | .ok _ _ => true
  | .error _ _ => false

/-- The computation raises nothing, and its result and state meet the test. -/
def returnsWith (p : α → σ → Bool) (m : EStateM ε σ α) (s : σ) : Bool :=
  match m s with
  | .ok a s' => p a s'
  | .error _ _ => false

/-- The computation raises the exception. -/
def raisesThe [DecidableEq ε] (e : ε) (m : EStateM ε σ α) (s : σ) : Bool :=
  match m s with
  | .ok _ _ => false
  | .error e' _ => e' = e

section

variable {x : EStateM ε σ α} {f : α → EStateM ε σ β} {s s' : σ} {a : α} {b : β} {e : ε}

theorem returns_iff : returns x s = true ↔ ∃ a s', x s = .ok a s' := by
  unfold returns
  cases x s <;> simp

theorem returnsWith_iff {p : α → σ → Bool} :
    returnsWith p x s = true ↔ ∃ a s', x s = .ok a s' ∧ p a s' = true := by
  unfold returnsWith
  cases x s <;> simp

theorem raisesThe_iff [DecidableEq ε] : raisesThe e x s = true ↔ ∃ s', x s = .error e s' := by
  unfold raisesThe
  cases x s <;> simp

theorem run_bind_ok : (x >>= f) s = .ok b s' ↔ ∃ a s₁, x s = .ok a s₁ ∧ f a s₁ = .ok b s' := by
  show EStateM.bind x f s = .ok b s' ↔ _
  unfold EStateM.bind
  cases h : x s with
  | ok a s₁ => simp
  | error e s₁ => simp

theorem run_bind_of_ok {s₁ : σ} (h : x s = .ok a s₁) : (x >>= f) s = f a s₁ := by
  show EStateM.bind x f s = _
  unfold EStateM.bind
  rw [h]

theorem run_bind_of_error {s₁ : σ} (h : x s = .error e s₁) : (x >>= f) s = .error e s₁ := by
  show EStateM.bind x f s = _
  unfold EStateM.bind
  rw [h]

theorem run_bind_error : (x >>= f) s = .error e s' ↔
    x s = .error e s' ∨ ∃ a s₁, x s = .ok a s₁ ∧ f a s₁ = .error e s' := by
  show EStateM.bind x f s = .error e s' ↔ _
  unfold EStateM.bind
  cases h : x s with
  | ok a s₁ => simp
  | error e s₁ => simp

@[simp] theorem run_pure : (pure a : EStateM ε σ α) s = .ok a s := rfl

@[simp] theorem run_get : (get : EStateM ε σ σ) s = .ok s s := rfl

@[simp] theorem run_throw : (throw e : EStateM ε σ α) s = .error e s := rfl

theorem run_compute_ok {x : Except ε α} :
    (compute x : EStateM ε σ α) s = .ok a s' ↔ x = .ok a ∧ s = s' := by
  unfold compute
  cases x <;> simp

theorem run_compute_error {x : Except ε α} :
    (compute x : EStateM ε σ α) s = .error e s' ↔ x = .error e ∧ s = s' := by
  unfold compute
  cases x <;> simp

/-- A computing step in front. -/
theorem run_compute_bind_ok {x : Except ε α} :
    (compute x >>= f) s = .ok b s' ↔ ∃ a, x = .ok a ∧ f a s = .ok b s' := by
  rw [run_bind_ok]
  constructor
  · rintro ⟨a, s₁, h, hf⟩
    obtain ⟨ha, rfl⟩ := run_compute_ok.1 h
    exact ⟨a, ha, hf⟩
  · rintro ⟨a, ha, hf⟩
    exact ⟨a, s, run_compute_ok.2 ⟨ha, rfl⟩, hf⟩

/-- A reading step in front. -/
theorem run_get_bind {g : σ → EStateM ε σ β} : ((get : EStateM ε σ σ) >>= g) s = g s s := rfl

theorem run_pure_ok : (pure a : EStateM ε σ α) s = .ok a s' ↔ s = s' := by
  simp

theorem run_update_ok {g : σ → Except ε σ} : update g s = .ok () s' ↔ g s = .ok s' := by
  unfold update
  cases h : g s <;> simp

theorem run_update_error {g : σ → Except ε σ} :
    update g s = .error e s' ↔ g s = .error e ∧ s = s' := by
  unfold update
  cases h : g s <;> simp

/-! ## Atomic blocks -/

theorem run_atomic_ok : atomic x s = .ok a s' ↔ x s = .ok a s' := by
  unfold atomic
  cases h : x s <;> simp

/-- **Rollback.** A block that raises leaves the state as it was. -/
theorem run_atomic_error : atomic x s = .error e s' ↔ s' = s ∧ ∃ s₁, x s = .error e s₁ := by
  unfold atomic
  cases h : x s with
  | ok a s₁ => simp
  | error e₁ s₁ =>
    simp only [EStateM.Result.error.injEq]
    constructor
    · rintro ⟨rfl, rfl⟩
      exact ⟨rfl, s₁, rfl, rfl⟩
    · rintro ⟨rfl, s₂, rfl, -⟩
      exact ⟨rfl, rfl⟩

theorem finalState_of_ok (h : x s = .ok a s') : finalState x s = s' := by
  rw [finalState, h]

theorem finalState_of_error (h : x s = .error e s') : finalState x s = s' := by
  rw [finalState, h]

theorem finalState_bind_of_ok (h : x s = .ok a s') :
    finalState (x >>= f) s = finalState (f a) s' := by
  rw [finalState, run_bind_of_ok h, finalState]

theorem finalState_bind_of_error (h : x s = .error e s') :
    finalState (x >>= f) s = finalState x s := by
  rw [finalState, run_bind_of_error h, finalState, h]

/-- A computation whose result is dropped. -/
theorem finalState_bind_pure : finalState (x >>= fun _ => pure b) s = finalState x s := by
  cases h : x s with
  | ok a s' =>
    rw [finalState_bind_of_ok h, finalState_of_ok h]
    rfl
  | error e s' => rw [finalState_bind_of_error h]

/-- A step that only computes, and raises or goes on. -/
theorem finalState_compute_bind {x : Except ε α} :
    (∃ a, x = .ok a ∧ finalState (compute x >>= f) s = finalState (f a) s) ∨
      (∃ e, x = .error e) ∧ finalState (compute x >>= f) s = s := by
  cases x with
  | ok a => exact .inl ⟨a, rfl, rfl⟩
  | error e => exact .inr ⟨⟨e, rfl⟩, rfl⟩

end

/-! ## Loops -/

section

variable {f : β → α → EStateM ε σ β}

/-- **Relations over loops.** A reflexive and transitive relation between what stands before and
after each turn stands before and after the loop. -/
theorem foldlM_rel {R : β × σ → β × σ → Prop} (hrefl : ∀ p, R p p)
    (htrans : ∀ p q r, R p q → R q r → R p r) {xs : List α}
    (hstep : ∀ x ∈ xs, ∀ b s b' s', f b x s = .ok b' s' → R (b, s) (b', s')) {b b' : β} {s s' : σ}
    (h : xs.foldlM f b s = .ok b' s') : R (b, s) (b', s') := by
  induction xs generalizing b s with
  | nil =>
    obtain ⟨rfl, rfl⟩ := by simpa [List.foldlM_nil] using h
    exact hrefl _
  | cons x xs ih =>
    rw [List.foldlM_cons, run_bind_ok] at h
    obtain ⟨b₁, s₁, hx, h⟩ := h
    have hrest := ih (fun y hy => hstep y (List.mem_cons_of_mem _ hy)) h
    exact htrans _ _ _ (hstep x List.mem_cons_self b s b₁ s₁ hx) hrest

/-- **Invariants of loops.** -/
theorem foldlM_invariant {Inv : β → σ → Prop} {xs : List α}
    (hstep : ∀ x ∈ xs, ∀ b s b' s', Inv b s → f b x s = .ok b' s' → Inv b' s') {b b' : β}
    {s s' : σ} (h₀ : Inv b s) (h : xs.foldlM f b s = .ok b' s') : Inv b' s' := by
  induction xs generalizing b s with
  | nil =>
    obtain ⟨rfl, rfl⟩ := by simpa [List.foldlM_nil] using h
    exact h₀
  | cons x xs ih =>
    rw [List.foldlM_cons, run_bind_ok] at h
    obtain ⟨b₁, s₁, hx, h⟩ := h
    exact ih (fun y hy => hstep y (List.mem_cons_of_mem _ hy))
      (hstep x List.mem_cons_self b s b₁ s₁ h₀ hx) h

/-- **Invariants of loops, where a turn is known by what came before it.** -/
theorem foldlM_invariant_split {Inv : β → σ → Prop} {xs : List α} {b₀ b' : β} {s₀ s' : σ}
    (hstep : ∀ done x rest b s b' s', xs = done ++ x :: rest →
      done.foldlM f b₀ s₀ = .ok b s → Inv b s → f b x s = .ok b' s' → Inv b' s')
    (h₀ : Inv b₀ s₀) (h : xs.foldlM f b₀ s₀ = .ok b' s') : Inv b' s' := by
  -- the turns that are done stand in front of those that are left
  suffices go : ∀ rest done b s, xs = done ++ rest → done.foldlM f b₀ s₀ = .ok b s → Inv b s →
      rest.foldlM f b s = .ok b' s' → Inv b' s' from go xs [] b₀ s₀ rfl rfl h₀ h
  intro rest
  induction rest with
  | nil =>
    intro done b s _ _ hinv h
    obtain ⟨rfl, rfl⟩ := by simpa [List.foldlM_nil] using h
    exact hinv
  | cons x rest ih =>
    intro done b s hxs hdone hinv h
    rw [List.foldlM_cons, run_bind_ok] at h
    obtain ⟨b₁, s₁, hx, h⟩ := h
    refine ih (done ++ [x]) b₁ s₁ (by simpa using hxs) ?_
      (hstep done x rest b s b₁ s₁ hxs hdone hinv hx) h
    rw [List.foldlM_append, run_bind_of_ok hdone, List.foldlM_cons, run_bind_of_ok hx]
    rfl

/-- **Loops that finish.** Every turn succeeds from where the turns before it can lead. -/
theorem foldlM_returns {Inv : List α → β → σ → Prop}
    (hstep : ∀ x xs b s, Inv (x :: xs) b s → ∃ b' s', f b x s = .ok b' s' ∧ Inv xs b' s')
    {xs : List α} {b : β} {s : σ} (h₀ : Inv xs b s) :
    ∃ b' s', xs.foldlM f b s = .ok b' s' ∧ Inv [] b' s' := by
  induction xs generalizing b s with
  | nil => exact ⟨b, s, rfl, h₀⟩
  | cons x xs ih =>
    obtain ⟨b₁, s₁, hx, h₁⟩ := hstep x xs b s h₀
    obtain ⟨b', s', hxs, h'⟩ := ih h₁
    refine ⟨b', s', ?_, h'⟩
    rw [List.foldlM_cons, run_bind_of_ok hx]
    exact hxs

end

/-! ## What a computation keeps, returned or raised -/

/-- The invariant holds in the state the computation ends in. -/
def Preserves (I : σ → Prop) (m : EStateM ε σ α) : Prop := ∀ s, I s → I (finalState m s)

namespace Preserves

variable {I : σ → Prop} {x : EStateM ε σ α} {f : α → EStateM ε σ β}

theorem pure (a : α) : Preserves I (Pure.pure a : EStateM ε σ α) := fun _ h => h

theorem compute (x : Except ε α) : Preserves I (Lib.compute x) := by
  intro s h
  unfold finalState Lib.compute
  cases x <;> exact h

theorem update {g : σ → Except ε σ} (hg : ∀ s s', I s → g s = .ok s' → I s') :
    Preserves I (Lib.update g) := by
  intro s h
  unfold finalState Lib.update
  cases hs : g s with
  | ok s' => exact hg s s' h hs
  | error e => exact h

theorem bind (hx : Preserves I x) (hf : ∀ a, Preserves I (f a)) : Preserves I (x >>= f) := by
  intro s h
  have hs := hx s h
  cases hxs : x s with
  | ok a s₁ =>
    rw [finalState_of_ok hxs] at hs
    rw [finalState, run_bind_of_ok hxs]
    exact hf a s₁ hs
  | error e s₁ =>
    rw [finalState_of_error hxs] at hs
    rw [finalState, run_bind_of_error hxs]
    exact hs

/-- What is computed is known to the rest. -/
theorem compute_bind {y : Except ε α} (hf : ∀ a, y = .ok a → Preserves I (f a)) :
    Preserves I (Lib.compute y >>= f) := by
  cases y with
  | ok a => exact hf a rfl
  | error e => exact fun _ h => h

/-- What is read may decide how to go on. -/
theorem get_bind {g : σ → EStateM ε σ β} (hg : ∀ s, I s → I (finalState (g s) s)) :
    Preserves I ((get : EStateM ε σ σ) >>= g) := fun s h => hg s h

theorem foldlM {f : β → α → EStateM ε σ β} (hf : ∀ b a, Preserves I (f b a)) (b : β)
    (xs : List α) : Preserves I (xs.foldlM f b) := by
  induction xs generalizing b with
  | nil => exact pure b
  | cons x xs ih =>
    rw [List.foldlM_cons]
    exact bind (hf b x) ih

end Preserves

/-! ## Runs -/

section

variable {ι : Type} {call : ι → EStateM ε σ α}

/-- The state after a list of calls, returned or raised. -/
def runTx (call : ι → EStateM ε σ α) (s : σ) (cs : List ι) : σ :=
  cs.foldl (fun s c => finalState (call c) s) s

@[simp] theorem runTx_nil (s : σ) : runTx call s [] = s := rfl

@[simp] theorem runTx_cons (s : σ) (c : ι) (cs : List ι) :
    runTx call s (c :: cs) = runTx call (finalState (call c) s) cs := rfl

theorem runTx_append (s : σ) (cs ds : List ι) :
    runTx call s (cs ++ ds) = runTx call (runTx call s cs) ds := List.foldl_append

/-- **Invariants of runs.** -/
theorem runTx_invariant {I : σ → Prop} (hstep : ∀ c s, I s → I (finalState (call c) s))
    {s : σ} (h : I s) (cs : List ι) : I (runTx call s cs) := by
  induction cs generalizing s with
  | nil => exact h
  | cons c cs ih => exact ih (hstep c s h)

end

end LiveOs.Lib
