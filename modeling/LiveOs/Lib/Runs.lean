import Mathlib.Data.List.Basic
import Mathlib.Order.Basic

/-!
# Calls that may fail and runs of them

A service call takes a state and either raises or returns a new state with its result. A raised
call changes nothing, so a run over a list of calls keeps the state at every call that raises.
The rules below turn facts about one successful call into facts about every run.
-/

namespace LiveOs.Lib

/-! ## Guards and sequencing -/

/-- `if c: raise e`. -/
def rejectIf {ε : Type} (c : Prop) [Decidable c] (e : ε) : Except ε Unit :=
  if c then .error e else .ok ()

section

variable {ε α β : Type}

@[simp] theorem rejectIf_eq_ok {c : Prop} [Decidable c] {e : ε} {u : Unit} :
    rejectIf c e = .ok u ↔ ¬ c := by
  unfold rejectIf
  by_cases h : c <;> simp [h]

@[simp] theorem rejectIf_eq_error {c : Prop} [Decidable c] {e e' : ε} :
    rejectIf c e = .error e' ↔ c ∧ e = e' := by
  unfold rejectIf
  by_cases h : c <;> simp [h]

theorem rejectIf_neg {c : Prop} [Decidable c] {e : ε} (h : ¬ c) : rejectIf c e = .ok () :=
  if_neg h

theorem rejectIf_pos {c : Prop} [Decidable c] {e : ε} (h : c) : rejectIf c e = .error e :=
  if_pos h

theorem bind_eq_ok {x : Except ε α} {f : α → Except ε β} {b : β} :
    (x >>= f) = .ok b ↔ ∃ a, x = .ok a ∧ f a = .ok b := by
  cases x <;> simp [bind, Except.bind]

@[simp] theorem ok_bind {a : α} {f : α → Except ε β} : (Except.ok a >>= f) = f a := rfl

@[simp] theorem error_bind {e : ε} {f : α → Except ε β} : (Except.error e >>= f) = .error e := rfl

theorem pure_eq_ok {a b : α} : (pure a : Except ε α) = .ok b ↔ a = b := by
  simp [pure, Except.pure]

instance decidableEqOkNone : ∀ x : Except ε (Option α), Decidable (x = .ok none)
  | .ok none => isTrue rfl
  | .ok (some _) => isFalse nofun
  | .error _ => isFalse nofun

/-- A guarded computation succeeds when the guard is not hit and the rest succeeds. -/
theorem rejectIf_bind_eq_ok {c : Prop} [Decidable c] {e : ε} {f : Unit → Except ε β} {b : β} :
    (rejectIf c e >>= f) = .ok b ↔ ¬ c ∧ f () = .ok b := by
  unfold rejectIf
  by_cases h : c <;> simp [h]

end

/-! ## Runs -/

section

variable {ε σ ι : Type}

/-- The state after one call: the new one, or the old one when the call raises. -/
def afterCall (step : σ → ι → Except ε σ) (s : σ) (c : ι) : σ :=
  match step s c with
  | .ok s' => s'
  | .error _ => s

/-- The state after a list of calls. -/
def runCalls (step : σ → ι → Except ε σ) (s : σ) (cs : List ι) : σ :=
  cs.foldl (afterCall step) s

/-- Every call of the run meets the condition in the state it is made in. -/
def EachCall (step : σ → ι → Except ε σ) (ok : σ → ι → Prop) : σ → List ι → Prop
  | _, [] => True
  | s, c :: cs => ok s c ∧ EachCall step ok (afterCall step s c) cs

variable {step : σ → ι → Except ε σ}

instance EachCall.decidable {ok : σ → ι → Prop} [h : ∀ s c, Decidable (ok s c)] :
    ∀ (s : σ) (cs : List ι), Decidable (EachCall step ok s cs)
  | _, [] => isTrue trivial
  | s, c :: cs => @instDecidableAnd _ _ (h s c) (EachCall.decidable (afterCall step s c) cs)

theorem afterCall_ok {s s' : σ} {c : ι} (h : step s c = .ok s') : afterCall step s c = s' := by
  rw [afterCall, h]

theorem afterCall_error {s : σ} {c : ι} {e : ε} (h : step s c = .error e) :
    afterCall step s c = s := by
  rw [afterCall, h]

@[simp] theorem runCalls_nil (s : σ) : runCalls step s [] = s := rfl

@[simp] theorem runCalls_cons (s : σ) (c : ι) (cs : List ι) :
    runCalls step s (c :: cs) = runCalls step (afterCall step s c) cs := rfl

theorem runCalls_append (s : σ) (cs ds : List ι) :
    runCalls step s (cs ++ ds) = runCalls step (runCalls step s cs) ds :=
  List.foldl_append

/-- A list of calls that all succeed is a run. -/
theorem runCalls_of_foldlM {s s' : σ} {cs : List ι} (h : cs.foldlM step s = .ok s') :
    runCalls step s cs = s' := by
  induction cs generalizing s with
  | nil => exact pure_eq_ok.1 h
  | cons c cs ih =>
    rw [List.foldlM_cons] at h
    obtain ⟨s₁, hc, h⟩ := bind_eq_ok.1 h
    rw [runCalls_cons, afterCall_ok hc]
    exact ih h

/-- **Invariants of runs.** What every successful call preserves holds after every run. -/
theorem runCalls_invariant {Inv : σ → Prop}
    (hstep : ∀ s c s', Inv s → step s c = .ok s' → Inv s') {s : σ} (h : Inv s) (cs : List ι) :
    Inv (runCalls step s cs) := by
  induction cs generalizing s with
  | nil => exact h
  | cons c cs ih =>
    refine ih ?_
    cases hc : step s c with
    | error e => rwa [afterCall_error hc]
    | ok s' => rw [afterCall_ok hc]; exact hstep s c s' h hc

/-- Invariants of runs whose calls all meet a condition. -/
theorem EachCall.invariant {ok : σ → ι → Prop} {Inv : σ → Prop}
    (hstep : ∀ s c s', Inv s → ok s c → step s c = .ok s' → Inv s') {s : σ} (h : Inv s)
    {cs : List ι} (hcs : EachCall step ok s cs) : Inv (runCalls step s cs) := by
  induction cs generalizing s with
  | nil => exact h
  | cons c cs ih =>
    refine ih ?_ hcs.2
    cases hc : step s c with
    | error e => rwa [afterCall_error hc]
    | ok s' => rw [afterCall_ok hc]; exact hstep s c s' h hcs.1 hc

/-- A condition met by every call of a run is met by every call of its parts. -/
theorem EachCall.of_append {ok : σ → ι → Prop} {s : σ} {cs ds : List ι}
    (h : EachCall step ok s (cs ++ ds)) :
    EachCall step ok s cs ∧ EachCall step ok (runCalls step s cs) ds := by
  induction cs generalizing s with
  | nil => exact ⟨trivial, h⟩
  | cons c cs ih =>
    obtain ⟨hcs, hds⟩ := ih h.2
    exact ⟨⟨h.1, hcs⟩, hds⟩

theorem EachCall.append {ok : σ → ι → Prop} {s : σ} {cs ds : List ι} (hcs : EachCall step ok s cs)
    (hds : EachCall step ok (runCalls step s cs) ds) : EachCall step ok s (cs ++ ds) := by
  induction cs generalizing s with
  | nil => exact hds
  | cons c cs ih => exact ⟨hcs.1, ih hcs.2 hds⟩

/-- A condition on calls alone. -/
theorem EachCall.of_forall {ok : σ → ι → Prop} (s : σ) {cs : List ι}
    (h : ∀ c ∈ cs, ∀ s, ok s c) : EachCall step ok s cs := by
  induction cs generalizing s with
  | nil => trivial
  | cons c cs ih =>
    exact ⟨h c List.mem_cons_self s, ih _ fun d hd => h d (List.mem_cons_of_mem _ hd)⟩

/-- A condition on calls beside one on calls and states. -/
theorem EachCall.and_forall {ok : σ → ι → Prop} {p : ι → Prop} {s : σ} {cs : List ι}
    (hcs : EachCall step ok s cs) (h : ∀ c ∈ cs, p c) :
    EachCall step (fun s c => p c ∧ ok s c) s cs := by
  induction cs generalizing s with
  | nil => trivial
  | cons c cs ih =>
    exact ⟨⟨h c List.mem_cons_self, hcs.1⟩, ih hcs.2 fun d hd => h d (List.mem_cons_of_mem _ hd)⟩

/-- **Frames of runs.** A reflexive and transitive relation that every successful call respects
relates the ends of every run. -/
theorem EachCall.rel {ok : σ → ι → Prop} {Inv : σ → Prop} {R : σ → σ → Prop} (hrefl : ∀ s, R s s)
    (htrans : ∀ a b c, R a b → R b c → R a c)
    (hinv : ∀ s c s', Inv s → ok s c → step s c = .ok s' → Inv s')
    (hstep : ∀ s c s', Inv s → ok s c → step s c = .ok s' → R s s') {s : σ} (h : Inv s)
    {cs : List ι} (hcs : EachCall step ok s cs) : R s (runCalls step s cs) := by
  induction cs generalizing s with
  | nil => exact hrefl s
  | cons c cs ih =>
    obtain ⟨hok, hcs⟩ := hcs
    cases hc : step s c with
    | error e =>
      rw [afterCall_error hc] at hcs
      rw [runCalls_cons, afterCall_error hc]
      exact ih h hcs
    | ok s' =>
      rw [afterCall_ok hc] at hcs
      rw [runCalls_cons, afterCall_ok hc]
      exact htrans _ _ _ (hstep s c s' h hok hc) (ih (hinv s c s' h hok hc) hcs)

end

end LiveOs.Lib
