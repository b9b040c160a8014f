import Mathlib.Data.List.Basic

/-!
# Boolean formulas over leaves

Conjunctions, disjunctions and negations over leaves of any type, and their value under a
valuation of the leaves.
-/

namespace LiveOs.Lib

inductive Formula (α : Type) where
  | leaf (a : α)
  | all (fs : List (Formula α))
  | any (fs : List (Formula α))
  | not (f : Formula α)

namespace Formula

variable {α : Type}

/-- Induction over formulas, with the hypothesis for the members of a list. -/
@[induction_eliminator]
theorem induct {P : Formula α → Prop} (leaf : ∀ a, P (.leaf a))
    (all : ∀ fs, (∀ f ∈ fs, P f) → P (.all fs)) (any : ∀ fs, (∀ f ∈ fs, P f) → P (.any fs))
    (not : ∀ f, P f → P (.not f)) (f : Formula α) : P f :=
  @Formula.rec α P (fun fs => ∀ f ∈ fs, P f) leaf all any not
    (fun _ h => absurd h List.not_mem_nil)
    (fun _ _ hf hfs g hg => (List.mem_cons.1 hg).elim (fun e => e ▸ hf) (hfs g)) f

/-- The value of a formula. -/
def eval (v : α → Bool) : Formula α → Bool
  | leaf a => v a
  | all fs => evalAll fs
  | any fs => evalAny fs
  | not f => !f.eval v
where
  evalAll : List (Formula α) → Bool
    | [] => true
    | f :: fs => f.eval v && evalAll fs
  evalAny : List (Formula α) → Bool
    | [] => false
    | f :: fs => f.eval v || evalAny fs

@[simp] theorem eval_all (v : α → Bool) (fs : List (Formula α)) :
    (all fs).eval v = fs.all (eval v) := by
  have h : eval.evalAll v fs = fs.all (eval v) := by
    induction fs with
    | nil => rfl
    | cons f fs ih => rw [eval.evalAll, ih, List.all_cons]
  exact h

@[simp] theorem eval_any (v : α → Bool) (fs : List (Formula α)) :
    (any fs).eval v = fs.any (eval v) := by
  have h : eval.evalAny v fs = fs.any (eval v) := by
    induction fs with
    | nil => rfl
    | cons f fs ih => rw [eval.evalAny, ih, List.any_cons]
  exact h

/-- Every leaf of the formula meets the condition. -/
inductive Leaves (p : α → Prop) : Formula α → Prop
  | leaf {a : α} (h : p a) : Leaves p (.leaf a)
  | all {fs : List (Formula α)} (h : ∀ f ∈ fs, Leaves p f) : Leaves p (.all fs)
  | any {fs : List (Formula α)} (h : ∀ f ∈ fs, Leaves p f) : Leaves p (.any fs)
  | not {f : Formula α} (h : Leaves p f) : Leaves p (.not f)

theorem Leaves.map₂ {p q r : α → Prop} {f : Formula α} (hp : f.Leaves p)
    (himp : ∀ a, p a → q a → r a) (hq : f.Leaves q) : f.Leaves r := by
  induction f with
  | leaf a =>
    obtain ⟨hp⟩ := hp
    obtain ⟨hq⟩ := hq
    exact .leaf (himp a hp hq)
  | all fs ih =>
    cases hp with
    | all hp =>
      cases hq with
      | all hq => exact .all fun f hf => ih f hf (hp f hf) (hq f hf)
  | any fs ih =>
    cases hp with
    | any hp =>
      cases hq with
      | any hq => exact .any fun f hf => ih f hf (hp f hf) (hq f hf)
  | not f ih =>
    cases hp with
    | not hp =>
      cases hq with
      | not hq => exact .not (ih hp hq)

/-- Formulas take the same value under valuations that agree on their leaves. -/
theorem eval_congr {v w : α → Bool} {f : Formula α} (h : f.Leaves fun a => v a = w a) :
    f.eval v = f.eval w := by
  induction f with
  | leaf a =>
    obtain ⟨heq⟩ := h
    exact heq
  | all fs ih =>
    cases h with
    | all h =>
      rw [eval_all, eval_all, Bool.eq_iff_iff, List.all_eq_true, List.all_eq_true]
      exact forall₂_congr fun f hf => by rw [ih f hf (h f hf)]
  | any fs ih =>
    cases h with
    | any h =>
      rw [eval_any, eval_any, Bool.eq_iff_iff, List.any_eq_true, List.any_eq_true]
      exact exists_congr fun f => and_congr_right fun hf => by rw [ih f hf (h f hf)]
  | not f ih =>
    cases h with
    | not h => rw [eval, eval, ih h]

end Formula

end LiveOs.Lib
