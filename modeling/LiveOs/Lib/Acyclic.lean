import Mathlib.Logic.Relation
import Mathlib.Data.Set.Function

/-!
# Acyclic relations

A relation without a cycle stays one when edges are taken away, when it is renamed injectively, and
when an edge is added whose end does not lead back to its beginning.
-/

namespace LiveOs.Lib

open Relation

variable {α β : Type} {r r' : α → α → Prop} {a b : α}

/-- No element leads back to itself. -/
def Acyclic (r : α → α → Prop) : Prop := ∀ a, ¬ TransGen r a a

theorem Acyclic.mono (h : Acyclic r) (hsub : ∀ a b, r' a b → r a b) : Acyclic r' :=
  fun a hcycle => h a (TransGen.mono hsub a a hcycle)

/-- A rank that falls along every edge. -/
theorem acyclic_of_rank (rank : α → Nat) (h : ∀ a b, r a b → rank b < rank a) : Acyclic r := by
  have hpath : ∀ a b, TransGen r a b → rank b < rank a := by
    intro a b hab
    induction hab with
    | single hedge => exact h _ _ hedge
    | tail _ hedge ih =>
      have hlast := h _ _ hedge
      omega
  exact fun a hcycle => Nat.lt_irrefl _ (hpath a a hcycle)

/-- A path that uses the new edge passes from its end on to the beginning of the path again. -/
theorem transGen_addEdge {x y : α} (h : TransGen (fun x y => r x y ∨ (x = a ∧ y = b)) x y) :
    TransGen r x y ∨ (ReflTransGen r x a ∧ ReflTransGen r b y) ∨ ReflTransGen r b a := by
  induction h with
  | single hxy =>
    rcases hxy with hxy | ⟨rfl, rfl⟩
    · exact .inl (.single hxy)
    · exact .inr (.inl ⟨.refl, .refl⟩)
  | @tail y z _ hyz ih =>
    rcases hyz with hyz | ⟨rfl, rfl⟩
    · rcases ih with hpath | ⟨hxa, hby⟩ | hback
      · exact .inl (hpath.tail hyz)
      · exact .inr (.inl ⟨hxa, hby.tail hyz⟩)
      · exact .inr (.inr hback)
    · rcases ih with hpath | ⟨-, hback⟩ | hback
      · exact .inr (.inl ⟨hpath.to_reflTransGen, .refl⟩)
      · exact .inr (.inr hback)
      · exact .inr (.inr hback)

/-- **Adding an edge.** -/
theorem Acyclic.addEdge (h : Acyclic r) (hno : ¬ ReflTransGen r b a) :
    Acyclic fun x y => r x y ∨ (x = a ∧ y = b) := by
  intro x hcycle
  rcases transGen_addEdge hcycle with hpath | ⟨hxa, hbx⟩ | hback
  · exact h x hpath
  · exact hno (hbx.trans hxa)
  · exact hno hback

/-- An edge that closes a cycle. -/
theorem not_acyclic_addEdge (hback : ReflTransGen r b a) :
    ¬ Acyclic fun x y => r x y ∨ (x = a ∧ y = b) := by
  intro h
  have hpath : ReflTransGen (fun x y => r x y ∨ (x = a ∧ y = b)) b a :=
    ReflTransGen.mono (fun _ _ => Or.inl) b a hback
  exact h a (.head' (.inr ⟨rfl, rfl⟩) hpath)

/-- An element without incoming edges is not reached from elsewhere. -/
theorem not_reflTransGen_of_no_edge {x : α} (hno : ∀ y, ¬ r y a) (hx : x ≠ a) :
    ¬ ReflTransGen r x a := by
  intro h
  rcases h.cases_tail with heq | ⟨y, -, hya⟩
  · exact hx heq.symm
  · exact hno y hya

/-- **Renaming.** Every edge is the image of an edge between elements of a set on which the renaming
is injective. -/
theorem Acyclic.rename {s : β → β → Prop} {f : α → β} {S : Set α} (h : Acyclic r)
    (hinj : Set.InjOn f S)
    (hedges : ∀ x y, s x y → ∃ a ∈ S, ∃ b ∈ S, r a b ∧ f a = x ∧ f b = y) : Acyclic s := by
  have hpath : ∀ x y, TransGen s x y → ∃ a ∈ S, ∃ b ∈ S, TransGen r a b ∧ f a = x ∧ f b = y := by
    intro x y hxy
    induction hxy with
    | single hedge =>
      obtain ⟨a, ha, b, hb, hab, rfl, rfl⟩ := hedges _ _ hedge
      exact ⟨a, ha, b, hb, .single hab, rfl, rfl⟩
    | tail _ hedge ih =>
      obtain ⟨a, ha, b, hb, hab, rfl, rfl⟩ := ih
      obtain ⟨c, hc, d, hd, hcd, heq, rfl⟩ := hedges _ _ hedge
      obtain rfl := hinj hc hb heq
      exact ⟨a, ha, d, hd, hab.tail hcd, rfl, rfl⟩
  intro x hcycle
  obtain ⟨a, ha, b, hb, hab, hax, hbx⟩ := hpath x x hcycle
  obtain rfl := hinj ha hb (hax.trans hbx.symm)
  exact h a hab

end LiveOs.Lib
