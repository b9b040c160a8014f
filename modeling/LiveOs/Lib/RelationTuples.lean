import Mathlib.Data.List.Basic

/-!
# Relation tuples

Authorization by relations, as Zanzibar has it. A store holds tuples that relate a user to an object;
a schema says for each kind of object and relation how it follows: from the tuples themselves, from a
relation of the objects that a tupleset names, or from two others. A check unfolds definitions to a
given depth. Where every definition refers to relations of lower rank only, the depth that the rank
asks for decides the check.
-/

namespace LiveOs.Lib

/-- An object `kind:id`. -/
structure Entity where
  kind : String
  id : String
deriving DecidableEq

structure RelationTuple where
  user : Entity
  relation : String
  object : Entity
deriving DecidableEq

/-- How a relation follows. -/
inductive Rewrite where
  /-- `[kinds]` -/
  | direct (kinds : List String)
  /-- `relation from tupleset` -/
  | via (relation tupleset : String)
  /-- `a and b` -/
  | both (a b : Rewrite)
  /-- `a but not b` -/
  | butNot (a b : Rewrite)

/-- The definition of a relation on a kind of object. -/
abbrev Schema := String → String → Option Rewrite

variable {schema : Schema} {tuples : List RelationTuple}

/-- A rewrite over the answers to the checks it refers to. -/
def Rewrite.holds (tuples : List RelationTuple) (sub : Entity → String → Bool) (user : Entity)
    (relation : String) (object : Entity) : Rewrite → Bool
  | .direct kinds => kinds.contains user.kind && tuples.contains ⟨user, relation, object⟩
  | .via computed tupleset => tuples.any fun t =>
      t.object = object && t.relation = tupleset && sub t.user computed
  | .both a b => a.holds tuples sub user relation object && b.holds tuples sub user relation object
  | .butNot a b =>
    a.holds tuples sub user relation object && !b.holds tuples sub user relation object

/-- A check that unfolds definitions to the given depth. -/
def Schema.check (schema : Schema) (tuples : List RelationTuple) :
    Nat → Entity → String → Entity → Bool
  | 0, _, _, _ => false
  | n + 1, user, relation, object =>
    match schema object.kind relation with
    | none => false
    | some rewrite => rewrite.holds tuples
        (fun o computed => schema.check tuples n user computed o) user relation object

/-! ## Rules -/

theorem Rewrite.holds_direct {kinds : List String} {sub : Entity → String → Bool} {user object : Entity}
    {relation : String} : (Rewrite.direct kinds).holds tuples sub user relation object = true ↔
      user.kind ∈ kinds ∧ ⟨user, relation, object⟩ ∈ tuples := by
  simp [Rewrite.holds]

theorem Rewrite.holds_via {computed tupleset : String} {sub : Entity → String → Bool}
    {user object : Entity} {relation : String} :
    (Rewrite.via computed tupleset).holds tuples sub user relation object = true ↔
      ∃ o, ⟨o, tupleset, object⟩ ∈ tuples ∧ sub o computed = true := by
  simp only [Rewrite.holds, List.any_eq_true, Bool.and_eq_true, decide_eq_true_eq]
  constructor
  · rintro ⟨t, ht, ⟨rfl, rfl⟩, hsub⟩
    exact ⟨t.user, ht, hsub⟩
  · rintro ⟨o, ht, hsub⟩
    exact ⟨_, ht, ⟨rfl, rfl⟩, hsub⟩

theorem Rewrite.holds_both {a b : Rewrite} {sub : Entity → String → Bool} {user object : Entity}
    {relation : String} : (Rewrite.both a b).holds tuples sub user relation object = true ↔
      a.holds tuples sub user relation object = true ∧
        b.holds tuples sub user relation object = true := by
  simp [Rewrite.holds]

theorem Rewrite.holds_butNot {a b : Rewrite} {sub : Entity → String → Bool} {user object : Entity}
    {relation : String} : (Rewrite.butNot a b).holds tuples sub user relation object = true ↔
      a.holds tuples sub user relation object = true ∧
        ¬ b.holds tuples sub user relation object = true := by
  simp [Rewrite.holds]

theorem Schema.check_succ {n : Nat} {user object : Entity} {relation : String} {rewrite : Rewrite}
    (h : schema object.kind relation = some rewrite) :
    schema.check tuples (n + 1) user relation object = rewrite.holds tuples
      (fun o computed => schema.check tuples n user computed o) user relation object := by
  rw [Schema.check, h]

/-! ## Ranks -/

/-- The rewrite refers to relations of rank below `n` only. -/
def Rewrite.Below (rank : String → Nat) (n : Nat) : Rewrite → Prop
  | .direct _ => True
  | .via computed _ => rank computed < n
  | .both a b => a.Below rank n ∧ b.Below rank n
  | .butNot a b => a.Below rank n ∧ b.Below rank n

/-- Every definition refers to relations of lower rank only. -/
def Schema.Ranked (schema : Schema) (rank : String → Nat) : Prop :=
  ∀ kind relation rewrite, schema kind relation = some rewrite →
    rewrite.Below rank (rank relation)

/-- A rewrite depends on the checks that it refers to. -/
theorem Rewrite.holds_congr {rank : String → Nat} {n : Nat} {sub sub' : Entity → String → Bool}
    {user object : Entity} {relation : String}
    (hsub : ∀ o computed, rank computed < n → sub o computed = sub' o computed)
    (rewrite : Rewrite) (h : rewrite.Below rank n) :
    rewrite.holds tuples sub user relation object =
      rewrite.holds tuples sub' user relation object := by
  induction rewrite with
  | direct kinds => rfl
  | via computed tupleset =>
    simp only [Rewrite.holds]
    have hcomputed : ∀ o, sub o computed = sub' o computed := fun o => hsub o computed h
    simp only [hcomputed]
  | both a b iha ihb => simp only [Rewrite.holds, iha h.1, ihb h.2]
  | butNot a b iha ihb => simp only [Rewrite.holds, iha h.1, ihb h.2]

/-- **Depth.** Any depth above the rank of a relation gives the same answer. -/
theorem Schema.Ranked.check_eq {rank : String → Nat} (h : schema.Ranked rank) {user : Entity}
    (n : Nat) : ∀ {relation : String} {object : Entity} {m : Nat}, rank relation < n →
      rank relation < m → schema.check tuples n user relation object =
        schema.check tuples m user relation object := by
  induction n with
  | zero => intro relation object m hn; omega
  | succ n ih =>
    intro relation object m hn hm
    obtain ⟨m, rfl⟩ : ∃ k, m = k + 1 := ⟨m - 1, by omega⟩
    cases hdef : schema object.kind relation with
    | none => simp only [Schema.check, hdef]
    | some rewrite =>
      rw [Schema.check_succ hdef, Schema.check_succ hdef]
      refine Rewrite.holds_congr ?_ rewrite (h _ _ _ hdef)
      intro o computed hlt
      exact ih (by omega) (by omega)

end LiveOs.Lib
