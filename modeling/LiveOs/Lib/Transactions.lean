import LiveOs.Lib.Runs
import Mathlib.Algebra.BigOperators.Group.Finset.Basic
import Mathlib.Algebra.Order.BigOperators.Group.List
import Mathlib.Algebra.Order.Ring.Int

/-!
# Transactions that read first and write later

A service is split at its first write. A transaction starts by reading the committed state and
commits later, on a committed state that others may have changed meanwhile. The only exclusion is by
the rows that a call locks: a call does not start while a running one holds one of its rows.
-/

namespace LiveOs.Lib

/-- The two halves of the services `κ` over the states `σ`, with the rows `ℓ` that a call locks and
the plan `π` that its reads lead to. -/
structure Split (ε σ κ π ℓ : Type) where
  locks : κ → List ℓ
  reads : σ → κ → Except ε π
  writes : σ → κ → π → Except ε σ

/-- A transaction between its reads and its commit. -/
structure Running (κ π : Type) where
  call : κ
  plan : π

/-- The committed state and the running transactions, in the order they started. -/
structure Shared (σ κ π : Type) where
  committed : σ
  running : List (Running κ π)

/-- What can happen next; a running transaction is known by its place. -/
inductive Move (κ : Type) where
  | start (call : κ)
  | commit (place : Nat)
  | rollback (place : Nat)

/-- Why a move does not take place. -/
inductive Refused (ε : Type) where
  | blocked
  | idle
  | raised (e : ε)

namespace Split

variable {ε σ κ π ℓ : Type} (S : Split ε σ κ π ℓ)

/-- The calls lock a common row. -/
def Conflict (c d : κ) : Prop := ∃ row ∈ S.locks c, row ∈ S.locks d

instance [DecidableEq ℓ] (c d : κ) : Decidable (S.Conflict c d) :=
  inferInstanceAs (Decidable (∃ row ∈ S.locks c, row ∈ S.locks d))

/-- One move. Writes that raise leave the committed state as it is and end the transaction. -/
def step [DecidableEq ℓ] (w : Shared σ κ π) : Move κ → Except (Refused ε) (Shared σ κ π)
  | .start call =>
    if ∃ t ∈ w.running, S.Conflict t.call call then .error .blocked
    else match S.reads w.committed call with
      | .error e => .error (.raised e)
      | .ok plan => .ok { w with running := w.running ++ [⟨call, plan⟩] }
  | .commit place =>
    match w.running[place]? with
    | none => .error .idle
    | some t =>
      match S.writes w.committed t.call t.plan with
      | .error _ => .ok { w with running := w.running.eraseIdx place }
      | .ok s => .ok ⟨s, w.running.eraseIdx place⟩
  | .rollback place =>
    match w.running[place]? with
    | none => .error .idle
    | some _ => .ok { w with running := w.running.eraseIdx place }

/-- What a move that takes place does. -/
inductive Moved (w : Shared σ κ π) : Move κ → Shared σ κ π → Prop
  | start (call : κ) (plan : π) (free : ∀ t ∈ w.running, ¬ S.Conflict t.call call)
      (reads : S.reads w.committed call = .ok plan) :
      Moved w (.start call) ⟨w.committed, w.running ++ [⟨call, plan⟩]⟩
  | commit (place : Nat) (t : Running κ π) (rest : List (Running κ π)) (s : σ)
      (perm : w.running.Perm (t :: rest)) (sub : rest.Sublist w.running)
      (writes : S.writes w.committed t.call t.plan = .ok s) : Moved w (.commit place) ⟨s, rest⟩
  | finish (move : Move κ) (t : Running κ π) (rest : List (Running κ π))
      (perm : w.running.Perm (t :: rest)) (sub : rest.Sublist w.running) :
      Moved w move ⟨w.committed, rest⟩

theorem perm_eraseIdx {α : Type} {xs : List α} {i : Nat} {x : α} (h : xs[i]? = some x) :
    xs.Perm (x :: xs.eraseIdx i) := by
  obtain ⟨hi, rfl⟩ := List.getElem?_eq_some_iff.1 h
  exact (List.getElem_cons_eraseIdx_perm hi).symm

theorem step_moved [DecidableEq ℓ] {w w' : Shared σ κ π} {m : Move κ}
    (h : S.step w m = .ok w') : S.Moved w m w' := by
  cases m with
  | start call =>
    simp only [step] at h
    split at h
    · cases h
    · rename_i hfree
      split at h
      · cases h
      · rename_i plan hreads
        obtain rfl := Except.ok.inj h
        exact .start call plan (fun t ht hc => hfree ⟨t, ht, hc⟩) hreads
  | commit place =>
    simp only [step] at h
    split at h
    · cases h
    · rename_i t hget
      split at h
      · obtain rfl := Except.ok.inj h
        exact .finish _ t _ (perm_eraseIdx hget) (List.eraseIdx_sublist ..)
      · rename_i s hwrites
        obtain rfl := Except.ok.inj h
        exact .commit place t _ s (perm_eraseIdx hget) (List.eraseIdx_sublist ..) hwrites
  | rollback place =>
    simp only [step] at h
    split at h
    · cases h
    · rename_i t hget
      obtain rfl := Except.ok.inj h
      exact .finish _ t _ (perm_eraseIdx hget) (List.eraseIdx_sublist ..)

/-! ## Locks -/

/-- No two running transactions hold a common row. -/
def Exclusive (ts : List (Running κ π)) : Prop :=
  ts.Pairwise fun t u => ¬ S.Conflict t.call u.call

/-- Locks keep running transactions apart. -/
theorem Exclusive.step [DecidableEq ℓ] {w w' : Shared σ κ π} {m : Move κ}
    (h : S.Exclusive w.running) (hstep : S.step w m = .ok w') : S.Exclusive w'.running := by
  cases S.step_moved hstep with
  | start call plan hfree hreads =>
    unfold Exclusive at h ⊢
    rw [List.pairwise_append]
    refine ⟨h, List.pairwise_singleton _ _, ?_⟩
    intro t ht u hu
    rw [List.mem_singleton.1 hu]
    exact hfree t ht
  | commit place t rest s hperm hsub hwrites => exact List.Pairwise.sublist hsub h
  | finish m t rest hperm hsub => exact List.Pairwise.sublist hsub h

theorem Conflict.symm {c d : κ} (h : S.Conflict c d) : S.Conflict d c := by
  obtain ⟨row, hc, hd⟩ := h
  exact ⟨row, hd, hc⟩

/-- A running transaction is apart from each of the others. -/
theorem Exclusive.of_perm {ts rest : List (Running κ π)} {t : Running κ π} (h : S.Exclusive ts)
    (hperm : ts.Perm (t :: rest)) : ∀ u ∈ rest, ¬ S.Conflict t.call u.call := by
  have hpair := hperm.pairwise h (fun hn hc => hn (Conflict.symm S hc))
  intro u hu
  exact (List.pairwise_cons.1 hpair).1 u hu

/-! ## Reservations -/

/-- What the running transactions together reserve. -/
def reserved (amount : Running κ π → Int) (ts : List (Running κ π)) : Int := (ts.map amount).sum

theorem reserved_append (amount : Running κ π → Int) (ts us : List (Running κ π)) :
    reserved amount (ts ++ us) = reserved amount ts + reserved amount us := by
  simp [reserved]

theorem reserved_perm {amount : Running κ π → Int} {ts rest : List (Running κ π)} {t : Running κ π}
    (h : ts.Perm (t :: rest)) : reserved amount ts = amount t + reserved amount rest := by
  rw [reserved, (h.map amount).sum_eq, List.map_cons, List.sum_cons, reserved]

theorem reserved_nonneg {amount : Running κ π → Int} {ts : List (Running κ π)}
    (h : ∀ t ∈ ts, 0 ≤ amount t) : 0 ≤ reserved amount ts := by
  apply List.sum_nonneg
  intro x hx
  obtain ⟨t, ht, rfl⟩ := List.mem_map.1 hx
  exact h t ht

/-! ## Transactions that run alone -/

/-- A transaction that commits right after its reads does what its two halves do one after the
other. -/
theorem alone [DecidableEq ℓ] {s s' : σ} {call : κ} {plan : π} (hreads : S.reads s call = .ok plan)
    (hwrites : S.writes s call plan = .ok s') :
    runCalls S.step ⟨s, []⟩ [.start call, .commit 0] = ⟨s', []⟩ := by
  have hstart : S.step ⟨s, []⟩ (.start call) = .ok ⟨s, [⟨call, plan⟩]⟩ := by
    simp [step, hreads]
  have hcommit : S.step ⟨s, [⟨call, plan⟩]⟩ (.commit 0) = .ok ⟨s', []⟩ := by
    simp [step, hwrites]
  rw [runCalls_cons, afterCall_ok hstart, runCalls_cons, afterCall_ok hcommit, runCalls_nil]

end Split

end LiveOs.Lib
