import Mathlib.Algebra.GroupWithZero.Nat
import Mathlib.Data.List.Basic
import Mathlib.Order.Lattice

/-!
# Windows of time

A window of a linear order begins at an instant and ends before another one, or stays open. Of two
windows with an instant in common, the one that begins first contains the beginning of the other.
-/

namespace LiveOs.Lib

/-- The instants from `start` on, up to `stop` if there is one. -/
structure Window (α : Type) where
  start : α
  stop : Option α

namespace Window

variable {α : Type} [LinearOrder α] {u v : Window α} {t : α}

/-- The instant lies in the window. -/
def Contains (w : Window α) (t : α) : Prop := w.start ≤ t ∧ ∀ e ∈ w.stop, t < e

/-- The window ends after it begins. -/
def Proper (w : Window α) : Prop := ∀ e ∈ w.stop, w.start < e

/-- The window is over at the instant. -/
def Over (w : Window α) (t : α) : Prop := ∃ e ∈ w.stop, e ≤ t

/-- No instant lies in both windows. -/
def Apart (u v : Window α) : Prop := ∀ t, u.Contains t → ¬ v.Contains t

instance (w : Window α) (t : α) : Decidable (w.Over t) :=
  inferInstanceAs (Decidable (∃ e ∈ w.stop, e ≤ t))

theorem contains_start (h : u.Proper) : u.Contains u.start := ⟨le_refl _, h⟩

theorem not_over_iff : ¬ u.Over t ↔ ∀ e ∈ u.stop, t < e := by
  simp only [Over, not_exists, not_and, not_le]

theorem contains_iff : u.Contains t ↔ u.start ≤ t ∧ ¬ u.Over t := by
  rw [not_over_iff]
  exact Iff.rfl

theorem Over.not_contains (h : u.Over t) : ¬ u.Contains t := fun hu => (contains_iff.1 hu).2 h

theorem Over.mono {t' : α} (h : u.Over t) (hle : t ≤ t') : u.Over t' := by
  obtain ⟨e, he, het⟩ := h
  exact ⟨e, he, het.trans hle⟩

theorem Apart.symm (h : u.Apart v) : v.Apart u := fun t hv hu => h t hu hv

/-- Windows are apart if the first one is over when the second one begins. -/
theorem Over.apart (h : u.Over v.start) : u.Apart v :=
  fun _ hu hv => (h.mono hv.1).not_contains hu

/-- A window that does not begin later is apart from a proper one exactly if it is over by then. -/
theorem apart_iff_over (hle : u.start ≤ v.start) (hv : v.Proper) : u.Apart v ↔ u.Over v.start := by
  refine ⟨fun h => ?_, Over.apart⟩
  by_contra hover
  exact h v.start (contains_iff.2 ⟨hle, hover⟩) (contains_start hv)

end Window

/-! ## Work taken in windows

A stretch of hours is taken in consecutive windows. An item opens at an hour and is due at a later
one. In every window that has seen it open it is handled at its due hour, or at the last hour of the
window when it is due after that. Over the windows it is handled once, at its due hour, exactly when
no window ends between the two hours. -/

/-- An item; one that is not clipped keeps its due hour in every window. -/
structure TimedItem where
  opens : Nat
  due : Nat
  clipped : Bool

/-- The ends of consecutive windows from an hour on. -/
def windowEnds : Nat → List Nat → List Nat
  | _, [] => []
  | start, hours :: rest => (start + hours) :: windowEnds (start + hours) rest

theorem lt_of_mem_windowEnds : ∀ {start : Nat} {windows : List Nat} {stop : Nat},
    stop ∈ windowEnds start windows → start ≤ stop
  | start, hours :: rest, stop, h => by
    rcases List.mem_cons.1 h with rfl | h
    · exact Nat.le_add_right _ _
    · have := lt_of_mem_windowEnds h
      omega

namespace TimedItem

variable (x : TimedItem)

/-- The item is known in a window that ends at the given hour. -/
def Known (stop : Nat) : Prop := x.clipped = true → x.opens < stop

/-- The hour at which a window that ends at the given hour handles the item. -/
def handledAt (stop : Nat) : Nat := if x.clipped then min x.due (stop - 1) else x.due

instance (stop : Nat) : Decidable (x.Known stop) := inferInstanceAs (Decidable (_ → _))

/-- The hours at which consecutive windows handle the item. -/
def hoursHandled : Nat → List Nat → List Nat
  | _, [] => []
  | start, hours :: rest =>
    (if x.Known (start + hours) ∧ start ≤ x.handledAt (start + hours) ∧
        x.handledAt (start + hours) < start + hours then [x.handledAt (start + hours)] else []) ++
      hoursHandled (start + hours) rest

variable {x}

theorem handledAt_le (stop : Nat) : x.handledAt stop ≤ x.due := by
  unfold handledAt
  split
  · exact Nat.min_le_left _ _
  · exact Nat.le_refl _

theorem opens_le_handledAt (hopen : x.opens ≤ x.due) {stop : Nat} (h : x.Known stop) :
    x.opens ≤ x.handledAt stop := by
  unfold handledAt
  split
  · rename_i hx
    have := h hx
    omega
  · exact hopen

theorem hoursHandled_past : ∀ {start : Nat} {windows : List Nat}, x.due < start →
    x.hoursHandled start windows = []
  | _, [], _ => rfl
  | start, hours :: rest, h => by
    have hle := handledAt_le (x := x) (start + hours)
    unfold hoursHandled
    rw [if_neg (by omega), List.nil_append]
    exact hoursHandled_past (by omega)

theorem hoursHandled_unclipped (hx : x.clipped = false) : ∀ {start : Nat} {windows : List Nat},
    start ≤ x.due → x.due < start + windows.sum → x.hoursHandled start windows = [x.due]
  | start, [], hge, hlt => by
    rw [List.sum_nil] at hlt
    omega
  | start, hours :: rest, hge, hlt => by
    rw [List.sum_cons] at hlt
    have hknown : x.Known (start + hours) := fun h => absurd h (by simp [hx])
    have hat : x.handledAt (start + hours) = x.due := by simp [handledAt, hx]
    unfold hoursHandled
    rw [hat]
    by_cases hin : x.due < start + hours
    · rw [if_pos ⟨hknown, hge, hin⟩, hoursHandled_past hin, List.append_nil]
    · rw [if_neg (by omega), List.nil_append]
      exact hoursHandled_unclipped hx (by omega) (by omega)

/-- An item that opened before and is still due is handled again. -/
theorem hoursHandled_again (hx : x.clipped = true) {start : Nat} : ∀ {windows : List Nat},
    (∀ hours ∈ windows, 0 < hours) → x.opens < start → start ≤ x.due →
      x.due < start + windows.sum → x.hoursHandled start windows ≠ []
  | [], _, _, hge, hlt => by
    rw [List.sum_nil] at hlt
    omega
  | hours :: rest, hpos, hopen, hge, hlt => by
    have hhours := hpos hours List.mem_cons_self
    have hat : x.handledAt (start + hours) = min x.due (start + hours - 1) := by
      simp [handledAt, hx]
    unfold hoursHandled
    rw [if_pos ⟨fun _ => by omega, by omega, by omega⟩]
    exact List.cons_ne_nil _ _

/-- **Windows compose exactly around the cuts.** -/
theorem hoursHandled_eq_iff (hx : x.clipped = true) (hopen : x.opens ≤ x.due) :
    ∀ {start : Nat} {windows : List Nat}, (∀ hours ∈ windows, 0 < hours) → start ≤ x.opens →
      x.due < start + windows.sum →
      (x.hoursHandled start windows = [x.due] ↔
        ∀ stop ∈ windowEnds start windows, ¬ (x.opens < stop ∧ stop ≤ x.due))
  | start, [], _, hge, hlt => by
    rw [List.sum_nil] at hlt
    omega
  | start, hours :: rest, hpos, hge, hlt => by
    rw [List.sum_cons] at hlt
    have hhours := hpos hours List.mem_cons_self
    have hrest : ∀ h ∈ rest, 0 < h := fun h hm => hpos h (List.mem_cons_of_mem _ hm)
    have hat : x.handledAt (start + hours) = min x.due (start + hours - 1) := by
      simp [handledAt, hx]
    unfold hoursHandled windowEnds
    by_cases hbefore : start + hours ≤ x.opens
    · -- the window ends before the item opens
      have hunknown : ¬ x.Known (start + hours) := fun h => by
        have := h hx
        omega
      rw [if_neg (fun h => hunknown h.1), List.nil_append,
        hoursHandled_eq_iff hx hopen hrest hbefore (by omega), List.forall_mem_cons]
      constructor
      · exact fun h => ⟨by omega, h⟩
      · exact fun h => h.2
    · rw [if_pos ⟨fun _ => by omega, by omega, by omega⟩, hat]
      by_cases hin : x.due < start + hours
      · rw [hoursHandled_past hin, List.append_nil]
        refine ⟨fun _ stop hstop => ?_, fun _ => ?_⟩
        · have hlate : start + hours ≤ stop := by
            rcases List.mem_cons.1 hstop with rfl | hstop
            · exact Nat.le_refl _
            · exact lt_of_mem_windowEnds hstop
          omega
        · rw [Nat.min_eq_left (by omega)]
      · -- the window ends between the two hours, and the next one handles the item again
        have hagain : x.hoursHandled (start + hours) rest ≠ [] :=
          hoursHandled_again hx hrest (by omega) (by omega) (by omega)
        constructor
        · intro h
          exact absurd (List.cons.inj h).2 hagain
        · intro h
          exact absurd ⟨by omega, by omega⟩ (h (start + hours) List.mem_cons_self)

end TimedItem

end LiveOs.Lib
