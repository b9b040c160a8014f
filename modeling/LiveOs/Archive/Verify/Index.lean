import LiveOs.Archive.Verify.Tampering
import LiveOs.Lib.Ranges

/-!
# The index of an archive

The items of a run are numbered from a fixed base for each kind of record, and the number is the
only part of an item's id that tells the items of a snapshot apart.
-/

namespace LiveOs.Archive

open Lib EventLedger Planning Roles

variable {lib : Libraries} {s s' : ArchiveState} {snapshotId : String} {run : RunRow}
  {records : RunRecords}

/-! ## Ids -/

theorem padded_toList (width n : Nat) : (padded width n).toList =
    List.replicate (width - (toString n).length) '0' ++ Nat.toDigits 10 n := by
  simp [padded, Nat.toList_repr]

theorem padded_injective (width : Nat) : Function.Injective (padded width) := by
  intro m n h
  have hvalue : ∀ k, Nat.ofDigitChars 10 (padded width k).toList 0 = k := by
    intro k
    rw [padded_toList, Nat.ofDigitChars_append, Nat.ofDigitChars_replicate_zero, Nat.mul_zero,
      Nat.ofDigitChars_ten_toDigits]
  rw [← hvalue m, h, hvalue n]

theorem dash_notMem_padded (width n : Nat) : '-' ∉ (padded width n).toList := by
  rw [padded_toList, List.mem_append]
  rintro (h | h)
  · exact absurd (List.eq_of_mem_replicate h) (by decide)
  · exact absurd (Nat.isDigit_of_mem_toDigits (by decide) (by decide) h) (by decide)

/-- The id of the item with a number. -/
def itemId (snapshotId : String) (n : Nat) : String := snapshotId ++ "-item-" ++ padded 6 n

theorem itemId_inj {a b : String} {m n : Nat} (h : itemId a m = itemId b n) : a = b ∧ m = n := by
  have hlist : ∀ (a : String) (n : Nat), (itemId a n).toList =
      (a.toList ++ "-item".toList) ++ '-' :: (padded 6 n).toList := by
    intro a n
    simp [itemId]
  have htexts := congrArg String.toList h
  rw [hlist, hlist] at htexts
  obtain ⟨hhead, htail⟩ := append_separator_inj (dash_notMem_padded 6 m) (dash_notMem_padded 6 n)
    htexts
  exact ⟨String.toList_inj.1 (List.append_cancel_right hhead),
    padded_injective 6 (String.toList_inj.1 htail)⟩

/-! ## Numbers -/

/-- The kinds of records with their bases and counts. -/
def kindsOf (records : RunRecords) : List (Nat × Nat) := [
  (0, 1),
  (100, records.nodeStates.length),
  (1000, records.turns.length),
  (2000, records.failures.length),
  (3000, records.events.length),
  (4000, records.proposals.length),
  (5000, (records.changeSets.flatMap changeSetFields).length)]

theorem map_itemId_numbered : ∀ {base : Nat} {fields : List ItemFields},
    (numbered snapshotId base fields).map SnapshotItem.itemId =
      (numbersOf (base, fields.length)).map (itemId snapshotId)
  | base, [] => rfl
  | base, f :: fields => by
    have hrest := @map_itemId_numbered (base + 1) fields
    rw [numbered, List.map_cons, hrest]
    rfl

/-- The ids of the items are the ids with the numbers of the kinds. -/
theorem map_itemId_normalizedItems :
    (normalizedItems snapshotId run records).map SnapshotItem.itemId =
      ((kindsOf records).flatMap numbersOf).map (itemId snapshotId) := by
  simp only [normalizedItems, kindsOf, List.map_append, map_itemId_numbered, List.length_map,
    List.flatMap_cons, List.flatMap_nil, List.append_nil, List.append_assoc]
  rfl

theorem kindsOf_bases : (kindsOf records).Pairwise (·.1 < ·.1) := by
  simp [kindsOf]

/-- **Ids of an index.** They are distinct exactly when the kinds are apart. -/
theorem nodup_itemIds_iff :
    ((normalizedItems snapshotId run records).map SnapshotItem.itemId).Nodup ↔
      Apart (kindsOf records) := by
  rw [map_itemId_normalizedItems, List.nodup_map_iff (fun _ _ h => (itemId_inj h).2),
    nodup_numbers_iff kindsOf_bases]

/-! ## Creation -/

theorem bulkCreate_rows {items items' : ItemTable} {new : List SnapshotItem}
    (h : bulkCreate items new = .ok items') :
    items'.rows = items.rows ++ new ∧ (new.map SnapshotItem.itemId).Nodup := by
  induction new generalizing items with
  | nil =>
    obtain rfl := pure_eq_ok.1 h
    exact ⟨(List.append_nil _).symm, List.nodup_nil⟩
  | cons row new ih =>
    obtain ⟨items₁, hrow, hrest⟩ := bind_eq_ok.1 h
    obtain ⟨hrows, hnodup⟩ := ih hrest
    obtain ⟨hrows₁, -, -⟩ := Table.insert_ok hrow
    refine ⟨by rw [hrows, hrows₁, List.append_assoc, List.singleton_append], ?_⟩
    refine List.nodup_cons.2 ⟨?_, hnodup⟩
    intro hmem
    -- the row stands before the new ones, which have ids of their own
    have hunique := items'.pkUnique
    rw [hrows, hrows₁, List.map_append, List.nodup_append] at hunique
    refine hunique.2.2 row.itemId ?_ row.itemId hmem rfl
    rw [List.map_append]
    exact List.mem_append_right _ List.mem_cons_self

theorem bulkCreate_of_fresh {items : ItemTable} {new : List SnapshotItem}
    (hnodup : (new.map SnapshotItem.itemId).Nodup)
    (hfresh : ∀ row ∈ new, ∀ old ∈ items.rows, old.itemId ≠ row.itemId) :
    ∃ items', bulkCreate items new = .ok items' := by
  induction new generalizing items with
  | nil => exact ⟨items, rfl⟩
  | cons row new ih =>
    obtain ⟨hrow, hnew⟩ := List.nodup_cons.1 hnodup
    obtain ⟨items₁, hinsert, hrows⟩ := @Table.insert_of_fresh _ _ _ _ _ _ _ _ items row
      Error.integrity (hfresh row List.mem_cons_self) (fun _ h => by cases h)
    obtain ⟨items', hitems⟩ := @ih items₁ hnew (by
      intro row' hrow' old hold
      rw [hrows, List.mem_append, List.mem_singleton] at hold
      rcases hold with hold | rfl
      · exact hfresh row' (List.mem_cons_of_mem _ hrow') old hold
      · exact fun h => hrow (List.mem_map.2 ⟨row', hrow', h.symm⟩))
    refine ⟨items', ?_⟩
    rw [bulkCreate, List.foldlM_cons, hinsert]
    exact hitems

/-! ## The items of other snapshots -/

/-- Every item belongs to a snapshot and has an id of it. -/
def Owned (s : ArchiveState) : Prop := ∀ row ∈ s.items.rows,
  (∃ p ∈ s.snapshots.rows, p.snapshotId = row.snapshot) ∧ ∃ n, row.itemId = itemId row.snapshot n

theorem mem_numbered {base : Nat} {fields : List ItemFields} {row : SnapshotItem}
    (h : row ∈ numbered snapshotId base fields) : ∃ n f, row = item snapshotId n f := by
  induction fields generalizing base with
  | nil => cases h
  | cons f fields ih =>
    rcases List.mem_cons.1 h with rfl | h
    · exact ⟨base + 1, f, rfl⟩
    · exact ih h

theorem mem_normalizedItems {row : SnapshotItem}
    (h : row ∈ normalizedItems snapshotId run records) : ∃ n f, row = item snapshotId n f := by
  simp only [normalizedItems, List.mem_append, List.mem_singleton] at h
  rcases h with (((((rfl | h) | h) | h) | h) | h) | h
  · exact ⟨_, _, rfl⟩
  all_goals exact mem_numbered h

theorem archiveStep_owned {c : WorldCall} (h : Owned s) (hstep : archiveStep lib s c = .ok s') :
    Owned s' := by
  obtain ⟨env, world, call⟩ := c
  cases call with
  | discard run reason decidedBy =>
    obtain ⟨r, hcall, hrest⟩ := bind_eq_ok.1 hstep
    obtain rfl := pure_eq_ok.1 hrest
    obtain ⟨-, hcall⟩ := rejectIf_bind_eq_ok.1 hcall
    obtain ⟨-, hcall⟩ := rejectIf_bind_eq_ok.1 hcall
    obtain ⟨hsnapshots, hitems, -, -⟩ := recordDisposition_frame hcall
    intro row hrow
    rw [hitems] at hrow
    rw [hsnapshots]
    exact h row hrow
  | archive runId args =>
    obtain ⟨r, hcall, hrest⟩ := bind_eq_ok.1 hstep
    obtain rfl := pure_eq_ok.1 hrest
    by_cases hcreated : r.2.created = true
    · obtain ⟨run, snapshotId, -, harchived⟩ := archived_of_created hcall hcreated
      have hid : r.2.snapshot.snapshotId = snapshotId := by
        rw [harchived.snapshot]
        rfl
      intro row hrow
      rw [(bulkCreate_rows harchived.items).1, List.mem_append] at hrow
      rw [harchived.snapshots]
      rcases hrow with hrow | hrow
      · obtain ⟨⟨p, hp, hsnapshot⟩, n, hn⟩ := h row hrow
        exact ⟨⟨p, List.mem_append_left _ hp, hsnapshot⟩, n, hn⟩
      · obtain ⟨n, f, rfl⟩ := mem_normalizedItems hrow
        exact ⟨⟨_, List.mem_append_right _ (List.mem_singleton_self _), hid⟩, n, rfl⟩
    · obtain ⟨run, rfl, -, heffect⟩ := archiveSimulationRun_effect hcall
      cases heffect with
      | written => exact absurd rfl hcreated
      | kept hp hrecord =>
        obtain ⟨hsnapshots, hitems, -, -⟩ := recordDisposition_frame hrecord
        intro row hrow
        rw [hitems] at hrow
        rw [hsnapshots]
        exact h row hrow

theorem runCalls_owned (h : s.items.rows = []) (cs : List WorldCall) :
    Owned (runCalls (archiveStep lib) s cs) := by
  refine runCalls_invariant (fun _ _ _ h hstep => archiveStep_owned h hstep) ?_ cs
  intro row hrow
  rw [h] at hrow
  cases hrow

/-- Items of a new snapshot have new ids. -/
theorem Owned.fresh (h : Owned s) (hfree : s.snapshots.get? snapshotId = none)
    {row : SnapshotItem} (hrow : row ∈ normalizedItems snapshotId run records)
    {old : SnapshotItem} (hold : old ∈ s.items.rows) : old.itemId ≠ row.itemId := by
  obtain ⟨n, f, rfl⟩ := mem_normalizedItems hrow
  obtain ⟨⟨p, hp, hsnapshot⟩, m, hm⟩ := h old hold
  intro heq
  obtain ⟨hsame, -⟩ := itemId_inj (hm.symm.trans heq)
  exact Table.get?_eq_none.1 hfree p hp (hsnapshot.trans hsame)

end LiveOs.Archive
