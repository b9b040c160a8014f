import LiveOs.Lib.JsonText

/-!
# Canonical texts of documents

`canonicalText` sorts the members of every dict. Read on documents that were loaded from JSON it
never fails and it determines the document up to the order of members
(`same_of_canonicalText`). Read on a Python value before it is stored, it is the text of the
stored document exactly when sorting by Python keys and sorting by key texts agree: `KeysStable`
says so, and `canonicalText_stored` is the round trip.
-/

namespace LiveOs.Lib

/-! ## Loaded documents -/

/-- The members of an object by key text. -/
def Json.byKey (es : List (String × Json)) : List (String × Json) :=
  es.insertionSort fun a b => a.1 ≤ b.1

theorem Json.byKey_perm (es : List (String × Json)) : (Json.byKey es).Perm es :=
  es.perm_insertionSort _

theorem allStrKeys_map_str {α β : Type} (es : List (String × α)) (f : String × α → β) :
    allStrKeys (es.map fun e => (PyKey.str e.1, f e)) = true := by
  simp [allStrKeys]

/-- Sorting a dict with string keys is sorting by text. -/
theorem sortItems_map_str {β : Type} (es : List (String × Json)) (f : Json → β) :
    sortItems (es.map fun e => (PyKey.str e.1, f e.2)) =
      (Json.byKey es).map fun e => (PyKey.str e.1, f e.2) := by
  refine (List.map_insertionSort _ _ _ es ?_).symm
  intro a _ b _
  simp [keyLe]

theorem Json.canonical_toPy (j : Json) : j.toPy.canonical = true := by
  induction j with
  | scalar s => rfl
  | str s => rfl
  | arr xs ih => simpa [toPy, PyVal.canonical] using ih
  | obj es ih =>
    have hs : sortableKeys (es.map fun e => (PyKey.str e.1, e.2.toPy)) = true := by
      rw [sortableKeys, allStrKeys_map_str, Bool.or_true, Bool.true_or]
    simp only [toPy, PyVal.canonical, toPy_entries, hs, Bool.true_and,
      PyVal.canonical_entries, List.all_map, List.all_eq_true, Function.comp_apply,
      PyKey.encodable]
    exact ih

theorem Json.dumpable_toPy (j : Json) : j.toPy.dumpable = true := by
  induction j with
  | scalar s => rfl
  | str s => rfl
  | arr xs ih => simpa [toPy, PyVal.dumpable] using ih
  | obj es ih =>
    simp only [toPy, PyVal.dumpable, toPy_entries, PyVal.dumpable_entries, List.all_map,
      List.all_eq_true, Function.comp_apply, PyKey.encodable, Bool.true_and]
    exact ih

/-- The canonical tree of a loaded document: every object sorted by key text. -/
theorem Json.canonicalTree_toPy_obj (es : List (String × Json)) :
    (Json.obj es).toPy.canonicalTree =
      .obj ((byKey es).map fun e => (e.1, e.2.toPy.canonicalTree)) := by
  simp only [toPy, PyVal.canonicalTree, toPy_entries, PyVal.canonicalTree_entries, List.map_map]
  rw [show ((fun e : PyKey × PyVal => (e.1, e.2.canonicalTree)) ∘
      fun e : String × Json => (PyKey.str e.1, e.2.toPy)) =
    fun e : String × Json => (PyKey.str e.1, e.2.toPy.canonicalTree) from rfl,
    sortItems_map_str es fun v => v.toPy.canonicalTree, List.map_map]
  rfl

/-- Documents with one canonical tree are the same value. -/
theorem Json.same_of_canonicalTree (a : Json) : ∀ b : Json,
    a.toPy.canonicalTree = b.toPy.canonicalTree → Same a b := by
  induction a with
  | scalar s =>
    intro b h
    cases b with
    | scalar t =>
      simp only [toPy, PyVal.canonicalTree, Json.scalar.injEq] at h
      rw [h]
      exact .scalar t
    | str t => simp [toPy, PyVal.canonicalTree] at h
    | arr ys => simp [toPy, PyVal.canonicalTree] at h
    | obj fs => simp [toPy, PyVal.canonicalTree] at h
  | str s =>
    intro b h
    cases b with
    | scalar t => simp [toPy, PyVal.canonicalTree] at h
    | str t =>
      simp only [toPy, PyVal.canonicalTree, Json.str.injEq] at h
      rw [h]
      exact .str t
    | arr ys => simp [toPy, PyVal.canonicalTree] at h
    | obj fs => simp [toPy, PyVal.canonicalTree] at h
  | arr xs ih =>
    intro b h
    cases b with
    | scalar t => simp [toPy, PyVal.canonicalTree] at h
    | str t => simp [toPy, PyVal.canonicalTree] at h
    | arr ys =>
      simp only [toPy, PyVal.canonicalTree, toPy_items, PyVal.canonicalTree_items, List.map_map,
        Json.arr.injEq] at h
      exact .arr (forall₂_of_map_eq ih h)
    | obj fs => simp [toPy, PyVal.canonicalTree] at h
  | obj es ih =>
    intro b h
    cases b with
    | scalar t => simp [toPy, PyVal.canonicalTree] at h
    | str t => simp [toPy, PyVal.canonicalTree] at h
    | arr ys => simp [toPy, PyVal.canonicalTree] at h
    | obj fs =>
      rw [canonicalTree_toPy_obj, canonicalTree_toPy_obj, Json.obj.injEq] at h
      have hk := congrArg (List.map Prod.fst) h
      have hv := congrArg (List.map Prod.snd) h
      simp only [List.map_map, Function.comp_def] at hk hv
      refine .obj (byKey_perm es).symm (byKey_perm fs).symm hk
        (forall₂_of_map_eq (f := fun j => j.toPy.canonicalTree) ?_ ?_)
      · intro v hv
        obtain ⟨e, he, rfl⟩ := List.mem_map.1 hv
        exact ih e ((byKey_perm es).mem_iff.1 he)
      · simpa only [List.map_map, Function.comp_def] using hv
where
  /-- Lists with equal images are related item by item, when equal images relate members. -/
  forall₂_of_map_eq {f : Json → Json} : ∀ {xs ys : List Json},
      (∀ x ∈ xs, ∀ y, f x = f y → Same x y) → xs.map f = ys.map f → List.Forall₂ Same xs ys
    | [], [], _, _ => .nil
    | x :: xs, y :: ys, hx, h => by
      obtain ⟨h₁, h₂⟩ := List.cons.inj h
      exact .cons (hx x List.mem_cons_self y h₁)
        (forall₂_of_map_eq (fun z hz => hx z (List.mem_cons_of_mem _ hz)) h₂)

/-- Same objects have the same values under the same keys. -/
theorem Json.Same.member {es fs : List (String × Json)} (h : Same (.obj es) (.obj fs))
    (hnd : (fs.map Prod.fst).Nodup) {k : String} {v w : Json} (hv : (k, v) ∈ es)
    (hw : (k, w) ∈ fs) : Same v w := by
  cases h with
  | @obj _ es' _ fs' he hf hk hvals =>
    obtain ⟨i, hi, hget⟩ := List.getElem_of_mem (he.mem_iff.1 hv)
    have hlen : es'.length = fs'.length := by
      simpa only [List.length_map] using congrArg List.length hk
    have hi' : i < fs'.length := hlen ▸ hi
    -- the member of the other object at the same place has the same key, hence is `(k, w)`
    have hkey : fs'[i].1 = k := by
      have e := List.getElem_of_eq hk (i := i) (by simpa using hi)
      rw [List.getElem_map, List.getElem_map, hget] at e
      exact e.symm
    have hmem : fs'[i] ∈ fs := hf.mem_iff.2 (List.getElem_mem hi')
    have hfs : fs'[i] = (k, w) := List.inj_on_of_nodup_map hnd hmem hw hkey
    have hsame := hvals.get (i := i) (by simpa using hi) (by simpa using hi')
    simpa only [List.get_eq_getElem, List.getElem_map, hget, hfs] using hsame

theorem Json.Same.keys {es fs : List (String × Json)} (h : Same (.obj es) (.obj fs)) {k : String} :
    k ∈ es.map Prod.fst ↔ k ∈ fs.map Prod.fst := by
  cases h with
  | obj he hf hk _ => rw [(he.map Prod.fst).mem_iff, (hf.map Prod.fst).mem_iff, hk]

/-- The canonical text of a loaded document. -/
theorem canonicalText_toPy (j : Json) :
    canonicalText j.toPy = some (String.ofList j.toPy.canonicalTree.text) := by
  rw [canonicalText, j.canonical_toPy, if_pos rfl]

theorem ofList_text_inj {a b : Json} (h : String.ofList a.text = String.ofList b.text) : a = b :=
  Json.text_injective (String.ofList_injective h)

/-- **Canonical texts bind.** Loaded documents with one canonical text are the same value. -/
theorem same_of_canonicalText {a b : Json}
    (h : canonicalText a.toPy = canonicalText b.toPy) : Json.Same a b := by
  rw [canonicalText_toPy, canonicalText_toPy] at h
  exact Json.same_of_canonicalTree a b (ofList_text_inj (Option.some.inj h))

/-! ## Repeated keys -/

/-- The entries whose key does not come again. -/
def lastOnly {α κ : Type} [DecidableEq κ] (key : α → κ) : List α → List α
  | [] => []
  | e :: es => if es.any (fun f => key f = key e) then lastOnly key es else e :: lastOnly key es

theorem lastOnly_map {α β κ : Type} [DecidableEq κ] (key : β → κ) (f : α → β) (es : List α) :
    lastOnly key (es.map f) = (lastOnly (key ∘ f) es).map f := by
  induction es with
  | nil => rfl
  | cons e es ih =>
    simp only [List.map_cons, lastOnly, List.any_map, ih, Function.comp_def]
    split <;> rfl

theorem mem_of_mem_lastOnly {α κ : Type} [DecidableEq κ] {key : α → κ} {e : α} {es : List α}
    (h : e ∈ lastOnly key es) : e ∈ es := by
  induction es with
  | nil => cases h
  | cons f es ih =>
    rw [lastOnly] at h
    split at h
    · exact List.mem_cons_of_mem _ (ih h)
    · rcases List.mem_cons.1 h with rfl | h
      · exact List.mem_cons_self
      · exact List.mem_cons_of_mem _ (ih h)

theorem Json.mem_upsert {es : List (String × Json)} {e x : String × Json}
    (h : (es.map Prod.fst).Nodup) : x ∈ upsert es e ↔ x = e ∨ (x ∈ es ∧ x.1 ≠ e.1) := by
  induction es with
  | nil => simp [upsert]
  | cons f es ih =>
    obtain ⟨hf, hes⟩ := List.nodup_cons.1 h
    rw [upsert]
    split
    · rename_i heq
      have hfe : (f.1, e.2) = e := Prod.ext heq rfl
      have hne : x ∈ es → x.1 ≠ e.1 := by
        intro hx hxe
        exact hf (List.mem_map.2 ⟨x, hx, by rw [hxe, heq]⟩)
      rw [hfe, List.mem_cons, List.mem_cons]
      constructor
      · rintro (rfl | hx)
        · exact .inl rfl
        · exact .inr ⟨.inr hx, hne hx⟩
      · rintro (rfl | ⟨rfl | hx, hxe⟩)
        · exact .inl rfl
        · exact absurd heq hxe
        · exact .inr hx
    · rename_i hne
      rw [List.mem_cons, ih hes, List.mem_cons]
      constructor
      · rintro (rfl | rfl | ⟨hx, hxe⟩)
        · exact .inr ⟨.inl rfl, hne⟩
        · exact .inl rfl
        · exact .inr ⟨.inr hx, hxe⟩
      · rintro (rfl | ⟨rfl | hx, hxe⟩)
        · exact .inr (.inl rfl)
        · exact .inl rfl
        · exact .inr (.inr ⟨hx, hxe⟩)

theorem Json.nodup_upsert {es : List (String × Json)} {e : String × Json}
    (h : (es.map Prod.fst).Nodup) : ((upsert es e).map Prod.fst).Nodup := by
  induction es with
  | nil => simp [upsert]
  | cons f es ih =>
    obtain ⟨hf, hes⟩ := List.nodup_cons.1 h
    rw [upsert]
    split
    · exact List.nodup_cons.2 ⟨hf, hes⟩
    · rename_i hne
      refine List.nodup_cons.2 ⟨fun hmem => ?_, ih hes⟩
      obtain ⟨x, hx, hxf⟩ := List.mem_map.1 hmem
      rcases (mem_upsert hes).1 hx with rfl | ⟨hx, -⟩
      · exact hne hxf.symm
      · exact hf (List.mem_map.2 ⟨x, hx, hxf⟩)

/-- Reading an object keeps, of the members with one key, the last one. -/
theorem Json.mem_ofPairs {es : List (String × Json)} {x : String × Json} :
    x ∈ ofPairs es ↔ x ∈ lastOnly Prod.fst es := by
  suffices go : ∀ acc : List (String × Json), (acc.map Prod.fst).Nodup →
      (x ∈ es.foldl upsert acc ↔ x ∈ lastOnly Prod.fst es ∨ (x ∈ acc ∧ ∀ e ∈ es, e.1 ≠ x.1)) by
    rw [ofPairs]
    simpa using go [] List.nodup_nil
  induction es with
  | nil => intro acc _; simp [lastOnly]
  | cons e es ih =>
    intro acc hacc
    rw [List.foldl_cons, ih _ (nodup_upsert hacc), mem_upsert hacc, lastOnly]
    by_cases hany : es.any (fun f => f.1 = e.1) = true
    · rw [if_pos hany]
      obtain ⟨f, hf, hfe⟩ := List.any_eq_true.1 hany
      have hfe : f.1 = e.1 := of_decide_eq_true hfe
      constructor
      · rintro (h | ⟨rfl | ⟨hx, hxe⟩, hlast⟩)
        · exact .inl h
        · exact absurd hfe (hlast f hf)
        · exact .inr ⟨hx, List.forall_mem_cons.2 ⟨Ne.symm hxe, hlast⟩⟩
      · rintro (h | ⟨hx, hlast⟩)
        · exact .inl h
        · obtain ⟨he, hes⟩ := List.forall_mem_cons.1 hlast
          exact .inr ⟨.inr ⟨hx, Ne.symm he⟩, hes⟩
    · rw [if_neg hany]
      have hnone : ∀ f ∈ es, f.1 ≠ e.1 := by
        intro f hf heq
        exact hany (List.any_eq_true.2 ⟨f, hf, decide_eq_true heq⟩)
      constructor
      · rintro (h | ⟨rfl | ⟨hx, hxe⟩, hlast⟩)
        · exact .inl (List.mem_cons_of_mem _ h)
        · exact .inl List.mem_cons_self
        · exact .inr ⟨hx, List.forall_mem_cons.2 ⟨Ne.symm hxe, hlast⟩⟩
      · rintro (h | ⟨hx, hlast⟩)
        · rcases List.mem_cons.1 h with rfl | h
          · exact .inr ⟨.inl rfl, hnone⟩
          · exact .inl h
        · obtain ⟨he, hes⟩ := List.forall_mem_cons.1 hlast
          exact .inr ⟨.inr ⟨hx, Ne.symm he⟩, hes⟩

/-- A word that is no scalar token is the text of the string key only. -/
theorem PyKey.jsonText_eq_word {k : PyKey} {w : String} (hk : k.encodable = true)
    (hfloat : w.toList.all isFloatChar = false) (hint : w.toList.all isIntChar = false)
    (hwords : w ∉ ["null", "true", "false"]) : k.jsonText = w ↔ k = .str w := by
  cases k with
  | str s => simp [jsonText]
  | other t => cases hk
  | scalar s =>
    refine ⟨fun h => ?_, fun h => by cases h⟩
    cases s with
    | none => exact absurd h (by rintro rfl; exact hwords (by decide))
    | bool b =>
      cases b <;> exact absurd h (by rintro rfl; exact hwords (by decide))
    | int i => exact absurd h (Json.int_toString_ne_word i hint)
    | float f => exact absurd h (Json.float_text_ne_word f hfloat)

/-! ## Values before they are stored -/

namespace PyVal

/-- In every dict of the value, the key texts increase strictly along the Python order of the
keys. -/
def keysStable : PyVal → Bool
  | .scalar _ => true
  | .str _ => true
  | .list xs => items xs
  | .tuple xs => items xs
  | .dict es => decide (((sortItems es).map fun e => e.1.jsonText).Pairwise (· < ·)) && entries es
  | .other _ => true
where
  items : List PyVal → Bool
    | [] => true
    | x :: xs => x.keysStable && items xs
  entries : List (PyKey × PyVal) → Bool
    | [] => true
    | e :: es => e.2.keysStable && entries es

@[simp] theorem keysStable_items (xs : List PyVal) :
    keysStable.items xs = xs.all keysStable := by
  induction xs with
  | nil => rfl
  | cons x xs ih => simp [keysStable.items, ih]

@[simp] theorem keysStable_entries (es : List (PyKey × PyVal)) :
    keysStable.entries es = es.all fun e => e.2.keysStable := by
  induction es with
  | nil => rfl
  | cons e es ih => simp [keysStable.entries, ih]

end PyVal

/-- A list of members without a repeated key is read back as it stands. -/
theorem Json.ofPairs_of_nodup {es : List (String × Json)} (h : (es.map Prod.fst).Nodup) :
    ofPairs es = es := by
  suffices go : ∀ acc : List (String × Json), (acc.map Prod.fst ++ es.map Prod.fst).Nodup →
      es.foldl upsert acc = acc ++ es from go [] h
  induction es with
  | nil => intro acc _; simp
  | cons e es ih =>
    intro acc hacc
    have hfresh : ∀ f ∈ acc, f.1 ≠ e.1 := by
      intro f hf heq
      exact (List.nodup_append.1 hacc).2.2 _ (List.mem_map_of_mem hf) _ List.mem_cons_self heq
    have hups : ∀ acc : List (String × Json), (∀ f ∈ acc, f.1 ≠ e.1) →
        upsert acc e = acc ++ [e] := by
      intro acc
      induction acc with
      | nil => intro _; rfl
      | cons f fs ihf =>
        intro hf
        rw [upsert, if_neg (hf f List.mem_cons_self),
          ihf fun g hg => hf g (List.mem_cons_of_mem _ hg)]
        rfl
    rw [List.foldl_cons, hups acc hfresh, ih (List.nodup_cons.1 h).2]
    · simp
    · simpa using hacc

theorem sortItems_perm {α : Type} (es : List (PyKey × α)) : (sortItems es).Perm es :=
  es.perm_insertionSort _

/-- Sorting does not look at the values. -/
theorem sortItems_map {α β : Type} (f : α → β) (es : List (PyKey × α)) :
    sortItems (es.map fun e => (e.1, f e.2)) = (sortItems es).map fun e => (e.1, f e.2) := by
  refine (List.map_insertionSort _ _ _ es ?_).symm
  intro a _ b _
  exact Iff.rfl

/-- Members already in strict order of their keys are what sorting makes of any permutation. -/
theorem Json.byKey_of_perm {es fs : List (String × Json)} (hp : es.Perm fs)
    (hs : (fs.map Prod.fst).Pairwise (· < ·)) : byKey es = fs := by
  have hsorted : (byKey es).Pairwise fun a b => a.1 ≤ b.1 :=
    List.pairwise_insertionSort (r := fun a b : String × Json => a.1 ≤ b.1) es
  have hfs : fs.Pairwise fun a b => a.1 < b.1 := List.pairwise_map.1 hs
  refine List.Perm.eq_of_pairwise ?_ hsorted
    (hfs.imp fun h => le_of_lt h) ((byKey_perm es).trans hp)
  intro a b ha hb hab hba
  have hb' : b ∈ fs := hb
  have ha' : a ∈ fs := ((byKey_perm es).trans hp).mem_iff.1 ha
  have hinj := List.inj_on_of_nodup_map (f := Prod.fst) (l := fs) (hs.imp fun h => ne_of_lt h)
  exact hinj ha' hb' (le_antisymm hab hba)

/-- The keys of a stable dict have distinct texts. -/
theorem PyVal.nodup_of_keysStable {es : List (PyKey × PyVal)}
    (hk : (PyVal.dict es).keysStable = true) : (es.map fun e => e.1.jsonText).Nodup := by
  rw [keysStable, Bool.and_eq_true, decide_eq_true_eq] at hk
  exact (((sortItems_perm es).map _).nodup_iff).1 (hk.1.imp fun h => ne_of_lt h)

/-- A stable dict is stored member by member. -/
theorem PyVal.stored_dict_of_keysStable {es : List (PyKey × PyVal)}
    (hk : (PyVal.dict es).keysStable = true) :
    (PyVal.dict es).stored = .obj (es.map fun e => (e.1.jsonText, e.2.stored)) := by
  rw [stored_dict, Json.ofPairs_of_nodup]
  rw [List.map_map]
  exact nodup_of_keysStable hk

/-- **Stable keys survive storage.** The canonical tree of a value is that of its stored form. -/
theorem PyVal.canonicalTree_stored (v : PyVal) (hd : v.dumpable = true)
    (hk : v.keysStable = true) : v.stored.toPy.canonicalTree = v.canonicalTree := by
  induction v with
  | scalar s => rfl
  | str s => rfl
  | list xs ih =>
    simp only [dumpable, dumpable_items, keysStable, keysStable_items, List.all_eq_true] at hd hk
    simp only [stored_list, Json.toPy, Json.toPy_items, canonicalTree, canonicalTree_items,
      List.map_map, Json.arr.injEq]
    exact List.map_congr_left fun x hx => ih x hx (hd x hx) (hk x hx)
  | tuple xs ih =>
    simp only [dumpable, dumpable_items, keysStable, keysStable_items, List.all_eq_true] at hd hk
    simp only [stored_tuple, Json.toPy, Json.toPy_items, canonicalTree, canonicalTree_items,
      List.map_map, Json.arr.injEq]
    exact List.map_congr_left fun x hx => ih x hx (hd x hx) (hk x hx)
  | other t => cases hd
  | dict es ih =>
    have hstored := stored_dict_of_keysStable hk
    simp only [dumpable, dumpable_entries, keysStable, keysStable_entries, List.all_eq_true,
      Bool.and_eq_true, decide_eq_true_eq] at hd hk
    obtain ⟨hsorted, hk⟩ := hk
    -- the stored members, in the Python order of the keys they come from
    let out := (sortItems es).map fun e => (e.1.jsonText, e.2.stored)
    have hperm : (es.map fun e => (e.1.jsonText, e.2.stored)).Perm out :=
      (sortItems_perm es).symm.map _
    have hout : (out.map Prod.fst).Pairwise (· < ·) := by
      simpa only [out, List.map_map, Function.comp_def] using hsorted
    rw [hstored, Json.canonicalTree_toPy_obj, Json.byKey_of_perm hperm hout]
    simp only [canonicalTree, canonicalTree_entries, sortItems_map, List.map_map, Json.obj.injEq,
      out]
    refine List.map_congr_left fun e he => ?_
    have hmem := (sortItems_perm es).mem_iff.1 he
    exact Prod.ext rfl (ih e hmem (hd e hmem).2 (hk e hmem))

/-- The canonical text read back from storage is the one written. -/
theorem canonicalText_stored {v : PyVal} {j : Json} {t : String} (hk : v.keysStable = true)
    (hj : jsonStore v = some j) (ht : canonicalText v = some t) :
    canonicalText j.toPy = some t := by
  obtain ⟨hd, rfl⟩ := jsonStore_eq_some.1 hj
  unfold canonicalText at ht
  split at ht
  · rw [canonicalText_toPy, v.canonicalTree_stored hd hk, ht]
  · cases ht

/-- A lookup by a word that is no scalar token goes through storage. -/
theorem PyVal.get?_stored {es : List (PyKey × PyVal)} {w : String}
    (hd : (PyVal.dict es).dumpable = true) (hfloat : w.toList.all isFloatChar = false)
    (hint : w.toList.all isIntChar = false) (hwords : w ∉ ["null", "true", "false"]) :
    get? (es.map fun e => (PyKey.str e.1.jsonText, e.2.stored.toPy)) w =
      (get? es w).map fun v => v.stored.toPy := by
  simp only [dumpable, dumpable_entries, List.all_eq_true, Bool.and_eq_true] at hd
  unfold get?
  induction es with
  | nil => rfl
  | cons e es ih =>
    obtain ⟨⟨henc, -⟩, hes⟩ := List.forall_mem_cons.1 hd
    have hkey := PyKey.jsonText_eq_word henc hfloat hint hwords
    rw [List.map_cons, List.find?_cons, List.find?_cons]
    by_cases he : e.1 = .str w
    · simp [he, PyKey.jsonText]
    · have hne : e.1.jsonText ≠ w := fun h => he (hkey.1 h)
      simpa only [he, hne, PyKey.str.injEq, decide_false] using ih hes

/-! ## Values that storage keeps as they are -/

/-- The value is made of scalars, strings, lists and dicts with string keys. -/
def PyVal.plain : PyVal → Bool
  | .scalar _ => true
  | .str _ => true
  | .list xs => items xs
  | .tuple _ => false
  | .dict es => allStrKeys es && entries es
  | .other _ => false
where
  items : List PyVal → Bool
    | [] => true
    | x :: xs => x.plain && items xs
  entries : List (PyKey × PyVal) → Bool
    | [] => true
    | e :: es => e.2.plain && entries es

@[simp] theorem PyVal.plain_items (xs : List PyVal) : plain.items xs = xs.all plain := by
  induction xs with
  | nil => rfl
  | cons x xs ih => simp [plain.items, ih]

@[simp] theorem PyVal.plain_entries (es : List (PyKey × PyVal)) :
    plain.entries es = es.all fun e => e.2.plain := by
  induction es with
  | nil => rfl
  | cons e es ih => simp [plain.entries, ih]

theorem PyVal.toPy_stored (v : PyVal) (hp : v.plain = true) (hk : v.keysStable = true) :
    v.stored.toPy = v := by
  induction v with
  | scalar s => rfl
  | str s => rfl
  | tuple xs _ => cases hp
  | other t => cases hp
  | list xs ih =>
    simp only [plain, plain_items, keysStable, keysStable_items, List.all_eq_true] at hp hk
    rw [stored_list, Json.toPy, Json.toPy_items, List.map_map]
    congr 1
    exact (List.map_congr_left fun x hx => ih x hx (hp x hx) (hk x hx)).trans (List.map_id _)
  | dict es ih =>
    rw [stored_dict_of_keysStable hk]
    simp only [plain, plain_entries, keysStable, keysStable_entries, List.all_eq_true,
      Bool.and_eq_true] at hp hk
    obtain ⟨hstr, hp⟩ := hp
    rw [Json.toPy, Json.toPy_entries, List.map_map]
    congr 1
    refine (List.map_congr_left fun e he => ?_).trans (List.map_id _)
    have hkey := List.all_eq_true.1 hstr e he
    obtain ⟨k, w⟩ := e
    cases k with
    | str s => exact Prod.ext rfl (ih (.str s, w) he (hp _ he) (hk.2 _ he))
    | scalar s => cases hkey
    | other t => cases hkey

end LiveOs.Lib
