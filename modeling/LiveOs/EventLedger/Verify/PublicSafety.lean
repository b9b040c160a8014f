import LiveOs.EventLedger.Chain
import LiveOs.Lib.JsonCanonical

/-!
# What the validator keeps out of the stored ledger

`Json.publicSafe` says what a stored document may hold. The validator walks dicts and lists only:
it does not look into tuples, into a `private_commitments` value that is no list, or at elements
of one that are no dicts. `skippedClean` asks for safety of just these parts, and for a payload
the validator accepts it decides whether the stored document is safe.
-/

namespace LiveOs.EventLedger

open Lib

/-! ## Safe documents -/

/-- An element of a `private_commitments` array: an object with the commitment keys only and
values that are strings or scalars. -/
def commitmentSafe : Json → Bool
  | .obj es => es.all fun e => commitmentKeys.contains e.1 && match e.2 with
    | .scalar _ => true
    | .str _ => true
    | _ => false
  | _ => false

/-- Every element of a `private_commitments` value is safe. -/
def commitmentsSafe : Json → Bool
  | .arr xs => xs.all commitmentSafe
  | _ => true

/-- No object at any depth has a denylisted key, and every `private_commitments` value is safe. -/
def publicSafe : Json → Bool
  | .scalar _ => true
  | .str _ => true
  | .arr xs => items xs
  | .obj es => entries es
where
  items : List Json → Bool
    | [] => true
    | x :: xs => publicSafe x && items xs
  entries : List (String × Json) → Bool
    | [] => true
    | (k, v) :: es => (!publicLedgerDenylistKeys.contains k &&
        (k != "private_commitments" || commitmentsSafe v) && publicSafe v) && entries es

@[simp] theorem publicSafe_items (xs : List Json) : publicSafe.items xs = xs.all publicSafe := by
  induction xs with
  | nil => rfl
  | cons x xs ih => simp [publicSafe.items, ih]

/-- The test on one member of an object. -/
def memberSafe (e : String × Json) : Bool :=
  !publicLedgerDenylistKeys.contains e.1 &&
    (e.1 != "private_commitments" || commitmentsSafe e.2) && publicSafe e.2

@[simp] theorem publicSafe_entries (es : List (String × Json)) :
    publicSafe.entries es = es.all memberSafe := by
  induction es with
  | nil => rfl
  | cons e es ih => simp [publicSafe.entries, ih, memberSafe]

theorem commitmentKeys_safe :
    ∀ k ∈ commitmentKeys, k ∉ publicLedgerDenylistKeys ∧ k ≠ "private_commitments" := by decide

theorem publicSafe_of_commitmentSafe {j : Json} (h : commitmentSafe j = true) :
    publicSafe j = true := by
  cases j with
  | obj es =>
    simp only [commitmentSafe, List.all_eq_true, Bool.and_eq_true] at h
    rw [publicSafe, publicSafe_entries, List.all_eq_true]
    rintro ⟨k, v⟩ he
    obtain ⟨hk, hv⟩ := h _ he
    have hkey := commitmentKeys_safe k (List.contains_iff_mem.1 hk)
    have hval : publicSafe v = true := by
      cases v with
      | scalar s => rfl
      | str s => rfl
      | arr xs => cases hv
      | obj fs => cases hv
    simp [memberSafe, hkey.1, hkey.2, hval]
  | scalar s => cases h
  | str s => cases h
  | arr xs => cases h

/-! ## What the validator skips -/

/-- An element the validator accepts in a `private_commitments` list: it is a dict, and no value
that is read back is a tuple. -/
def commitmentItemClean : PyVal → Bool
  | .dict es => (lastOnly (fun e : PyKey × PyVal => e.1.jsonText) es).all fun e => match e.2 with
    | .tuple _ => false
    | _ => true
  | _ => false

/-- A `private_commitments` value: its elements are clean when it is a list; any other value is
not looked at, so it has to be safe by itself. -/
def commitmentsClean : PyVal → Bool
  | .list xs => xs.all commitmentItemClean
  | v => commitmentsSafe v.stored && publicSafe v.stored

/-- The parts of a payload that the validator does not walk into are safe: tuples and the values
of `private_commitments`. Entries that a later key with the same text replaces do not count. -/
def skippedClean : PyVal → Bool
  | .dict es => entries es
  | .list xs => items xs
  | .tuple xs => publicSafe (PyVal.tuple xs).stored
  | _ => true
where
  items : List PyVal → Bool
    | [] => true
    | x :: xs => skippedClean x && items xs
  entries : List (PyKey × PyVal) → Bool
    | [] => true
    | (k, v) :: es => (es.any (fun f => f.1.jsonText = k.jsonText) ||
        if k = .str "private_commitments" then commitmentsClean v else skippedClean v) &&
        entries es

@[simp] theorem skippedClean_items (xs : List PyVal) :
    skippedClean.items xs = xs.all skippedClean := by
  induction xs with
  | nil => rfl
  | cons x xs ih => simp [skippedClean.items, ih]

/-- The test on one entry of a dict. -/
def entryClean (e : PyKey × PyVal) : Bool :=
  if e.1 = .str "private_commitments" then commitmentsClean e.2 else skippedClean e.2

theorem skippedClean_entries (es : List (PyKey × PyVal)) :
    skippedClean.entries es =
      (lastOnly (fun e : PyKey × PyVal => e.1.jsonText) es).all entryClean := by
  induction es with
  | nil => rfl
  | cons e es ih =>
    obtain ⟨k, v⟩ := e
    rw [skippedClean.entries, ih, lastOnly]
    by_cases h : es.any (fun f => f.1.jsonText = k.jsonText) = true
    · rw [if_pos h, h, Bool.true_or, Bool.true_and]
    · rw [if_neg h, Bool.eq_false_iff.2 h, Bool.false_or, List.all_cons]
      rfl

/-! ## What an accepted walk says -/

/-- A walk over list items accepts every item. -/
theorem validateNode_items_ok {inside : Bool} {path : String} {idx : Nat} {xs : List PyVal}
    (h : validateNode.items inside path idx xs = .ok ()) :
    ∀ x ∈ xs, ∃ p, validateNode inside p x = .ok () := by
  induction xs generalizing idx with
  | nil => intro x hx; cases hx
  | cons y ys ih =>
    obtain ⟨_, hy, hys⟩ := bind_eq_ok.1 h
    intro x hx
    rcases List.mem_cons.1 hx with rfl | hx
    · exact ⟨_, hy⟩
    · exact ih hys x hx

/-- Inside commitments an accepted dict has commitment keys only and holds no dict and no list. -/
theorem validateNode_item_ok {path : String} {es : List (PyKey × PyVal)}
    (h : validateNode.entries true path es = .ok ()) :
    ∀ e ∈ es, keyIn e.1 commitmentKeys = true ∧ e.2.isDictOrList = false := by
  induction es with
  | nil => intro e he; cases he
  | cons f fs ih =>
    obtain ⟨k, v⟩ := f
    simp only [validateNode.entries, if_true, rejectIf_bind_eq_ok] at h
    obtain ⟨hk, hv, hfs⟩ := h
    intro e he
    rcases List.mem_cons.1 he with rfl | he
    · exact ⟨by simpa using hk, by simpa using hv⟩
    · exact ih hfs e he

/-- What the walk over a dict checks of one entry. -/
def EntryOk (e : PyKey × PyVal) : Prop :=
  (e.1 = .str "private_commitments" ∧
    ∀ xs, e.2 = .list xs → ∀ x ∈ xs, ∃ p, validateNode true p x = .ok ()) ∨
  (e.1 ≠ .str "private_commitments" ∧ keyIn e.1 publicLedgerDenylistKeys = false ∧
    (e.2.isDictOrList = true → ∃ p, validateNode false p e.2 = .ok ()))

theorem validateNode_entries_ok {path : String} {es : List (PyKey × PyVal)}
    (h : validateNode.entries false path es = .ok ()) : ∀ e ∈ es, EntryOk e := by
  induction es with
  | nil => intro e he; cases he
  | cons f fs ih =>
    obtain ⟨k, v⟩ := f
    unfold validateNode.entries at h
    rw [if_neg Bool.false_ne_true] at h
    by_cases hk : k = .str "private_commitments"
    · rw [if_pos hk] at h
      obtain ⟨_, hv, hfs⟩ := bind_eq_ok.1 h
      refine List.forall_mem_cons.2 ⟨.inl ⟨hk, ?_⟩, ih hfs⟩
      rintro xs rfl
      exact validateNode_items_ok hv
    · rw [if_neg hk, rejectIf_bind_eq_ok] at h
      obtain ⟨hdeny, hrest⟩ := h
      obtain ⟨_, hv, hfs⟩ := bind_eq_ok.1 hrest
      refine List.forall_mem_cons.2 ⟨.inr ⟨hk, by simpa using hdeny, fun hd => ?_⟩, ih hfs⟩
      rw [if_pos hd] at hv
      exact ⟨_, hv⟩

/-! ## Keys -/

theorem denylist_words : ∀ w ∈ "private_commitments" :: publicLedgerDenylistKeys,
    w.toList.all isFloatChar = false ∧ w.toList.all isIntChar = false ∧
      w ∉ ["null", "true", "false"] := by decide

/-- A key whose text is denylisted is a denylisted string. -/
theorem denylisted_jsonText {k : PyKey} (hk : k.encodable = true) :
    publicLedgerDenylistKeys.contains k.jsonText = keyIn k publicLedgerDenylistKeys := by
  rw [Bool.eq_iff_iff, List.contains_iff_mem]
  constructor
  · intro h
    obtain ⟨hf, hi, hw⟩ := denylist_words _ (List.mem_cons_of_mem _ h)
    rw [(PyKey.jsonText_eq_word hk hf hi hw).1 rfl, keyIn, List.contains_iff_mem]
    exact h
  · intro h
    cases k with
    | str s => exact List.contains_iff_mem.1 h
    | scalar s => cases h
    | other t => cases h

theorem commitments_jsonText {k : PyKey} (hk : k.encodable = true) :
    k.jsonText = "private_commitments" ↔ k = .str "private_commitments" := by
  obtain ⟨hf, hi, hw⟩ := denylist_words "private_commitments" List.mem_cons_self
  exact PyKey.jsonText_eq_word hk hf hi hw

/-! ## The stored document -/

/-- The members of a stored dict. -/
theorem stored_dict_all (es : List (PyKey × PyVal)) (p : String × Json → Bool) :
    (Json.ofPairs (es.map fun e => (e.1.jsonText, e.2.stored))).all p =
      (lastOnly (fun e : PyKey × PyVal => e.1.jsonText) es).all
        fun e => p (e.1.jsonText, e.2.stored) := by
  rw [Bool.eq_iff_iff, List.all_eq_true, List.all_eq_true]
  simp only [Json.mem_ofPairs, lastOnly_map, Function.comp_def, List.mem_map,
    forall_exists_index, and_imp, forall_apply_eq_imp_iff₂]

/-- An accepted commitment item is safe exactly when it is clean. -/
theorem commitmentSafe_stored {v : PyVal} {path : String}
    (h : validateNode true path v = .ok ()) : commitmentSafe v.stored = commitmentItemClean v := by
  cases v with
  | dict es =>
    rw [validateNode] at h
    have hok := validateNode_item_ok h
    rw [PyVal.stored_dict, commitmentSafe, stored_dict_all, commitmentItemClean]
    rw [Bool.eq_iff_iff, List.all_eq_true, List.all_eq_true]
    refine forall₂_congr fun e he => ?_
    obtain ⟨hk, hv⟩ := hok e (mem_of_mem_lastOnly he)
    obtain ⟨k, w⟩ := e
    cases k with
    | str s =>
      simp only [keyIn] at hk
      simp only [PyKey.jsonText, hk, Bool.true_and]
      cases w with
      | scalar s => exact Iff.rfl
      | str s => exact Iff.rfl
      | tuple xs => exact Iff.rfl
      | other t => exact Iff.rfl
      | list xs => cases hv
      | dict fs => cases hv
    | scalar s => cases hk
    | other t => cases hk
  | scalar s => rfl
  | str s => rfl
  | list xs => rfl
  | tuple xs => rfl
  | other t => rfl

/-- The elements of an accepted `private_commitments` list. -/
theorem commitmentsSafe_stored_list {xs : List PyVal}
    (h : ∀ x ∈ xs, ∃ p, validateNode true p x = .ok ()) :
    (commitmentsSafe (PyVal.list xs).stored && publicSafe (PyVal.list xs).stored) =
      commitmentsClean (.list xs) := by
  have hclean : (xs.map PyVal.stored).all commitmentSafe = xs.all commitmentItemClean := by
    rw [List.all_map, Bool.eq_iff_iff, List.all_eq_true, List.all_eq_true]
    refine forall₂_congr fun x hx => ?_
    obtain ⟨p, hp⟩ := h x hx
    rw [Function.comp_apply, commitmentSafe_stored hp]
  rw [PyVal.stored_list, commitmentsSafe, publicSafe, publicSafe_items, commitmentsClean, hclean]
  cases hc : xs.all commitmentItemClean with
  | false => rfl
  | true =>
    rw [Bool.true_and, List.all_eq_true]
    rw [hc, List.all_eq_true] at hclean
    exact fun j hj => publicSafe_of_commitmentSafe (hclean j hj)

/-- **The walk decides safety up to what it skips.** -/
theorem publicSafe_stored (v : PyVal) : ∀ {path : String}, v.dumpable = true →
    validateNode false path v = .ok () → publicSafe v.stored = skippedClean v := by
  induction v with
  | scalar s => intro _ _ _; rfl
  | str s => intro _ _ _; rfl
  | other t => intro _ _ _; rfl
  | tuple xs _ => intro _ _ _; rfl
  | list xs ih =>
    intro path hd h
    rw [validateNode] at h
    simp only [PyVal.dumpable, PyVal.dumpable_items, List.all_eq_true] at hd
    have hok := validateNode_items_ok h
    rw [PyVal.stored_list, publicSafe, publicSafe_items, skippedClean, skippedClean_items, List.all_map,
      Bool.eq_iff_iff, List.all_eq_true, List.all_eq_true]
    refine forall₂_congr fun x hx => ?_
    obtain ⟨p, hp⟩ := hok x hx
    rw [Function.comp_apply, ih x hx (hd x hx) hp]
  | dict es ih =>
    intro path hd h
    rw [validateNode] at h
    simp only [PyVal.dumpable, PyVal.dumpable_entries, List.all_eq_true, Bool.and_eq_true] at hd
    have hok := validateNode_entries_ok h
    rw [PyVal.stored_dict, publicSafe, publicSafe_entries, stored_dict_all, skippedClean,
      skippedClean_entries, Bool.eq_iff_iff, List.all_eq_true, List.all_eq_true]
    refine forall₂_congr fun e he => ?_
    have hmem := mem_of_mem_lastOnly he
    obtain ⟨hkey, hdump⟩ := hd e hmem
    suffices hsame : memberSafe (e.1.jsonText, e.2.stored) = entryClean e by rw [hsame]
    rcases hok e hmem with ⟨hpc, hitems⟩ | ⟨hpc, hdeny, hwalk⟩
    · -- a `private_commitments` entry
      rw [entryClean, if_pos hpc, memberSafe, hpc]
      have hdeny : publicLedgerDenylistKeys.contains "private_commitments" = false := by decide
      simp only [PyKey.jsonText, hdeny, Bool.not_false, bne_self_eq_false, Bool.false_or,
        Bool.true_and]
      obtain ⟨k, v⟩ := e
      cases v with
      | list xs => exact commitmentsSafe_stored_list (hitems xs rfl)
      | scalar s => rfl
      | str s => rfl
      | tuple xs => rfl
      | dict fs => rfl
      | other t => rfl
    · -- any other entry
      have hne : e.1.jsonText ≠ "private_commitments" :=
        fun heq => hpc ((commitments_jsonText hkey).1 heq)
      rw [entryClean, if_neg hpc, memberSafe, denylisted_jsonText hkey, hdeny]
      simp only [Bool.not_false, bne_iff_ne.2 hne, Bool.true_or, Bool.true_and]
      obtain ⟨k, v⟩ := e
      cases v with
      | list xs =>
        obtain ⟨p, hp⟩ := hwalk rfl
        exact ih (k, .list xs) hmem hdump hp
      | dict fs =>
        obtain ⟨p, hp⟩ := hwalk rfl
        exact ih (k, .dict fs) hmem hdump hp
      | scalar s => rfl
      | str s => rfl
      | tuple xs => rfl
      | other t => rfl

/-- An accepted payload was walked. -/
theorem validateNode_of_validate {rt : Runtime} {payload : PyVal}
    (h : validatePublicLedgerPayload rt payload = .ok ()) :
    validateNode false "payload_json" payload = .ok () := by
  cases payload with
  | dict es =>
    simp only [validatePublicLedgerPayload, rejectIf_bind_eq_ok] at h
    obtain ⟨-, h⟩ := h
    obtain ⟨-, -, h⟩ := bind_eq_ok.1 h
    obtain ⟨-, -, h⟩ := bind_eq_ok.1 h
    obtain ⟨-, -, h⟩ := bind_eq_ok.1 h
    obtain ⟨-, -, h⟩ := bind_eq_ok.1 h
    exact h
  | scalar s => cases h
  | str s => cases h
  | list xs => cases h
  | tuple xs => cases h
  | other t => cases h

/-- **Public safety of the ledger.** The document stored for an accepted payload is safe exactly
when the parts the validator skips are. -/
theorem validatePublicLedgerPayload_safe_iff (rt : Runtime) (payload : PyVal) (doc : Json)
    (hok : validatePublicLedgerPayload rt payload = .ok ())
    (hdoc : jsonStore payload = some doc) :
    publicSafe doc = true ↔ skippedClean payload = true := by
  obtain ⟨hdump, rfl⟩ := jsonStore_eq_some.1 hdoc
  rw [publicSafe_stored payload hdump (validateNode_of_validate hok)]

theorem validatePublicLedgerPayload_safe_iff_task : ∃ doc,
    jsonStore (publicPayload [(.str "points", .scalar (.int 3))]
      [.dict [(.str "name", .str "email"), (.str "present", .scalar (.bool true))]]) = some doc ∧
    (publicSafe doc = true ↔ skippedClean (publicPayload [(.str "points", .scalar (.int 3))]
      [.dict [(.str "name", .str "email"), (.str "present", .scalar (.bool true))]]) = true) :=
  ⟨_, rfl, validatePublicLedgerPayload_safe_iff textRuntime _ _ rfl rfl⟩

/-- A denylisted key inside a tuple is accepted and stored. -/
theorem validatePublicLedgerPayload_tuple_leak : ¬ ∀ (payload : PyVal) (doc : Json),
    validatePublicLedgerPayload textRuntime payload = .ok () → jsonStore payload = some doc →
      publicSafe doc = true := by
  intro h
  let payload := publicPayload
    [(.str "people", .tuple [.dict [(.str "email", .str "a@example.com")]])] []
  have hunsafe : publicSafe payload.stored = false := by decide +kernel
  rw [h payload payload.stored rfl rfl] at hunsafe
  cases hunsafe

end LiveOs.EventLedger
