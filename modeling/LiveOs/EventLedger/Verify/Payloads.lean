import LiveOs.EventLedger.Journal
import LiveOs.EventLedger.Validator
import LiveOs.EventLedger.Verify.Append
import LiveOs.Lib.Outcomes

/-!
# Built payloads are accepted

`append_event` accepts a payload of `_public_event_payload` whose required texts are not blank and
whose facts have no denylisted key.
-/

namespace LiveOs.EventLedger

open Lib

/-- `not text.strip()`. -/
def blank (text : String) : Prop := strip text = ""

instance (text : String) : Decidable (blank text) := inferInstanceAs (Decidable (strip text = ""))

theorem not_blank {text : String} {c : Char} (hc : c ∈ text.toList) (hspace : isSpace c = false) :
    ¬ blank text := strip_ne_empty hc hspace

/-- A text that begins with a text that is not blank. -/
theorem not_blank_append {text : String} {c : Char} (hc : c ∈ text.toList)
    (hspace : isSpace c = false) (rest : String) : ¬ blank (text ++ rest) := by
  refine not_blank ?_ hspace
  rw [String.toList_append]
  exact List.mem_append_left _ hc

/-- A reference that begins with a word. -/
theorem not_blank_publicRef {word : String} {c : Char} (hc : c ∈ word.toList)
    (hspace : isSpace c = false) (hword : String.ofList ((strip word).toList.map fun c =>
      if c = ' ' then '-' else c) = word) (parts : List String) :
    ¬ blank (publicRef (word :: parts)) := by
  have hkeep : strip word ≠ "" := strip_ne_empty hc hspace
  have hmem : c ∈ (join ":" (word :: (parts.filter fun p => strip p ≠ "").map fun p =>
      String.ofList ((strip p).toList.map fun c => if c = ' ' then '-' else c))).toList :=
    mem_join_head ":" hc _
  unfold publicRef
  rw [List.filter_cons_of_pos (by simpa using hkeep), List.map_cons, hword]
  dsimp only
  split
  · rename_i hempty
    rw [hempty] at hmem
    cases hmem
  · exact not_blank hmem hspace

/-- A fact the validator lets through: its key is free and its value walks. -/
def FactOk (fact : String × Json) : Prop :=
  fact.1 ∉ publicLedgerDenylistKeys ∧ fact.1 ≠ "private_commitments" ∧
    ∀ path, validateNode false path fact.2.toPy = .ok ()

/-- A commitment the validator lets through. -/
def CommitmentOk (item : Json) : Prop := ∀ path, validateNode true path item.toPy = .ok ()

/-- A key that facts may use. -/
def FreeKey (key : String) : Prop := key ∉ publicLedgerDenylistKeys ∧ key ≠ "private_commitments"

instance (key : String) : Decidable (FreeKey key) := inferInstanceAs (Decidable (_ ∧ _))

theorem factOk_str {key : String} (h : FreeKey key) (s : String) : FactOk (key, .str s) :=
  ⟨h.1, h.2, fun _ => rfl⟩

theorem factOk_scalar {key : String} (h : FreeKey key) (s : Scalar) : FactOk (key, .scalar s) :=
  ⟨h.1, h.2, fun _ => rfl⟩

theorem factOk_strs {key : String} (h : FreeKey key) (texts : List String) :
    FactOk (key, .arr (texts.map .str)) := by
  refine ⟨h.1, h.2, fun path => ?_⟩
  have hitems : ∀ idx, validateNode.items false path idx ((texts.map Json.str).map Json.toPy) =
      .ok () := by
    induction texts with
    | nil => exact fun _ => rfl
    | cons text texts ih => exact fun idx => ih (idx + 1)
  rw [Json.toPy, Json.toPy_items]
  exact hitems 0

theorem commitmentOk (name : String) (present : Bool) (reason : String) :
    CommitmentOk (commitment name present reason) := fun _ => rfl

/-! ## The walk over a built payload -/

/-- Accepted facts do not stop the walk. -/
theorem validateNode_entries_facts {facts : List (String × Json)} (h : ∀ f ∈ facts, FactOk f)
    {path : String} {rest : List (PyKey × PyVal)}
    (hrest : validateNode.entries false path rest = .ok ()) :
    validateNode.entries false path
      (facts.map (fun e => (PyKey.str e.1, e.2.toPy)) ++ rest) = .ok () := by
  induction facts with
  | nil => exact hrest
  | cons f facts ih =>
    obtain ⟨⟨hkey, hpc, hwalk⟩, hfacts⟩ := List.forall_mem_cons.1 h
    rw [List.map_cons, List.cons_append]
    unfold validateNode.entries
    have hdeny : keyIn (.str f.1) publicLedgerDenylistKeys = false := by
      rw [keyIn, ← Bool.not_eq_true, List.contains_iff_mem]
      exact hkey
    rw [if_neg Bool.false_ne_true, if_neg (by simpa using hpc), hdeny,
      rejectIf_neg Bool.false_ne_true, ok_bind, hwalk, ite_self, ok_bind]
    exact ih hfacts

theorem factOk_obj {key : String} (h : FreeKey key) {facts : List (String × Json)}
    (hfacts : ∀ f ∈ facts, FactOk f) : FactOk (key, .obj facts) := by
  refine ⟨h.1, h.2, fun path => ?_⟩
  rw [Json.toPy, Json.toPy_entries, validateNode]
  have hwalk : validateNode.entries false path
      (facts.map (fun e => (PyKey.str e.1, e.2.toPy)) ++ []) = .ok () :=
    validateNode_entries_facts hfacts rfl
  rwa [List.append_nil] at hwalk

theorem validateNode_items_commitments {items : List Json} (h : ∀ c ∈ items, CommitmentOk c)
    (path : String) (idx : Nat) :
    validateNode.items true path idx (items.map Json.toPy) = .ok () := by
  induction items generalizing idx with
  | nil => rfl
  | cons c items ih =>
    obtain ⟨hc, hitems⟩ := List.forall_mem_cons.1 h
    rw [List.map_cons]
    unfold validateNode.items
    rw [hc, ok_bind]
    exact ih hitems (idx + 1)

section

variable {rt : Runtime}

/-- A required text that is not blank passes. -/
theorem requireFields_cons {es : List (PyKey × PyVal)} {path req text : String}
    {reqs : List String} (hget : PyVal.get? es req = some (.str text)) (h : ¬ blank text)
    (hrest : requireFields rt es path reqs = .ok ()) :
    requireFields rt es path (req :: reqs) = .ok () := by
  have hfield : ¬ blankField rt es req = true := by
    simp only [blankField, hget, Option.getD_some, Runtime.str, PyVal.pyStr, decide_eq_true_eq]
    exact h
  rw [requireFields, rejectIf_neg hfield, ok_bind]
  exact hrest

/-- The checks of the validator, one by one. -/
theorem validatePublicLedgerPayload_of {es subject facts : List (PyKey × PyVal)}
    {commitments : List PyVal}
    (hschema : PyVal.get? es "schema" = some (.str publicLedgerSchema))
    (hsubject : PyVal.get? es "subject" = some (.dict subject))
    (hfields : requireFields rt subject "payload_json.subject" ["type", "ref", "label"] = .ok ())
    (htexts : requireFields rt es "payload_json" ["action", "stage", "summary"] = .ok ())
    (hfacts : PyVal.get? es "public_facts" = some (.dict facts))
    (hcommitments : PyVal.get? es "private_commitments" = some (.list commitments))
    (hwalk : validateNode false "payload_json" (.dict es) = .ok ()) :
    validatePublicLedgerPayload rt (.dict es) = .ok () := by
  have hs : ¬ (PyVal.str publicLedgerSchema).isStr publicLedgerSchema = false := by decide
  simp only [validatePublicLedgerPayload, hschema, Option.getD_some, rejectIf_neg hs, hsubject,
    hfields, htexts, hfacts, hcommitments, ok_bind]
  exact hwalk

/-- A valid payload that can be written passes every check of `append_event`. -/
theorem checkRequest_of {req : AppendRequest} {es : List (PyKey × PyVal)}
    (hpayload : req.payloadJson = .dict es)
    (hvalid : validatePublicLedgerPayload rt (.dict es) = .ok ())
    (hcanonical : (PyVal.dict es).canonical = true) (hdumpable : (PyVal.dict es).dumpable = true) :
    checkRequest rt req = .ok () := by
  obtain ⟨es', subject, hes, hschema, hsubject⟩ := validate_shape hvalid
  obtain rfl := PyVal.dict.inj hes
  have hs : ¬ (PyVal.str publicLedgerSchema).isStr publicLedgerSchema = false := by decide
  simp only [checkRequest, hpayload, orEmptyDict_dict, dictGet_dict, hschema, Option.getD_some,
    ok_bind, rejectIf_neg hs, hvalid, subjectRef_dict hsubject, hcanonical, hdumpable]
  rfl

theorem validateNode_publicEventPayload {subjectType ref label action stage summary : String}
    {facts : List (String × Json)} {commitments : List Json} (hfacts : ∀ f ∈ facts, FactOk f)
    (hcommitments : ∀ c ∈ commitments, CommitmentOk c) :
    validateNode false "payload_json" (publicEventPayload subjectType ref label action stage
      summary facts commitments) = .ok () := by
  have hcommit : validateNode.entries false "payload_json"
      [(.str "private_commitments", (Json.arr commitments).toPy)] = .ok () := by
    unfold validateNode.entries
    rw [if_neg Bool.false_ne_true, if_pos rfl, Json.toPy, Json.toPy_items]
    simp only [validateNode_items_commitments hcommitments, ok_bind]
    rfl
  have hsubject : ∀ f ∈ [("type", Json.str subjectType), ("ref", .str ref), ("label", .str label)],
      FactOk f := by
    simp only [List.forall_mem_cons, List.not_mem_nil, false_imp_iff, implies_true, and_true]
    exact ⟨factOk_str (by decide) _, factOk_str (by decide) _, factOk_str (by decide) _⟩
  have hall : ∀ f ∈ [("schema", Json.str publicLedgerSchema), ("subject", .obj
      [("type", Json.str subjectType), ("ref", .str ref), ("label", .str label)]),
      ("action", .str action), ("stage", .str stage), ("summary", .str summary),
      ("public_facts", .obj facts)], FactOk f := by
    simp only [List.forall_mem_cons, List.not_mem_nil, false_imp_iff, implies_true, and_true]
    exact ⟨factOk_str (by decide) _, factOk_obj (by decide) hsubject, factOk_str (by decide) _,
      factOk_str (by decide) _, factOk_str (by decide) _, factOk_obj (by decide) hfacts⟩
  exact validateNode_entries_facts hall hcommit

/-- **Built payloads are accepted.** -/
theorem checkRequest_publicEventPayload {req : AppendRequest}
    {subjectType ref label action stage summary : String} {facts : List (String × Json)}
    {commitments : List Json}
    (hpayload : req.payloadJson = publicEventPayload subjectType ref label action stage summary
      facts commitments)
    (htype : ¬ blank subjectType) (href : ¬ blank ref) (hlabel : ¬ blank label)
    (haction : ¬ blank action) (hstage : ¬ blank stage) (hsummary : ¬ blank summary)
    (hfacts : ∀ f ∈ facts, FactOk f) (hcommitments : ∀ c ∈ commitments, CommitmentOk c) :
    checkRequest rt req = .ok () := by
  have hsubject : requireFields rt [(.str "type", .str subjectType), (.str "ref", .str ref),
      (.str "label", .str label)] "payload_json.subject" ["type", "ref", "label"] = .ok () :=
    requireFields_cons rfl htype <| requireFields_cons rfl href <|
      requireFields_cons rfl hlabel rfl
  refine checkRequest_of hpayload (validatePublicLedgerPayload_of rfl rfl hsubject ?_ rfl rfl ?_)
    (Json.canonical_toPy (.obj _)) (Json.dumpable_toPy (.obj _))
  · exact requireFields_cons rfl haction <| requireFields_cons rfl hstage <|
      requireFields_cons rfl hsummary rfl
  · exact validateNode_publicEventPayload hfacts hcommitments

end

/-! ## What the validator raises

A refused payload is refused with a `ValueError`: no field of any shape makes the validator raise
anything else. -/

/-- The exception is a `ValueError`. -/
def IsValueError (e : Error) : Prop := ∃ message, e = .value message

theorem isValueError (message : String) : IsValueError (.value message) := ⟨message, rfl⟩

theorem items_raises {xs : List PyVal}
    (h : ∀ x ∈ xs, ∀ inside path, RaisesOnly IsValueError (validateNode inside path x))
    (inside : Bool) (path : String) (idx : Nat) :
    RaisesOnly IsValueError (validateNode.items inside path idx xs) := by
  induction xs generalizing idx with
  | nil => exact .ok ()
  | cons x xs ih =>
    obtain ⟨hx, hxs⟩ := List.forall_mem_cons.1 h
    rw [validateNode.items]
    exact .bind (hx _ _) fun _ => ih hxs (idx + 1)

/-- The loop over a dict whose values are walked, and whose lists are walked under either flag. -/
theorem entries_raises {es : List (PyKey × PyVal)}
    (h : ∀ e ∈ es, (∀ inside path, RaisesOnly IsValueError (validateNode inside path e.2)) ∧
      ∀ xs, e.2 = .list xs → ∀ inside path idx,
        RaisesOnly IsValueError (validateNode.items inside path idx xs))
    (inside : Bool) (path : String) :
    RaisesOnly IsValueError (validateNode.entries inside path es) := by
  induction es with
  | nil => exact .ok ()
  | cons e es ih =>
    obtain ⟨key, value⟩ := e
    obtain ⟨⟨hwalk, hlist⟩, hes⟩ := List.forall_mem_cons.1 h
    unfold validateNode.entries
    split
    · exact .guard (isValueError _) (.guard (isValueError _) (ih hes))
    · split
      · apply RaisesOnly.bind
        · cases value with
          | list xs => exact hlist xs rfl _ _ _
          | _ => exact .ok ()
        · exact fun _ => ih hes
      · apply RaisesOnly.guard (isValueError _)
        apply RaisesOnly.bind
        · split
          · exact hwalk _ _
          · exact .ok ()
        · exact fun _ => ih hes

theorem validateNode_raises (v : PyVal) :
    (∀ inside path, RaisesOnly IsValueError (validateNode inside path v)) ∧
      ∀ xs, v = .list xs → ∀ inside path idx,
        RaisesOnly IsValueError (validateNode.items inside path idx xs) := by
  induction v with
  | list xs ih =>
    have hitems := items_raises fun x hx => (ih x hx).1
    constructor
    · exact fun _ path => hitems false path 0
    · rintro _ ⟨⟩
      exact hitems
  | dict es ih =>
    constructor
    · exact fun inside path => entries_raises ih inside path
    · rintro _ ⟨⟩
  | _ => exact ⟨fun _ _ => .ok (), by rintro _ ⟨⟩⟩

theorem requireFields_raises (rt : Runtime) (es : List (PyKey × PyVal)) (path : String)
    (reqs : List String) : RaisesOnly IsValueError (requireFields rt es path reqs) := by
  induction reqs with
  | nil => exact .ok ()
  | cons req reqs ih => exact .guard (isValueError _) ih

/-- **Refusals.** The validator raises a `ValueError` or nothing. -/
theorem validatePublicLedgerPayload_raises (rt : Runtime) (payload : PyVal) :
    RaisesOnly IsValueError (validatePublicLedgerPayload rt payload) := by
  cases payload with
  | dict es =>
    apply RaisesOnly.guard (isValueError _)
    apply RaisesOnly.bind
    · split
      · exact requireFields_raises _ _ _ _
      · exact .error (isValueError _)
    intro _
    apply RaisesOnly.bind (requireFields_raises _ _ _ _)
    intro _
    apply RaisesOnly.bind
    · split
      · exact .ok ()
      · exact .error (isValueError _)
    intro _
    apply RaisesOnly.bind
    · split
      · exact .ok ()
      · exact .error (isValueError _)
    exact fun _ => (validateNode_raises _).1 _ _
  | _ => exact .error (isValueError _)

end LiveOs.EventLedger
