import LiveOs.EventLedger.Verify.Binding

/-!
# Appending keeps the chain verified

`append_event` hashes the payload in memory, `verify_event_chain` the payload read back from
storage. A payload that `StoresStably` has one canonical text and one subject reference on both
sides, so every table built from such payloads verifies.
-/

namespace LiveOs.EventLedger

open Lib

section

variable {rt : Runtime}

/-! ## What a successful append does -/

/-- The table `t'` is `t` with one more event, whose hashes are computed from the request. -/
structure Appended (rt : Runtime) (req : AppendRequest) (t t' : EventTable) (event : SystemEvent) :
    Prop where
  rows : t'.rows = t.rows ++ [event]
  valid : validatePublicLedgerPayload rt (orEmptyDict req.payloadJson) = .ok ()
  stored : jsonStore (orEmptyDict req.payloadJson) = some event.payloadJson
  aggregateId : event.aggregateId = req.aggregateId
  eventType : event.eventType = req.eventType
  aggregateType : event.aggregateType = req.aggregateType
  seq : event.seq = nextSeq t
  prevHash : event.prevHash = nextPrevHash t
  payloadHash : hashJson rt (orEmptyDict req.payloadJson) = .ok event.payloadHash
  eventHash : ∃ ref, subjectRef rt (orEmptyDict req.payloadJson) req.aggregateId = .ok ref ∧
    computeEventHashV2 rt event.seq req.eventType req.aggregateType ref event.payloadHash
      event.prevHash = .ok event.eventHash

theorem insert_rows {t t' : EventTable} {event : SystemEvent} (h : t.insert event = .ok t') :
    t'.rows = t.rows ++ [event] := by
  unfold EventTable.insert at h
  split at h
  · cases h
  · split at h
    · cases h
    · obtain rfl := Except.ok.inj h
      rfl

theorem appendLoop_ok {α : Type} {attempt : Except Error α} {lastError : Option Error} {n : Nat}
    {a : α} (h : appendLoop attempt lastError n = .ok a) : attempt = .ok a := by
  induction n generalizing lastError with
  | zero => cases lastError <;> cases h
  | succ n ih =>
    unfold appendLoop at h
    split at h
    · exact ih h
    · exact h

theorem appendEvent_ok {req : AppendRequest} {t t' : EventTable} {event : SystemEvent}
    (h : appendEvent rt req t = .ok (t', event)) : Appended rt req t t' event := by
  unfold appendEvent at h
  obtain ⟨schema, -, h⟩ := bind_eq_ok.1 h
  obtain ⟨-, h⟩ := rejectIf_bind_eq_ok.1 h
  obtain ⟨_, hvalid, h⟩ := bind_eq_ok.1 h
  obtain ⟨ref, href, h⟩ := bind_eq_ok.1 h
  have hattempt := appendLoop_ok h
  unfold appendAttempt at hattempt
  obtain ⟨payloadHash, hpayload, hattempt⟩ := bind_eq_ok.1 hattempt
  obtain ⟨eventHash, hevent, hattempt⟩ := bind_eq_ok.1 hattempt
  split at hattempt
  · cases hattempt
  · rename_i doc hdoc
    obtain ⟨t'', hinsert, hpure⟩ := bind_eq_ok.1 hattempt
    obtain ⟨rfl, rfl⟩ := Prod.mk.inj (pure_eq_ok.1 hpure)
    exact {
      rows := insert_rows hinsert
      valid := hvalid
      stored := hdoc
      aggregateId := rfl
      eventType := rfl
      aggregateType := rfl
      seq := rfl
      prevHash := rfl
      payloadHash := hpayload
      eventHash := ⟨ref, href, hevent⟩ }

/-! ## Payloads that storage does not change -/

/-- The subject reference is made of scalars, strings, lists and dicts with string keys. -/
def refPlain (payload : PyVal) : Bool :=
  match payload with
  | .dict es => match PyVal.get? es "subject" with
    | some (.dict subject) => ((PyVal.get? subject "ref").map PyVal.plain).getD true
    | _ => true
  | _ => true

/-- The payload passes every check of `append_event`. -/
structure Accepted (rt : Runtime) (payload : PyVal) : Prop where
  valid : validatePublicLedgerPayload rt payload = .ok ()
  canonical : payload.canonical = true
  dumpable : payload.dumpable = true

/-- Unless the payload is refused: in every dict of it the key texts increase strictly along the
Python order of the keys, and the subject reference has no tuple and no key that is not a
string. -/
def StoresStably (rt : Runtime) (req : AppendRequest) : Prop :=
  Accepted rt (orEmptyDict req.payloadJson) →
    (orEmptyDict req.payloadJson).keysStable = true ∧ refPlain (orEmptyDict req.payloadJson) = true

theorem dictGet_dict (es : List (PyKey × PyVal)) (key : String) (default : PyVal) :
    dictGet (.dict es) key default = .ok ((PyVal.get? es key).getD default) := rfl

theorem orEmptyDict_dict (es : List (PyKey × PyVal)) : orEmptyDict (.dict es) = .dict es := by
  cases es <;> rfl

/-- A valid payload is a dict with the schema and a subject dict. -/
theorem validate_shape {payload : PyVal}
    (h : validatePublicLedgerPayload rt payload = .ok ()) :
    ∃ es subject, payload = .dict es ∧
      PyVal.get? es "schema" = some (.str publicLedgerSchema) ∧
      PyVal.get? es "subject" = some (.dict subject) := by
  cases payload with
  | dict es =>
    simp only [validatePublicLedgerPayload, rejectIf_bind_eq_ok] at h
    obtain ⟨hschema, h⟩ := h
    obtain ⟨_, hsubject, -⟩ := bind_eq_ok.1 h
    have hs : PyVal.get? es "schema" = some (.str publicLedgerSchema) := by
      cases hget : PyVal.get? es "schema" with
      | none => rw [hget] at hschema; exact absurd rfl hschema
      | some v =>
        rw [hget, Option.getD_some] at hschema
        cases v with
        | str s =>
          have heq : s = publicLedgerSchema := by simpa [PyVal.isStr] using hschema
          rw [heq]
        | _ => exact absurd rfl hschema
    split at hsubject
    · rename_i subject hget
      exact ⟨es, subject, rfl, hs, hget⟩
    · cases hsubject
  | scalar s => cases h
  | str s => cases h
  | list xs => cases h
  | tuple xs => cases h
  | other t => cases h

theorem subjectRef_dict {es subject : List (PyKey × PyVal)}
    (h : PyVal.get? es "subject" = some (.dict subject)) (aggregateId : String) :
    subjectRef rt (.dict es) aggregateId =
      .ok (rt.str ((PyVal.get? subject "ref").getD (.str aggregateId))) := by
  rw [subjectRef, dictGet_dict, h, Option.getD_some, ok_bind, orEmptyDict_dict, dictGet_dict,
    ok_bind]
  rfl

theorem mem_of_get? {es : List (PyKey × PyVal)} {key : String} {v : PyVal}
    (h : PyVal.get? es key = some v) : ∃ e ∈ es, e.2 = v := by
  unfold PyVal.get? at h
  obtain ⟨e, he, rfl⟩ := Option.map_eq_some_iff.1 h
  exact ⟨e, List.mem_of_find?_eq_some he, rfl⟩

theorem member_dumpable {es : List (PyKey × PyVal)} {key : String} {v : PyVal}
    (hd : (PyVal.dict es).dumpable = true) (h : PyVal.get? es key = some v) :
    v.dumpable = true := by
  obtain ⟨e, he, rfl⟩ := mem_of_get? h
  simp only [PyVal.dumpable, PyVal.dumpable_entries, List.all_eq_true, Bool.and_eq_true] at hd
  exact (hd e he).2

theorem member_keysStable {es : List (PyKey × PyVal)} {key : String} {v : PyVal}
    (hk : (PyVal.dict es).keysStable = true) (h : PyVal.get? es key = some v) :
    v.keysStable = true := by
  obtain ⟨e, he, rfl⟩ := mem_of_get? h
  simp only [PyVal.keysStable, PyVal.keysStable_entries, List.all_eq_true, Bool.and_eq_true] at hk
  exact hk.2 e he

/-- Reading the version and the subject reference back from storage gives what was written. -/
theorem reads_stored {payload : PyVal} {doc : Json} (aggregateId : String)
    (hvalid : validatePublicLedgerPayload rt payload = .ok ())
    (hdoc : jsonStore payload = some doc) (hk : payload.keysStable = true)
    (href : refPlain payload = true) :
    orEmptyDict doc.toPy = doc.toPy ∧ isV2 doc.toPy = .ok true ∧
      subjectRef rt doc.toPy aggregateId = subjectRef rt payload aggregateId := by
  obtain ⟨es, subject, rfl, hschema, hsubject⟩ := validate_shape hvalid
  obtain ⟨hd, rfl⟩ := jsonStore_eq_some.1 hdoc
  have hsd := member_dumpable hd hsubject
  have hsk := member_keysStable hk hsubject
  -- the stored payload and the stored subject, as dicts again
  have hpy : (PyVal.dict es).stored.toPy =
      .dict (es.map fun e => (PyKey.str e.1.jsonText, e.2.stored.toPy)) := by
    rw [PyVal.stored_dict_of_keysStable hk, Json.toPy, Json.toPy_entries, List.map_map]
    rfl
  have hspy : (PyVal.dict subject).stored.toPy =
      .dict (subject.map fun e => (PyKey.str e.1.jsonText, e.2.stored.toPy)) := by
    rw [PyVal.stored_dict_of_keysStable hsk, Json.toPy, Json.toPy_entries, List.map_map]
    rfl
  have hsubject' := PyVal.get?_stored (w := "subject") hd (by decide) (by decide) (by decide)
  have hschema' := PyVal.get?_stored (w := "schema") hd (by decide) (by decide) (by decide)
  have href' := PyVal.get?_stored (w := "ref") hsd (by decide) (by decide) (by decide)
  rw [hsubject, Option.map_some, hspy] at hsubject'
  rw [hschema] at hschema'
  refine ⟨?_, ?_, ?_⟩
  · rw [hpy, orEmptyDict_dict]
  · rw [hpy, isV2, dictGet_dict, hschema']
    rfl
  · rw [hpy, subjectRef_dict hsubject', subjectRef_dict hsubject, href']
    cases hr : PyVal.get? subject "ref" with
    | none => rfl
    | some ref =>
      have hplain : ref.plain = true := by
        simpa only [refPlain, hsubject, hr, Option.map_some, Option.getD_some] using href
      rw [Option.map_some, Option.getD_some, Option.getD_some,
        PyVal.toPy_stored ref hplain (member_keysStable hsk hr)]

theorem Appended.accepted {req : AppendRequest} {t t' : EventTable} {event : SystemEvent}
    (h : Appended rt req t t' event) : Accepted rt (orEmptyDict req.payloadJson) := by
  refine ⟨h.valid, ?_, (jsonStore_eq_some.1 h.stored).1⟩
  have hpayload := h.payloadHash
  unfold hashJson canonicalText at hpayload
  by_cases hc : (orEmptyDict req.payloadJson).canonical = true
  · exact hc
  · rw [if_neg hc] at hpayload
    cases hpayload

/-- An appended event with a stable payload is sealed. -/
theorem Appended.sealed {req : AppendRequest} {t t' : EventTable} {event : SystemEvent}
    (h : Appended rt req t t' event) (hreq : StoresStably rt req) : Sealed rt event := by
  obtain ⟨hk, hplain⟩ := hreq h.accepted
  obtain ⟨hdict, hv2, href⟩ := reads_stored req.aggregateId h.valid h.stored hk hplain
  have hpayload := h.payloadHash
  constructor
  · unfold hashJson at hpayload ⊢
    split at hpayload
    · rename_i text htext
      rw [canonicalText_stored hk h.stored htext]
      exact hpayload
    · cases hpayload
  · obtain ⟨ref, hr, hhash⟩ := h.eventHash
    unfold expectedEventHash
    simp only [hdict, hv2, ok_bind, if_true]
    rw [ h.aggregateId, href, hr, ok_bind, h.eventType,
      h.aggregateType, hhash]

/-! ## Runs -/

/-- The rows, in the order of append, are a chain of events with the given seal. -/
def ChainInv (stamped : SystemEvent → Prop) (t : EventTable) : Prop :=
  eventChain.Linked stamped 1 "" t.rows

/-- Rows numbered consecutively are already in the order of their numbers. -/
theorem bySeq_of_seq {t : EventTable} (h : t.rows.map SystemEvent.seq = List.range' 1 t.rows.length) :
    t.bySeq = t.rows := by
  have hsorted : t.rows.Pairwise fun a b => a.seq ≤ b.seq := by
    have hlt : (t.rows.map SystemEvent.seq).Pairwise (· < ·) := by
      rw [h]
      exact List.pairwise_lt_range'
    exact (List.pairwise_map.1 hlt).imp fun hab => Nat.le_of_lt hab
  exact List.Pairwise.insertionSort_eq hsorted

section

variable {stamped : SystemEvent → Prop} {t t' : EventTable}

theorem ChainInv.bySeq (h : ChainInv stamped t) : t.bySeq = t.rows :=
  bySeq_of_seq h.map_seq

/-- The next event goes to the end of the chain. -/
theorem ChainInv.next (h : ChainInv stamped t) :
    nextSeq t = 1 + t.rows.length ∧ nextPrevHash t = eventChain.tip "" t.rows := by
  have hlatest : t.latest = t.rows.getLast? := by rw [EventTable.latest, h.bySeq]
  unfold nextSeq nextPrevHash
  rw [hlatest]
  rcases List.eq_nil_or_concat t.rows with hrows | ⟨events, event, hrows⟩
  · rw [hrows]
    exact ⟨rfl, rfl⟩
  · rw [List.concat_eq_append] at hrows
    have hchain := h
    unfold ChainInv at hchain
    rw [hrows, ChainFormat.linked_concat] at hchain
    have hseq : event.seq = 1 + events.length := hchain.2.1
    rw [hrows, List.getLast?_concat, ChainFormat.tip_concat, List.length_append]
    refine ⟨?_, rfl⟩
    simp only [hseq, List.length_singleton]
    omega

theorem ChainInv.append {req : AppendRequest} {event : SystemEvent} (h : ChainInv stamped t)
    (happ : Appended rt req t t' event) (hseal : stamped event) : ChainInv stamped t' := by
  unfold ChainInv
  rw [happ.rows, ChainFormat.linked_concat]
  exact ⟨h, happ.seq.trans h.next.1, happ.prevHash.trans h.next.2, hseal⟩

end

/-- One `append_event` call on the table. -/
def appendStep (rt : Runtime) (t : EventTable) (req : AppendRequest) : Except Error EventTable := do
  let (t', _) ← appendEvent rt req t
  return t'

theorem appendStep_ok {t t' : EventTable} {req : AppendRequest}
    (h : appendStep rt t req = .ok t') : ∃ event, Appended rt req t t' event := by
  obtain ⟨⟨t'', event⟩, happ, hpure⟩ := bind_eq_ok.1 h
  obtain rfl := pure_eq_ok.1 hpure
  exact ⟨event, appendEvent_ok happ⟩

/-- The table after a list of `append_event` calls, made from an empty one. -/
def appendRun (rt : Runtime) (reqs : List AppendRequest) : EventTable :=
  runCalls (appendStep rt) EventTable.empty reqs

theorem appendRun_chainInv {reqs : List AppendRequest} (h : ∀ req ∈ reqs, StoresStably rt req) :
    ChainInv (Sealed rt) (appendRun rt reqs) := by
  have hcalls : EachCall (appendStep rt) (fun _ req => StoresStably rt req) EventTable.empty reqs :=
    EachCall.of_forall _ fun req hreq _ => h req hreq
  refine hcalls.invariant ?_ ?_
  · intro t req t' hinv hreq hstep
    obtain ⟨event, happ⟩ := appendStep_ok hstep
    exact hinv.append happ (happ.sealed hreq)
  · exact trivial

end

/-! ## A payload that does not verify -/

end LiveOs.EventLedger
