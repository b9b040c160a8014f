import LiveOs.Observer.Verify.Pages

/-!
# Two databases that differ in one refused payload

Two databases hold the same rows but for the payload of one event, refused by the validator in
both. The list rows, the detail pages and the proof rows of public events are the same.
-/

namespace LiveOs.Observer

open Lib EventLedger Roles

variable {rt : Runtime} {t : EventTable} {db : ObserverDb} {e : SystemEvent} {seq : Nat} {doc : Json}

/-! ## The other table -/

/-- The event with the document stored in it, if it is the one of the given number. -/
def storeAt (seq : Nat) (doc : Json) (event : SystemEvent) : SystemEvent :=
  if event.seq = seq then { event with payloadJson := doc } else event

theorem storeAt_self (event : SystemEvent) (doc : Json) :
    storeAt event.seq doc event = { event with payloadJson := doc } := if_pos rfl

theorem storeAt_of_ne {seq : Nat} {doc : Json} {event : SystemEvent} (h : event.seq ≠ seq) :
    storeAt seq doc event = event := if_neg h

@[simp] theorem storeAt_seq (seq : Nat) (doc : Json) (event : SystemEvent) :
    (storeAt seq doc event).seq = event.seq := by
  unfold storeAt
  split <;> rfl

@[simp] theorem storeAt_eventHash (seq : Nat) (doc : Json) (event : SystemEvent) :
    (storeAt seq doc event).eventHash = event.eventHash := by
  unfold storeAt
  split <;> rfl

/-- The table with another document in the payload of one event. -/
def withPayload (t : EventTable) (seq : Nat) (doc : Json) : EventTable where
  rows := t.rows.map (storeAt seq doc)
  seqUnique := by
    have hsame : SystemEvent.seq ∘ storeAt seq doc = SystemEvent.seq :=
      funext fun event => storeAt_seq seq doc event
    rw [List.map_map, hsame]
    exact t.seqUnique
  hashUnique := by
    have hsame : SystemEvent.eventHash ∘ storeAt seq doc = SystemEvent.eventHash :=
      funext fun event => storeAt_eventHash seq doc event
    rw [List.map_map, hsame]
    exact t.hashUnique

theorem bySeq_withPayload : (withPayload t seq doc).bySeq = t.bySeq.map (storeAt seq doc) := by
  refine (List.map_insertionSort _ _ _ _ ?_).symm
  intro a _ b _
  rw [storeAt_seq, storeAt_seq]

theorem previousEvent_withPayload (event : SystemEvent) :
    previousEvent (withPayload t seq doc) event =
      (previousEvent t event).map (storeAt seq doc) := by
  have hsame : (fun e : SystemEvent => decide (e.seq + 1 = event.seq)) ∘ storeAt seq doc =
      fun e => decide (e.seq + 1 = event.seq) := by
    funext e
    rw [Function.comp_apply, storeAt_seq]
  rw [previousEvent, bySeq_withPayload, List.find?_map, hsame]
  rfl

/-- The check of an event reads the table for the hash of the event before it only. -/
theorem systemEventChainCheck_withPayload (event : SystemEvent) :
    systemEventChainCheck rt (withPayload t seq doc) event = systemEventChainCheck rt t event := by
  unfold systemEventChainCheck
  rw [previousEvent_withPayload]
  cases previousEvent t event with
  | none => rfl
  | some e => simp only [Option.map_some, storeAt_eventHash, Option.isSome_some]

/-- Two rows of one number are one row. -/
theorem eq_of_seq {e event : SystemEvent} (he : e ∈ t.rows) (hevent : event ∈ t.rows)
    (h : event.seq = e.seq) : event = e :=
  List.inj_on_of_nodup_map t.seqUnique hevent he h

/-- A query that does not tell the two payloads apart selects the same rows. -/
theorem filter_withPayload {e : SystemEvent} (he : e ∈ t.rows) {p : SystemEvent → Bool}
    (hp : p { e with payloadJson := doc } = p e) {events : List SystemEvent}
    (hevents : ∀ event ∈ events, event ∈ t.rows) :
    (events.map (storeAt e.seq doc)).filter p = (events.filter p).map (storeAt e.seq doc) := by
  rw [List.filter_map]
  congr 1
  apply List.filter_congr
  intro event hmem
  rw [Function.comp_apply]
  by_cases h : event.seq = e.seq
  · obtain rfl := eq_of_seq he (hevents event hmem) h
    rw [storeAt_self, hp]
  · rw [storeAt_of_ne h]
/-! ## Two databases -/

/-- The event with the other document. -/
def twin (e : SystemEvent) (doc : Json) : SystemEvent := { e with payloadJson := doc }

/-- The database with the other document in the payload of the event. -/
def twinDb (db : ObserverDb) (e : SystemEvent) (doc : Json) : ObserverDb :=
  { db with events := withPayload db.events e.seq doc }

/-- The two payloads of an event: of the public schema, refused, with one subject reference, and
with the same outcome of the chain check. -/
structure Twins (rt : Runtime) (t : EventTable) (e : SystemEvent) (doc : Json) : Prop where
  stored : e ∈ t.rows
  v2 : isV2 (payloadOf e) = .ok true
  twinV2 : isV2 (payloadOf (twin e doc)) = .ok true
  refused : ∃ message, validatePublicLedgerPayload rt (payloadOf e) = .error (.value message)
  twinRefused :
    ∃ message, validatePublicLedgerPayload rt (payloadOf (twin e doc)) = .error (.value message)
  subjectRef : subjectRef rt (payloadOf (twin e doc)) e.aggregateId =
    subjectRef rt (payloadOf e) e.aggregateId
  flags : systemEventChainCheck rt (withPayload t e.seq doc) (twin e doc) =
    systemEventChainCheck rt t e

/-- A payload of the public schema that the validator refuses. -/
structure Refused (rt : Runtime) (event : SystemEvent) : Prop where
  v2 : isV2 (payloadOf event) = .ok true
  fails : passesValidation rt (payloadOf event) = .ok false

theorem passesValidation_refused {payload : PyVal}
    (h : ∃ message, validatePublicLedgerPayload rt payload = .error (.value message)) :
    passesValidation rt payload = .ok false := by
  obtain ⟨message, h⟩ := h
  rw [passesValidation, h]

theorem Twins.first (h : Twins rt t e doc) : Refused rt e :=
  ⟨h.v2, passesValidation_refused h.refused⟩

theorem Twins.second (h : Twins rt t e doc) : Refused rt (twin e doc) :=
  ⟨h.twinV2, passesValidation_refused h.twinRefused⟩
/-! ## What is hidden -/

theorem publicSubjectRef_refused (h : Refused rt e) : publicSubjectRef rt e = .ok "" := by
  unfold publicSubjectRef
  simp only [h.v2, h.fails, ok_bind]
  rfl

theorem publicSystemEventPayload_refused (h : Refused rt e) :
    publicSystemEventPayload rt e = .ok unsafeStatus := by
  unfold publicSystemEventPayload
  simp only [h.v2, h.fails, ok_bind]
  rfl

theorem proofDisplay_refused (h : Refused rt e) :
    proofDisplay rt e true = .ok (unsafeStatus, false, unsafeNote) := by
  unfold proofDisplay
  simp only [publicSystemEventPayload_refused h, h.fails, ok_bind, if_true]
  rfl

/-- The list row of a refused payload. -/
theorem publicSystemEventRow_twin (h : Twins rt db.events e doc) :
    publicSystemEventRow rt (twinDb db e doc) (twin e doc) = publicSystemEventRow rt db e := by
  unfold publicSystemEventRow
  rw [publicSubjectRef_refused h.first, publicSubjectRef_refused h.second]
  rfl

theorem publicSystemEventDetail_twin (h : Twins rt db.events e doc) :
    publicSystemEventDetail rt (twinDb db e doc) (twin e doc) =
      publicSystemEventDetail rt db e := by
  unfold publicSystemEventDetail
  rw [publicSubjectRef_refused h.first, publicSubjectRef_refused h.second,
    publicSystemEventPayload_refused h.first, publicSystemEventPayload_refused h.second]
  exact congrArg (· >>= _) h.flags

/-- The proof of an event whose payload is refused. -/
def refusedProof (event : SystemEvent) (chain : ChainCheck) (inputScriptId : String) :
    ProofRow where
  payloadHash := event.payloadHash
  prevHash := event.prevHash
  eventHash := event.eventHash
  eventHashShort := shortHash event.eventHash
  chain := chain
  audit := .hidden
  payloadPublicDisplay := unsafeStatus
  payloadPublic := .dict []
  payloadCanonicalJson := ""
  payloadJsonScriptId := "audit-payload-json-" ++ toString event.seq
  eventHashInputJsonScriptId := inputScriptId ++ toString event.seq
  canBrowserVerify := false
  legacyNote := unsafeNote
  isNewSchema := true

theorem makeSingleProofRow_refused (h : Refused rt e) :
    makeSingleProofRow rt t e = systemEventChainCheck rt t e >>= fun chain =>
      .ok (refusedProof e chain "audit-input-json-") := by
  unfold makeSingleProofRow
  simp only [h.v2, proofDisplay_refused h, ok_bind]
  rfl

theorem eventProofRow_refused (h : Refused rt e) :
    eventProofRow rt t e = systemEventChainCheck rt t e >>= fun chain =>
      .ok ⟨e.seq, eventTypeDisplay e, e.occurredAt, e.aggregateType,
        refusedProof e chain "audit-event-hash-input-json-"⟩ := by
  unfold eventProofRow
  simp only [h.v2, proofDisplay_refused h, ok_bind]
  rfl

theorem makeSingleProofRow_twin (h : Twins rt t e doc) :
    makeSingleProofRow rt (withPayload t e.seq doc) (twin e doc) = makeSingleProofRow rt t e := by
  rw [makeSingleProofRow_refused h.first, makeSingleProofRow_refused h.second, h.flags]
  rfl

theorem eventProofRow_twin (h : Twins rt t e doc) :
    eventProofRow rt (withPayload t e.seq doc) (twin e doc) = eventProofRow rt t e := by
  rw [eventProofRow_refused h.first, eventProofRow_refused h.second, h.flags]
  rfl
/-! ## The other events -/

theorem makeSingleProofRow_withPayload (event : SystemEvent) :
    makeSingleProofRow rt (withPayload t seq doc) event = makeSingleProofRow rt t event := by
  unfold makeSingleProofRow
  rw [systemEventChainCheck_withPayload]

theorem eventProofRow_withPayload (event : SystemEvent) :
    eventProofRow rt (withPayload t seq doc) event = eventProofRow rt t event := by
  unfold eventProofRow
  simp only [systemEventChainCheck_withPayload]

theorem activityRow_withPayload (event : SystemEvent) :
    activityRow rt (withPayload t seq doc) event = activityRow rt t event := by
  unfold activityRow
  rw [systemEventChainCheck_withPayload]

theorem timelineItem_twinDb (event : SystemEvent) :
    timelineItem rt (twinDb db e doc) event = timelineItem rt db event := by
  unfold timelineItem
  rw [show (twinDb db e doc).events = withPayload db.events e.seq doc from rfl,
    makeSingleProofRow_withPayload]
  rfl
/-! ## Proof rows of a public event -/

theorem selectEvents_twin (he : e ∈ t.rows) {query : List Lookup}
    (hquery : query.any (Lookup.holds (twin e doc)) = query.any (Lookup.holds e)) :
    selectEvents (withPayload t e.seq doc) query =
      (selectEvents t query).map (storeAt e.seq doc) := by
  rw [selectEvents, bySeq_withPayload]
  exact filter_withPayload he hquery fun _ => mem_bySeq.1

theorem proofRows_twin (h : Twins rt t e doc) {event : AuditedEvent} {limit : Nat}
    (hquery : ∀ query, systemEventFilterForPublicEvent rt event = .ok query →
      query.any (Lookup.holds (twin e doc)) = query.any (Lookup.holds e)) :
    publicSystemEventProofRowsForEvent rt (withPayload t e.seq doc) event limit =
      publicSystemEventProofRowsForEvent rt t event limit := by
  unfold publicSystemEventProofRowsForEvent
  cases hfilter : systemEventFilterForPublicEvent rt event with
  | error err => rfl
  | ok query =>
    simp only [ok_bind]
    split
    · rfl
    · rw [selectEvents_twin h.stored (hquery query hfilter), ← List.map_take, List.mapM_map]
      apply mapM_congr
      intro se hse
      have hrow : se ∈ t.rows := mem_bySeq.1 (List.mem_of_mem_filter (List.mem_of_mem_take hse))
      by_cases hseq : se.seq = e.seq
      · obtain rfl := eq_of_seq h.stored hrow hseq
        rw [Function.comp_apply, storeAt_self]
        exact eventProofRow_twin h
      · rw [Function.comp_apply, storeAt_of_ne hseq, eventProofRow_withPayload]
/-! ## The list rows and detail pages of all events -/

theorem publicSystemEventRow_storeAt (h : Twins rt db.events e doc) {se : SystemEvent}
    (hse : se ∈ db.events.rows) :
    publicSystemEventRow rt (twinDb db e doc) (storeAt e.seq doc se) =
      publicSystemEventRow rt db se := by
  by_cases hseq : se.seq = e.seq
  · obtain rfl := eq_of_seq h.stored hse hseq
    rw [storeAt_self]
    exact publicSystemEventRow_twin h
  · rw [storeAt_of_ne hseq]
    rfl

theorem publicSystemEventDetail_storeAt (h : Twins rt db.events e doc) {se : SystemEvent}
    (hse : se ∈ db.events.rows) :
    publicSystemEventDetail rt (twinDb db e doc) (storeAt e.seq doc se) =
      publicSystemEventDetail rt db se := by
  by_cases hseq : se.seq = e.seq
  · obtain rfl := eq_of_seq h.stored hse hseq
    rw [storeAt_self]
    exact publicSystemEventDetail_twin h
  · rw [storeAt_of_ne hseq]
    unfold publicSystemEventDetail
    rw [show (twinDb db e doc).events = withPayload db.events e.seq doc from rfl,
      systemEventChainCheck_withPayload]
    rfl
end LiveOs.Observer
