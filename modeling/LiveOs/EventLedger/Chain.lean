import LiveOs.EventLedger.Validator
import Mathlib.Data.List.Sort

/-!
# The system event ledger

The event table, the hash inputs of both versions, `append_event` and `verify_event_chain` of
`core/event_ledger.py`. A payload is a Python value on the way in and a JSON document once it is
stored.
-/

namespace LiveOs.EventLedger

open Lib

/-- A row of `core_system_event`. -/
structure SystemEvent where
  seq : Nat
  eventType : String
  aggregateType : String
  aggregateId : String
  actorMember : Option Nat
  actorRoleAssignment : Option Nat
  payloadJson : Json
  payloadHash : String
  prevHash : String
  eventHash : String
  occurredAt : Nat

/-- The table with its two unique columns. -/
structure EventTable where
  rows : List SystemEvent
  seqUnique : (rows.map SystemEvent.seq).Nodup
  hashUnique : (rows.map SystemEvent.eventHash).Nodup

namespace EventTable

def empty : EventTable := ⟨[], List.nodup_nil, List.nodup_nil⟩

/-- `SystemEvent.objects.order_by("seq")`. -/
def bySeq (t : EventTable) : List SystemEvent := t.rows.insertionSort fun a b => a.seq ≤ b.seq

/-- `SystemEvent.objects.order_by("-seq").first()`. -/
def latest (t : EventTable) : Option SystemEvent := t.bySeq.getLast?

/-- `event.save(force_insert=True)` under the unique constraints. -/
def insert (t : EventTable) (event : SystemEvent) : Except Error EventTable :=
  if hs : event.seq ∈ t.rows.map SystemEvent.seq then .error .integrity
  else if hh : event.eventHash ∈ t.rows.map SystemEvent.eventHash then .error .integrity
  else .ok {
    rows := t.rows ++ [event]
    seqUnique := by
      rw [List.map_append, List.nodup_append]
      refine ⟨t.seqUnique, by simp, ?_⟩
      rintro _ ha _ hb rfl
      exact hs ((List.mem_singleton.1 hb) ▸ ha)
    hashUnique := by
      rw [List.map_append, List.nodup_append]
      refine ⟨t.hashUnique, by simp, ?_⟩
      rintro _ ha _ hb rfl
      exact hh ((List.mem_singleton.1 hb) ▸ ha) }

/-- `SystemEvent.objects.filter(p).delete()`; `save` refuses to change a row, this does not. -/
def delete (t : EventTable) (p : SystemEvent → Bool) : EventTable where
  rows := t.rows.filter fun event => !p event
  seqUnique := t.seqUnique.sublist (List.filter_sublist.map _)
  hashUnique := t.hashUnique.sublist (List.filter_sublist.map _)

end EventTable

/-! ## Hashes -/

/-- `hash_json(value)`. -/
def hashJson (rt : Runtime) (value : PyVal) : Except Error String :=
  match canonicalText value with
  | some text => .ok (rt.sha256 text)
  | none => .error .type

def optInt : Option Nat → PyVal
  | none => .scalar .none
  | some n => .scalar (.int n)

/-- `event_hash_payload_v2(...)`. -/
def eventHashPayloadV2 (seq : Nat) (eventType aggregateType subjectRef payloadHash
    prevHash : String) : PyVal :=
  .dict [
    (.str "schema", .str "liveos.system-event-hash.v2"),
    (.str "seq", .scalar (.int seq)),
    (.str "event_type", .str eventType),
    (.str "aggregate_type", .str aggregateType),
    (.str "subject_ref", .str subjectRef),
    (.str "payload_hash", .str payloadHash),
    (.str "prev_hash", .str prevHash)]

/-- `compute_event_hash_v2(...)`. -/
def computeEventHashV2 (rt : Runtime) (seq : Nat) (eventType aggregateType subjectRef payloadHash
    prevHash : String) : Except Error String :=
  hashJson rt (eventHashPayloadV2 seq eventType aggregateType subjectRef payloadHash prevHash)

/-- `event_hash_payload(...)`, the legacy input. -/
def eventHashPayload (seq : Nat) (eventType aggregateType aggregateId : String)
    (actorMemberId actorRoleAssignmentId : Option Nat) (payloadHash prevHash : String) : PyVal :=
  .dict [
    (.str "seq", .scalar (.int seq)),
    (.str "event_type", .str eventType),
    (.str "aggregate_type", .str aggregateType),
    (.str "aggregate_id", .str aggregateId),
    (.str "actor_member_id", optInt actorMemberId),
    (.str "actor_role_assignment_id", optInt actorRoleAssignmentId),
    (.str "payload_hash", .str payloadHash),
    (.str "prev_hash", .str prevHash)]

/-- `compute_event_hash(...)`. -/
def computeEventHash (rt : Runtime) (seq : Nat) (eventType aggregateType aggregateId : String)
    (actorMemberId actorRoleAssignmentId : Option Nat) (payloadHash prevHash : String) :
    Except Error String :=
  hashJson rt (eventHashPayload seq eventType aggregateType aggregateId actorMemberId
    actorRoleAssignmentId payloadHash prevHash)

/-! ## Reading a payload -/

/-- `v or {}`. -/
def orEmptyDict (v : PyVal) : PyVal := if v.truthy then v else .dict []

/-- `v.get(key, default)`; only dicts have the method. -/
def dictGet (v : PyVal) (key : String) (default : PyVal) : Except Error PyVal :=
  match v with
  | .dict es => .ok ((PyVal.get? es key).getD default)
  | _ => .error .attribute

/-- `str((payload.get("subject") or {}).get("ref", aggregate_id))`. -/
def subjectRef (rt : Runtime) (payload : PyVal) (aggregateId : String) : Except Error String := do
  let subject ← dictGet payload "subject" (.scalar .none)
  let ref ← dictGet (orEmptyDict subject) "ref" (.str aggregateId)
  return rt.str ref

/-! ## `append_event` -/

/-- The arguments of `append_event`, with the clock. -/
structure AppendRequest where
  eventType : String
  aggregateType : String
  aggregateId : String
  actorMember : Option Nat := none
  actorRoleAssignment : Option Nat := none
  payloadJson : PyVal
  occurredAt : Option Nat := none
  now : Nat

/-- `1 if latest is None else latest.seq + 1`. -/
def nextSeq (t : EventTable) : Nat :=
  match t.latest with
  | none => 1
  | some event => event.seq + 1

/-- `"" if latest is None else latest.event_hash`. -/
def nextPrevHash (t : EventTable) : String :=
  match t.latest with
  | none => ""
  | some event => event.eventHash

/-- One attempt inside `transaction.atomic`. -/
def appendAttempt (rt : Runtime) (req : AppendRequest) (payload : PyVal) (ref : String)
    (t : EventTable) : Except Error (EventTable × SystemEvent) := do
  let seq := nextSeq t
  let prevHash := nextPrevHash t
  let payloadHash ← hashJson rt payload
  let eventHash ← computeEventHashV2 rt seq req.eventType req.aggregateType ref payloadHash prevHash
  match jsonStore payload with
  | none => .error .type
  | some doc =>
    let event : SystemEvent := {
      seq := seq
      eventType := req.eventType
      aggregateType := req.aggregateType
      aggregateId := req.aggregateId
      actorMember := req.actorMember
      actorRoleAssignment := req.actorRoleAssignment
      payloadJson := doc
      payloadHash := payloadHash
      prevHash := prevHash
      eventHash := eventHash
      occurredAt := req.occurredAt.getD req.now }
    let t' ← t.insert event
    return (t', event)

/-- The retry loop: another attempt after an `IntegrityError`, the last of which is raised. -/
def appendLoop {α : Type} (attempt : Except Error α) (lastError : Option Error) :
    Nat → Except Error α
  | 0 => match lastError with
    | some e => .error e
    | none => .error (.runtime "Failed to append system event.")
  | n + 1 => match attempt with
    | .error .integrity => appendLoop attempt (some .integrity) n
    | result => result

/-- `append_event(...)`. -/
def appendEvent (rt : Runtime) (req : AppendRequest) (t : EventTable) :
    Except Error (EventTable × SystemEvent) := do
  let payload := orEmptyDict req.payloadJson
  let schema ← dictGet payload "schema" (.str "")
  rejectIf (schema.isStr publicLedgerSchema = false)
    (.value ("SystemEvent.payload_json must use schema '" ++ publicLedgerSchema ++ "', got '" ++
      rt.str schema ++ "'. Use core.event_payloads helpers to build compliant payloads."))
  validatePublicLedgerPayload rt payload
  let ref ← subjectRef rt payload req.aggregateId
  appendLoop (appendAttempt rt req payload ref t) none 3

/-! ## `verify_event_chain` -/

/-- `payload.get("schema") == PUBLIC_LEDGER_SCHEMA`. -/
def isV2 (payload : PyVal) : Except Error Bool := do
  let schema ← dictGet payload "schema" (.scalar .none)
  return schema.isStr publicLedgerSchema

/-- The hash a stored event has to carry, by the version its payload selects. -/
def expectedEventHash (rt : Runtime) (event : SystemEvent) : Except Error String := do
  let payload := orEmptyDict event.payloadJson.toPy
  if ← isV2 payload then
    let ref ← subjectRef rt payload event.aggregateId
    computeEventHashV2 rt event.seq event.eventType event.aggregateType ref event.payloadHash
      event.prevHash
  else
    computeEventHash rt event.seq event.eventType event.aggregateType event.aggregateId
      event.actorMember event.actorRoleAssignment event.payloadHash event.prevHash

/-- The loop of `verify_event_chain` from an expected number and an expected previous hash. -/
def verifyFrom (rt : Runtime) (expectedSeq : Nat) (expectedPrevHash : String) :
    List SystemEvent → Except Error Bool
  | [] => .ok true
  | event :: events =>
    if event.seq ≠ expectedSeq then .ok false
    else if event.prevHash ≠ expectedPrevHash then .ok false
    else do
      let expectedPayloadHash ← hashJson rt event.payloadJson.toPy
      if event.payloadHash ≠ expectedPayloadHash then .ok false
      else do
        let expectedHash ← expectedEventHash rt event
        if event.eventHash ≠ expectedHash then .ok false
        else verifyFrom rt (expectedSeq + 1) event.eventHash events

/-- `verify_event_chain()`. -/
def verifyEventChain (rt : Runtime) (t : EventTable) : Except Error Bool :=
  verifyFrom rt 1 "" t.bySeq

/-! ## A payload in the public format -/

/-- A task event with the given facts and commitments. -/
def publicPayload (facts : List (PyKey × PyVal)) (commitments : List PyVal) : PyVal :=
  .dict [(.str "schema", .str publicLedgerSchema),
    (.str "subject", .dict [(.str "type", .str "task"), (.str "ref", .str "task:1"),
      (.str "label", .str "Task")]),
    (.str "action", .str "create"), (.str "stage", .str "draft"), (.str "summary", .str "Created"),
    (.str "public_facts", .dict facts), (.str "private_commitments", .list commitments)]

def taskRequest (facts : List (PyKey × PyVal)) (commitments : List PyVal) : AppendRequest where
  eventType := "task_created"
  aggregateType := "task"
  aggregateId := "1"
  payloadJson := publicPayload facts commitments
  now := 0

end LiveOs.EventLedger
