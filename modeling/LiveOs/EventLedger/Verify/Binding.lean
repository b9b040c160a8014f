import LiveOs.EventLedger.Chain
import LiveOs.Lib.HashChain
import LiveOs.Lib.JsonCanonical

/-!
# Verified event chains bind their content

`verify_event_chain` accepts a table exactly when its rows, by number, form a hash chain of sealed
events (`verifyEventChain_iff`). Under an injective digest an event hash determines the hashed
fields, whatever version each event is, so two verified tables of one length with one last hash
record the same events.
-/

namespace LiveOs.EventLedger

open Lib

/-- How events are chained. -/
def eventChain : ChainFormat SystemEvent String := ⟨(·.seq), (·.prevHash), (·.eventHash)⟩

/-- The two hashes of the event are those of its content. -/
structure Sealed (rt : Runtime) (event : SystemEvent) : Prop where
  payloadHash : hashJson rt event.payloadJson.toPy = .ok event.payloadHash
  eventHash : expectedEventHash rt event = .ok event.eventHash

section

variable {rt : Runtime}

theorem verifyFrom_iff (n : Nat) (p : String) (events : List SystemEvent) :
    verifyFrom rt n p events = .ok true ↔ eventChain.Linked (Sealed rt) n p events := by
  induction events generalizing n p with
  | nil => exact ⟨fun _ => trivial, fun _ => rfl⟩
  | cons event events ih =>
    rw [verifyFrom]
    by_cases hseq : event.seq = n
    swap
    · rw [if_pos hseq]
      exact ⟨nofun, fun h => absurd h.1 hseq⟩
    by_cases hprev : event.prevHash = p
    swap
    · rw [if_neg (not_not.2 hseq), if_pos hprev]
      exact ⟨nofun, fun h => absurd h.2.1 hprev⟩
    rw [if_neg (not_not.2 hseq), if_neg (not_not.2 hprev), bind_eq_ok]
    constructor
    · rintro ⟨payloadHash, hpayload, h⟩
      split at h
      · cases h
      · rename_i heq
        obtain ⟨eventHash, hevent, h⟩ := bind_eq_ok.1 h
        split at h
        · cases h
        · rename_i heq'
          rw [not_not] at heq heq'
          exact ⟨hseq, hprev, ⟨heq ▸ hpayload, heq' ▸ hevent⟩, (ih _ _).1 (hseq ▸ h)⟩
    · rintro ⟨-, -, hsealed, hrest⟩
      refine ⟨_, hsealed.payloadHash, ?_⟩
      rw [if_neg (not_not.2 rfl), hsealed.eventHash, ok_bind, if_neg (not_not.2 rfl)]
      exact (ih _ _).2 hrest

/-- **What verification means.** -/
theorem verifyEventChain_iff (t : EventTable) :
    verifyEventChain rt t = .ok true ↔ eventChain.Linked (Sealed rt) 1 "" t.bySeq :=
  verifyFrom_iff 1 "" t.bySeq

/-! ## Hash inputs -/

/-- The members of the v2 hash input. -/
def hashMembersV2 (seq : Nat) (eventType aggregateType subjectRef payloadHash prevHash : String) :
    List (String × Json) := [
  ("schema", .str "liveos.system-event-hash.v2"), ("seq", .scalar (.int seq)),
  ("event_type", .str eventType), ("aggregate_type", .str aggregateType),
  ("subject_ref", .str subjectRef), ("payload_hash", .str payloadHash), ("prev_hash", .str prevHash)]

theorem eventHashPayloadV2_eq (seq : Nat) (eventType aggregateType subjectRef payloadHash
    prevHash : String) :
    eventHashPayloadV2 seq eventType aggregateType subjectRef payloadHash prevHash =
      (Json.obj (hashMembersV2 seq eventType aggregateType subjectRef payloadHash prevHash)).toPy :=
  rfl

def optIntJson : Option Nat → Json
  | none => .scalar .none
  | some n => .scalar (.int n)

theorem optInt_eq (n : Option Nat) : optInt n = (optIntJson n).toPy := by cases n <;> rfl

/-- The members of the legacy hash input. -/
def hashMembersV1 (seq : Nat) (eventType aggregateType aggregateId : String)
    (actorMemberId actorRoleAssignmentId : Option Nat) (payloadHash prevHash : String) :
    List (String × Json) := [
  ("seq", .scalar (.int seq)), ("event_type", .str eventType),
  ("aggregate_type", .str aggregateType), ("aggregate_id", .str aggregateId),
  ("actor_member_id", optIntJson actorMemberId),
  ("actor_role_assignment_id", optIntJson actorRoleAssignmentId),
  ("payload_hash", .str payloadHash), ("prev_hash", .str prevHash)]

theorem eventHashPayload_eq (seq : Nat) (eventType aggregateType aggregateId : String)
    (actorMemberId actorRoleAssignmentId : Option Nat) (payloadHash prevHash : String) :
    eventHashPayload seq eventType aggregateType aggregateId actorMemberId actorRoleAssignmentId
        payloadHash prevHash =
      (Json.obj (hashMembersV1 seq eventType aggregateType aggregateId actorMemberId
        actorRoleAssignmentId payloadHash prevHash)).toPy := by
  rw [eventHashPayload, optInt_eq, optInt_eq]
  rfl

/-- The digest of a loaded document. -/
theorem hashJson_toPy (j : Json) :
    hashJson rt j.toPy = .ok (rt.sha256 (String.ofList j.toPy.canonicalTree.text)) := by
  rw [hashJson, canonicalText_toPy]

/-- Under an injective digest equal hashes mean the same document. -/
theorem same_of_hashJson (hinj : Function.Injective rt.sha256) {a b : Json}
    (h : hashJson rt a.toPy = hashJson rt b.toPy) : Json.Same a b := by
  rw [hashJson_toPy, hashJson_toPy, Except.ok.injEq] at h
  exact Json.same_of_canonicalTree a b (ofList_text_inj (hinj h))

theorem str_of_same {s t : String} (h : Json.Same (.str s) (.str t)) : s = t := by
  cases h; rfl

theorem nat_of_same {m n : Nat} (h : Json.Same (.scalar (.int m)) (.scalar (.int n))) : m = n := by
  cases h; rfl

/-! ## What an event hash determines -/

/-- The fields both versions hash under the same keys. -/
structure SameHashed (e f : SystemEvent) : Prop where
  seq : e.seq = f.seq
  eventType : e.eventType = f.eventType
  aggregateType : e.aggregateType = f.aggregateType
  payloadHash : e.payloadHash = f.payloadHash
  prevHash : e.prevHash = f.prevHash

/-- The members of the hash input of an event. -/
inductive HashInput (rt : Runtime) (e : SystemEvent) : List (String × Json) → Prop
  | v2 (ref : String) : HashInput rt e
      (hashMembersV2 e.seq e.eventType e.aggregateType ref e.payloadHash e.prevHash)
  | v1 : HashInput rt e (hashMembersV1 e.seq e.eventType e.aggregateType e.aggregateId
      e.actorMember e.actorRoleAssignment e.payloadHash e.prevHash)

theorem expectedEventHash_input {e : SystemEvent} {hash : String}
    (h : expectedEventHash rt e = .ok hash) :
    ∃ members, HashInput rt e members ∧ hashJson rt (Json.obj members).toPy = .ok hash := by
  rw [expectedEventHash] at h
  obtain ⟨v2, -, h⟩ := bind_eq_ok.1 h
  split at h
  · obtain ⟨ref, -, h⟩ := bind_eq_ok.1 h
    refine ⟨_, .v2 ref, ?_⟩
    rw [← eventHashPayloadV2_eq]
    exact h
  · refine ⟨_, .v1, ?_⟩
    rw [← eventHashPayload_eq]
    exact h

theorem HashInput.seq_mem {e : SystemEvent} {m : List (String × Json)} (h : HashInput rt e m) :
    ("seq", .scalar (.int e.seq)) ∈ m := by
  cases h <;> simp [hashMembersV2, hashMembersV1]

theorem HashInput.str_mem {e : SystemEvent} {m : List (String × Json)} (h : HashInput rt e m) :
    ("event_type", .str e.eventType) ∈ m ∧ ("aggregate_type", .str e.aggregateType) ∈ m ∧
      ("payload_hash", .str e.payloadHash) ∈ m ∧ ("prev_hash", .str e.prevHash) ∈ m := by
  cases h <;> simp [hashMembersV2, hashMembersV1]

theorem HashInput.nodup {e : SystemEvent} {m : List (String × Json)} (h : HashInput rt e m) :
    (m.map Prod.fst).Nodup := by
  cases h <;> simp [hashMembersV2, hashMembersV1]

/-- Only the v2 input names its schema. -/
theorem schema_mem_v2 (seq : Nat) (eventType aggregateType ref payloadHash prevHash : String) :
    "schema" ∈ (hashMembersV2 seq eventType aggregateType ref payloadHash prevHash).map Prod.fst := by
  simp [hashMembersV2]

theorem schema_not_mem_v1 (seq : Nat) (eventType aggregateType aggregateId : String)
    (actor role : Option Nat) (payloadHash prevHash : String) :
    "schema" ∉ (hashMembersV1 seq eventType aggregateType aggregateId actor role payloadHash
      prevHash).map Prod.fst := by
  simp [hashMembersV1]

/-- Events with one hash agree on the hashed fields: the inputs of the two versions have different
keys, and inputs of one version have equal values under each key. -/
theorem sameHashed_of_eventHash (hinj : Function.Injective rt.sha256) {e f : SystemEvent}
    (he : Sealed rt e) (hf : Sealed rt f) (h : e.eventHash = f.eventHash) : SameHashed e f := by
  obtain ⟨m, hm, hem⟩ := expectedEventHash_input he.eventHash
  obtain ⟨m', hm', hfm⟩ := expectedEventHash_input hf.eventHash
  have hsame : Json.Same (.obj m) (.obj m') := same_of_hashJson hinj (by rw [hem, hfm, h])
  obtain ⟨htype, hagg, hpayload, hprev⟩ := hm.str_mem
  obtain ⟨htype', hagg', hpayload', hprev'⟩ := hm'.str_mem
  exact {
    seq := nat_of_same (hsame.member hm'.nodup hm.seq_mem hm'.seq_mem)
    eventType := str_of_same (hsame.member hm'.nodup htype htype')
    aggregateType := str_of_same (hsame.member hm'.nodup hagg hagg')
    payloadHash := str_of_same (hsame.member hm'.nodup hpayload hpayload')
    prevHash := str_of_same (hsame.member hm'.nodup hprev hprev') }

/-- The two versions never share a hash. -/
theorem version_of_eventHash (hinj : Function.Injective rt.sha256) {e f : SystemEvent}
    {ref hash : String}
    (he : hashJson rt (eventHashPayloadV2 e.seq e.eventType e.aggregateType ref e.payloadHash
      e.prevHash) = .ok hash)
    (hf : hashJson rt (eventHashPayload f.seq f.eventType f.aggregateType f.aggregateId
      f.actorMember f.actorRoleAssignment f.payloadHash f.prevHash) = .ok hash) : False := by
  rw [eventHashPayloadV2_eq] at he
  rw [eventHashPayload_eq] at hf
  have hsame := same_of_hashJson hinj (he.trans hf.symm)
  exact schema_not_mem_v1 _ _ _ _ _ _ _ _ (hsame.keys.1 (schema_mem_v2 _ _ _ _ _ _))

/-! ## Binding -/

/-- Two rows record the same event. -/
structure SameEvent (e f : SystemEvent) : Prop where
  seq : e.seq = f.seq
  eventType : e.eventType = f.eventType
  aggregateType : e.aggregateType = f.aggregateType
  payloadJson : Json.Same e.payloadJson f.payloadJson
  payloadHash : e.payloadHash = f.payloadHash
  prevHash : e.prevHash = f.prevHash
  eventHash : e.eventHash = f.eventHash

theorem sameEvent_of_eventHash (hinj : Function.Injective rt.sha256) {e f : SystemEvent}
    (he : Sealed rt e) (hf : Sealed rt f) (h : e.eventHash = f.eventHash) : SameEvent e f := by
  have hs := sameHashed_of_eventHash hinj he hf h
  refine ⟨hs.seq, hs.eventType, hs.aggregateType, ?_, hs.payloadHash, hs.prevHash, h⟩
  exact same_of_hashJson hinj (by rw [he.payloadHash, hf.payloadHash, hs.payloadHash])

theorem tip_eq_latest (t : EventTable) :
    eventChain.tip "" t.bySeq = ((t.latest.map SystemEvent.eventHash).getD "") := by
  rw [EventTable.latest]
  rcases List.eq_nil_or_concat t.bySeq with h | ⟨events, event, h⟩
  · rw [h]; rfl
  · rw [h, List.concat_eq_append, ChainFormat.tip_concat, List.getLast?_concat]; rfl

theorem length_bySeq (t : EventTable) : t.bySeq.length = t.rows.length :=
  (t.rows.perm_insertionSort _).length_eq

/-- **Hash-chain binding.** Two verified event tables with the same number of events and the same
hash on the last one record the same events at every position. -/
theorem verifyEventChain_binding (rt : Runtime) (hinj : Function.Injective rt.sha256)
    (a b : EventTable) (ha : verifyEventChain rt a = .ok true)
    (hb : verifyEventChain rt b = .ok true) (hlen : a.rows.length = b.rows.length)
    (hlast : a.latest.map SystemEvent.eventHash = b.latest.map SystemEvent.eventHash) :
    List.Forall₂ SameEvent a.bySeq b.bySeq := by
  have hla := (verifyEventChain_iff a).1 ha
  have hlb := (verifyEventChain_iff b).1 hb
  refine hla.binding (fun e f he hf h => ?_) hlb ?_ ?_
  · have hsame := sameEvent_of_eventHash hinj he hf h
    exact ⟨hsame, hsame.prevHash⟩
  · rw [length_bySeq, length_bySeq, hlen]
  · rw [tip_eq_latest, tip_eq_latest, hlast]

end

/-- A table with one legacy event; its payload has two members in the given order. -/
def legacyTable (payload : List (String × Json)) (occurredAt : Nat) : EventTable where
  rows := [{
    seq := 1
    eventType := "simulation_day"
    aggregateType := "simulation"
    aggregateId := "1"
    actorMember := none
    actorRoleAssignment := none
    payloadJson := .obj payload
    payloadHash := "\x7b\"day\":1,\"run\":\"a\"\x7d"
    prevHash := ""
    eventHash := "\x7b\"actor_member_id\":null,\"actor_role_assignment_id\":null," ++
      "\"aggregate_id\":\"1\",\"aggregate_type\":\"simulation\"," ++
      "\"event_type\":\"simulation_day\"," ++
      "\"payload_hash\":\"\x7b\\\"day\\\":1,\\\"run\\\":\\\"a\\\"\x7d\"," ++
      "\"prev_hash\":\"\",\"seq\":1\x7d"
    occurredAt := occurredAt }]
  seqUnique := List.nodup_singleton _
  hashUnique := List.nodup_singleton _

theorem verifyEventChain_binding_legacy :
    List.Forall₂ SameEvent (legacyTable [("day", .scalar (.int 1)), ("run", .str "a")] 0).bySeq
      (legacyTable [("run", .str "a"), ("day", .scalar (.int 1))] 7).bySeq := by
  apply verifyEventChain_binding textRuntime Function.injective_id
  · decide +kernel
  · decide +kernel
  · rfl
  · rfl

end LiveOs.EventLedger
