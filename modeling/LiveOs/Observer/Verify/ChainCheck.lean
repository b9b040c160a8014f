import LiveOs.EventLedger.Verify.Binding
import LiveOs.Observer.Model

/-!
# Per-event checks and the chain

The check of one event looks up the event numbered before it; the chain verifier carries its hash
along. Both ask of a record that its hashes are those of its content, so they agree on every table
that is numbered without gaps.
-/

namespace LiveOs.Observer

open Lib EventLedger

variable {rt : Runtime} {t : EventTable}

/-- A payload as the public format has it: an object whose subject is an object or absent. -/
def ObjectPayload (j : Json) : Prop :=
  ∃ es, j = .obj es ∧ ∀ subject, Json.get? es "subject" = some subject → ∃ fs, subject = .obj fs

/-- An empty object is the default it is replaced by. -/
theorem orEmptyDict_obj (es : List (String × Json)) :
    orEmptyDict (Json.obj es).toPy = (Json.obj es).toPy := by
  cases es with
  | nil => rfl
  | cons e es => rfl

theorem previousEvent_eq (event : SystemEvent) :
    ((previousEvent t event).map SystemEvent.eventHash).getD "" =
      eventChain.before "" t.bySeq event := rfl

/-- The record of a check whose previous hash is known to match or not. -/
theorem chainCheck_parts {event : SystemEvent} {prevHashValid hasPrevEvent : Bool} :
    (∃ c, (do
        let payloadHash ← hashJson rt event.payloadJson.toPy
        let expectedHash ← expectedEventHash rt event
        let payloadHashValid : Bool := payloadHash = event.payloadHash
        let eventHashValid : Bool := event.eventHash = expectedHash
        return (⟨payloadHashValid, prevHashValid, eventHashValid,
          payloadHashValid && prevHashValid && eventHashValid, hasPrevEvent⟩ : ChainCheck)) =
          Except.ok (ε := Error) c ∧ c.chainValid = true) ↔
      Sealed rt event ∧ prevHashValid = true := by
  constructor
  · rintro ⟨c, hc, hvalid⟩
    obtain ⟨payloadHash, hpayload, hc⟩ := bind_eq_ok.1 hc
    obtain ⟨expectedHash, hexpected, hc⟩ := bind_eq_ok.1 hc
    obtain rfl := pure_eq_ok.1 hc
    simp only [Bool.and_eq_true, decide_eq_true_eq] at hvalid
    obtain ⟨⟨rfl, hprevious⟩, hevent⟩ := hvalid
    exact ⟨⟨hpayload, hevent ▸ hexpected⟩, hprevious⟩
  · rintro ⟨hsealed, hprevious⟩
    refine ⟨_, bind_eq_ok.2 ⟨_, hsealed.payloadHash, bind_eq_ok.2 ⟨_, hsealed.eventHash, rfl⟩⟩, ?_⟩
    simp only [Bool.and_eq_true, decide_true, true_and, and_true]
    exact hprevious

/-- **One event.** The check succeeds exactly on a sealed event that carries the hash of the event
numbered before it. -/
theorem systemEventChainCheck_iff {event : SystemEvent} (hpayload : ObjectPayload event.payloadJson) :
    (∃ c, systemEventChainCheck rt t event = .ok c ∧ c.chainValid = true) ↔
      Sealed rt event ∧ eventChain.prev event = eventChain.before "" t.bySeq event := by
  obtain ⟨es, hes, -⟩ := hpayload
  have hor : orEmptyDict event.payloadJson.toPy = event.payloadJson.toPy := by
    rw [hes, orEmptyDict_obj]
  rw [← previousEvent_eq]
  unfold systemEventChainCheck
  rw [hor]
  cases previousEvent t event with
  | none => exact chainCheck_parts.trans (and_congr_right fun _ => decide_eq_true_iff)
  | some e => exact chainCheck_parts.trans (and_congr_right fun _ => decide_eq_true_iff)

theorem mem_bySeq {event : SystemEvent} : event ∈ t.bySeq ↔ event ∈ t.rows :=
  List.mem_insertionSort _

/-- **Per-event checks agree with the chain verifier.** -/
theorem systemEventChainCheck_agrees (rt : Runtime) (t : EventTable)
    (hpayloads : ∀ event ∈ t.rows, ObjectPayload event.payloadJson) :
    verifyEventChain rt t = .ok true ↔
      t.bySeq.map SystemEvent.seq = List.range' 1 t.rows.length ∧
      ∀ event ∈ t.rows, ∃ c, systemEventChainCheck rt t event = .ok c ∧ c.chainValid = true := by
  rw [verifyEventChain_iff, ChainFormat.linked_iff_before, length_bySeq]
  refine and_congr Iff.rfl (forall_congr' fun event => ?_)
  rw [mem_bySeq]
  exact imp_congr_right fun hmem => (systemEventChainCheck_iff (hpayloads event hmem)).symm

/-- The check of the one event of a table without gaps. -/
theorem legacyTable_agrees :
    verifyEventChain textRuntime (legacyTable [("day", .scalar (.int 1)), ("run", .str "a")] 0) =
        .ok true ↔
      (legacyTable [("day", .scalar (.int 1)), ("run", .str "a")] 0).bySeq.map SystemEvent.seq =
        List.range' 1 1 ∧
      ∀ event ∈ (legacyTable [("day", .scalar (.int 1)), ("run", .str "a")] 0).rows, ∃ c,
        systemEventChainCheck textRuntime
          (legacyTable [("day", .scalar (.int 1)), ("run", .str "a")] 0) event = .ok c ∧
        c.chainValid = true := by
  apply systemEventChainCheck_agrees
  intro event hevent
  obtain rfl := List.mem_singleton.1 hevent
  exact ⟨_, rfl, fun _ h => by cases h⟩

end LiveOs.Observer
