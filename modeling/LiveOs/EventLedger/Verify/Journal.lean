import LiveOs.EventLedger.Journal
import LiveOs.EventLedger.Verify.Append

/-!
# The table accepts the journal

Replaying the calls of a journal on the event table succeeds call by call when the digest does not
collide: every row is hashed with its own number, so no new event hash is taken.
-/

namespace LiveOs.EventLedger

open Lib

section

variable {rt : Runtime}

/-- The event hash is the v2 hash of the event's own number and fields, for some subject. -/
def HashedV2 (rt : Runtime) (event : SystemEvent) : Prop :=
  ∃ ref, computeEventHashV2 rt event.seq event.eventType event.aggregateType ref event.payloadHash
    event.prevHash = .ok event.eventHash

theorem Appended.hashedV2 {req : AppendRequest} {t t' : EventTable} {event : SystemEvent}
    (h : Appended rt req t t' event) : HashedV2 rt event := by
  obtain ⟨ref, -, hhash⟩ := h.eventHash
  exact ⟨ref, by rw [h.eventType, h.aggregateType, hhash]⟩

/-- v2 hashes of different numbers differ. -/
theorem seq_of_hashV2 (hinj : Function.Injective rt.sha256) {m n : Nat}
    {a b c p q a' b' c' p' q' hash : String}
    (h : computeEventHashV2 rt m a b c p q = .ok hash)
    (h' : computeEventHashV2 rt n a' b' c' p' q' = .ok hash) : m = n := by
  unfold computeEventHashV2 at h h'
  rw [eventHashPayloadV2_eq] at h h'
  have hsame := same_of_hashJson hinj (h.trans h'.symm)
  exact nat_of_same (hsame.member (by simp [hashMembersV2]) (k := "seq") (by simp [hashMembersV2])
    (by simp [hashMembersV2]))

/-- An event with a new number and a new hash is saved. -/
theorem insert_of_fresh {t : EventTable} {event : SystemEvent}
    (hs : event.seq ∉ t.rows.map SystemEvent.seq)
    (hh : event.eventHash ∉ t.rows.map SystemEvent.eventHash) :
    ∃ r, (t.insert event >>= fun t' => pure (t', event)) = .ok r := by
  unfold EventTable.insert
  rw [dif_neg hs, dif_neg hh]
  exact ⟨_, rfl⟩

theorem computeEventHashV2_ok (seq : Nat) (a b c p q : String) :
    ∃ hash, computeEventHashV2 rt seq a b c p q = .ok hash := by
  unfold computeEventHashV2
  rw [eventHashPayloadV2_eq, hashJson_toPy]
  exact ⟨_, rfl⟩

/-- The checks of a request that passes them all. -/
theorem checkRequest_ok {req : AppendRequest} (h : checkRequest rt req = .ok ()) :
    Accepted rt (orEmptyDict req.payloadJson) ∧
      ∃ ref, subjectRef rt (orEmptyDict req.payloadJson) req.aggregateId = .ok ref := by
  unfold checkRequest at h
  obtain ⟨schema, -, h⟩ := bind_eq_ok.1 h
  obtain ⟨-, h⟩ := rejectIf_bind_eq_ok.1 h
  obtain ⟨_, hvalid, h⟩ := bind_eq_ok.1 h
  obtain ⟨ref, href, h⟩ := bind_eq_ok.1 h
  obtain ⟨hc, h⟩ := rejectIf_bind_eq_ok.1 h
  have hd := rejectIf_eq_ok.1 h
  exact ⟨⟨hvalid, by simpa using hc, by simpa using hd⟩, ref, href⟩

/-- On a chain hashed by its own numbers an admitted call succeeds. -/
theorem appendEvent_of_checkRequest (hinj : Function.Injective rt.sha256) {t : EventTable}
    (ht : ChainInv (HashedV2 rt) t) {req : AppendRequest} (h : checkRequest rt req = .ok ()) :
    ∃ t' event, appendEvent rt req t = .ok (t', event) := by
  obtain ⟨haccepted, ref, href⟩ := checkRequest_ok h
  obtain ⟨eventHash, hhash⟩ := @computeEventHashV2_ok rt (nextSeq t) req.eventType
    req.aggregateType ref (rt.sha256 (String.ofList
      (orEmptyDict req.payloadJson).canonicalTree.text)) (nextPrevHash t)
  have hpayload : hashJson rt (orEmptyDict req.payloadJson) =
      .ok (rt.sha256 (String.ofList (orEmptyDict req.payloadJson).canonicalTree.text)) := by
    rw [hashJson, canonicalText, if_pos haccepted.canonical]
  have hstore : jsonStore (orEmptyDict req.payloadJson) =
      some (orEmptyDict req.payloadJson).stored := if_pos haccepted.dumpable
  -- the number is new, and with it the hash
  have hseq : nextSeq t ∉ t.rows.map SystemEvent.seq := by
    rw [show t.rows.map SystemEvent.seq = List.range' 1 t.rows.length from ht.map_seq, ht.next.1,
      List.mem_range']
    rintro ⟨i, hi, heq⟩
    omega
  have hfresh : eventHash ∉ t.rows.map SystemEvent.eventHash := by
    intro hmem
    obtain ⟨e, he, rfl⟩ := List.mem_map.1 hmem
    obtain ⟨ref', hhash'⟩ := ht.sealed_of_mem he
    rw [seq_of_hashV2 hinj hhash hhash'] at hseq
    exact hseq (List.mem_map_of_mem he)
  have hattempt : ∃ r, appendAttempt rt req (orEmptyDict req.payloadJson) ref t = .ok r := by
    unfold appendAttempt
    simp only [hpayload, hstore, hhash, ok_bind]
    exact insert_of_fresh hseq hfresh
  obtain ⟨⟨t', event⟩, hattempt⟩ := hattempt
  refine ⟨t', event, ?_⟩
  unfold checkRequest at h
  obtain ⟨schema, hschema, h⟩ := bind_eq_ok.1 h
  obtain ⟨hguard, h⟩ := rejectIf_bind_eq_ok.1 h
  obtain ⟨_, hvalid, -⟩ := bind_eq_ok.1 h
  unfold appendEvent
  simp only [hschema, ok_bind, rejectIf_neg hguard, hvalid, href, appendLoop, hattempt]

/-- `append_event` for every call of a list. -/
def replay (rt : Runtime) : List AppendRequest → EventTable → Except Error EventTable
  | [], t => .ok t
  | req :: reqs, t => do
    let (t', _) ← appendEvent rt req t
    replay rt reqs t'

/-- **The table accepts the journal.** Every call recorded by a service can be appended, and the
rows are then numbered in the order of the calls. -/
theorem Journal.replay_ok (hinj : Function.Injective rt.sha256) (j : Journal rt) :
    ∃ t, replay rt j.calls EventTable.empty = .ok t ∧ ChainInv (HashedV2 rt) t ∧
      t.rows.length = j.calls.length := by
  have go : ∀ (reqs : List AppendRequest) (t : EventTable), (∀ r ∈ reqs, checkRequest rt r = .ok ()) →
      ChainInv (HashedV2 rt) t → ∃ t', replay rt reqs t = .ok t' ∧ ChainInv (HashedV2 rt) t' ∧
        t'.rows.length = t.rows.length + reqs.length := by
    intro reqs
    induction reqs with
    | nil => intro t _ ht; exact ⟨t, rfl, ht, rfl⟩
    | cons req reqs ih =>
      intro t hcheck ht
      obtain ⟨hreq, hreqs⟩ := List.forall_mem_cons.1 hcheck
      obtain ⟨t', event, happ⟩ := appendEvent_of_checkRequest hinj ht hreq
      have happended := appendEvent_ok happ
      obtain ⟨t'', hreplay, hinv, hlen⟩ :=
        ih t' hreqs (ht.append happended happended.hashedV2)
      refine ⟨t'', ?_, hinv, ?_⟩
      · rw [replay, happ, ok_bind]
        exact hreplay
      · rw [hlen, happended.rows, List.length_append]
        simp only [List.length_cons, List.length_nil]
        omega
  obtain ⟨t, hreplay, hinv, hlen⟩ := go j.calls EventTable.empty j.admitted trivial
  exact ⟨t, hreplay, hinv, by simpa [EventTable.empty] using hlen⟩

end

/-! ## Deleting events

The ledger has no operation that removes an event. Where rows are deleted nevertheless, what is left
verifies exactly if they were the last ones, and it then stays verified under `append_event`. The
rows may stand in any order; only their numbers count. -/

section

variable {rt : Runtime} {t t' : EventTable} {p : SystemEvent → Bool}

/-- The table verifies: by number, its rows are a chain of sealed events. -/
def Verified (rt : Runtime) (t : EventTable) : Prop :=
  eventChain.Linked (Sealed rt) 1 "" t.bySeq

theorem bySeq_perm (t : EventTable) : t.bySeq.Perm t.rows := List.perm_insertionSort _ _

theorem bySeq_pairwise (t : EventTable) : t.bySeq.Pairwise fun a b => a.seq ≤ b.seq := by
  unfold EventTable.bySeq
  have htrans : IsTrans SystemEvent fun a b => a.seq ≤ b.seq := ⟨fun _ _ _ => Nat.le_trans⟩
  have htotal : Std.Total fun a b : SystemEvent => a.seq ≤ b.seq := ⟨fun a b => Nat.le_total _ _⟩
  exact List.pairwise_insertionSort _ _

/-- The order of the numbers is the only one in which the rows are sorted. -/
theorem bySeq_eq_of_sorted {events : List SystemEvent} (hperm : events.Perm t.rows)
    (hsorted : events.Pairwise fun a b => a.seq ≤ b.seq) : t.bySeq = events := by
  refine List.Perm.eq_of_pairwise ?_ (bySeq_pairwise t) hsorted ((bySeq_perm t).trans hperm.symm)
  intro a b ha hb hab hba
  exact List.inj_on_of_nodup_map t.seqUnique ((bySeq_perm t).mem_iff.1 ha) (hperm.mem_iff.1 hb)
    (Nat.le_antisymm hab hba)

theorem bySeq_delete (t : EventTable) (p : SystemEvent → Bool) :
    (t.delete p).bySeq = t.bySeq.filter fun event => !p event :=
  bySeq_eq_of_sorted ((bySeq_perm t).filter _) ((bySeq_pairwise t).filter _)

/-- **Deletion.** A verified table stays verified exactly if no event that is kept comes after one
that is deleted. -/
theorem Verified.delete_iff (h : Verified rt t) : Verified rt (t.delete p) ↔
    ∀ event ∈ t.rows, p event = true → ∀ kept ∈ t.rows, p kept = false → kept.seq < event.seq := by
  unfold Verified at h ⊢
  rw [bySeq_delete, h.filter_iff]
  simp only [(bySeq_perm t).mem_iff, Bool.not_eq_false', Bool.not_eq_true']
  rfl

/-! ## Appending again -/

theorem Verified.next (h : Verified rt t) :
    nextSeq t = 1 + t.bySeq.length ∧ nextPrevHash t = eventChain.tip "" t.bySeq := by
  unfold nextSeq nextPrevHash EventTable.latest
  unfold Verified at h
  rcases List.eq_nil_or_concat t.bySeq with hrows | ⟨events, event, hrows⟩
  · rw [hrows]
    exact ⟨rfl, rfl⟩
  · rw [List.concat_eq_append] at hrows
    rw [hrows, ChainFormat.linked_concat] at h
    have hseq : event.seq = 1 + events.length := h.2.1
    rw [hrows, List.getLast?_concat, ChainFormat.tip_concat, List.length_append]
    refine ⟨?_, rfl⟩
    simp only [hseq, List.length_singleton]
    omega

theorem Verified.append {req : AppendRequest} {event : SystemEvent} (h : Verified rt t)
    (happ : Appended rt req t t' event) (hseal : Sealed rt event) : Verified rt t' := by
  have hseq : event.seq = 1 + t.bySeq.length := happ.seq.trans h.next.1
  have hsorted : t'.bySeq = t.bySeq ++ [event] := by
    apply bySeq_eq_of_sorted
    · rw [happ.rows]
      exact (bySeq_perm t).append_right _
    · rw [List.pairwise_append]
      refine ⟨bySeq_pairwise t, List.pairwise_singleton _ _, ?_⟩
      intro a ha b hb
      obtain rfl := List.mem_singleton.1 hb
      have : a.seq < 1 + t.bySeq.length := (ChainFormat.Linked.seq_of_mem h ha).2
      omega
  unfold Verified
  rw [hsorted, ChainFormat.linked_concat]
  exact ⟨h, hseq, happ.prevHash.trans h.next.2, hseal⟩

/-- A verified table stays verified under calls whose payloads store stably. -/
theorem Verified.appends (h : Verified rt t) {reqs : List AppendRequest}
    (hreqs : ∀ req ∈ reqs, StoresStably rt req) :
    Verified rt (runCalls (appendStep rt) t reqs) := by
  have hcalls : EachCall (appendStep rt) (fun _ req => StoresStably rt req) t reqs :=
    EachCall.of_forall _ fun req hreq _ => hreqs req hreq
  refine hcalls.invariant ?_ h
  intro t req t' hinv hreq hstep
  obtain ⟨event, happ⟩ := appendStep_ok hstep
  exact hinv.append happ (happ.sealed hreq)

end

end LiveOs.EventLedger
