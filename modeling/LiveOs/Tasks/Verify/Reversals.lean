import LiveOs.Tasks.Reversals
import LiveOs.EventLedger.Verify.Payloads
import LiveOs.Roles.Verify.Permissions

/-!
# Reversals of the point ledger

When every entry has at most one reversal, when a reversal succeeds, and what it does to the
balance of the member.
-/

namespace LiveOs.Tasks

open Lib EventLedger Roles

variable {rt : Runtime}

/-! ## What reversals are meant to keep -/

def PointEntry.Posted (r : PointEntry) : Prop := r.entry.status = .posted

instance (r : PointEntry) : Decidable r.Posted := inferInstanceAs (Decidable (_ = _))

/-- The posted reversals of an entry. -/
def postedReversals (s : PointState rt) (id : String) : List PointEntry :=
  s.entries.rows.filter fun r => r.reversesEntry = some id && r.entry.status = .posted

/-- A reversal mirrors its entry. -/
structure Mirrors (e r : PointEntry) : Prop where
  id : r.id ≠ e.id
  member : r.entry.member = e.entry.member
  amount : r.entry.amount = -e.entry.amount

/-- Every posted entry has at most one posted reversal, which mirrors it. -/
structure ReversalsExact (s : PointState rt) : Prop where
  unique : ∀ e ∈ s.entries.rows, e.Posted → (postedReversals s e.id).length ≤ 1
  mirrors : ∀ e ∈ s.entries.rows, e.Posted → ∀ r ∈ postedReversals s e.id, Mirrors e r

/-- The balance of a member without two entries. -/
def balanceWithout (s : PointState rt) (member : Nat) (a b : String) : Int :=
  sumWhere (fun r => r.entry.amount) (PointEntry.countsFor member)
    (s.entries.rows.filter fun r => r.id ≠ a && r.id ≠ b)

/-- The foreign keys of the table: members and reversed entries exist. -/
structure EntriesOwned (s : PointState rt) : Prop where
  member : ∀ r ∈ s.entries.rows, (s.directory.members.get? r.entry.member).isSome
  reverses : ∀ r ∈ s.entries.rows, ∀ id, r.reversesEntry = some id →
    ∃ e ∈ s.entries.rows, e.id = id

/-- The call names an id of its own that is free. -/
def FreshId (s : PointState rt) (c : ReverseCall) : Prop :=
  c.ledgerEntryId.getD "" ≠ "" ∧ ∀ r ∈ s.entries.rows, r.id ≠ c.ledgerEntryId.getD ""

instance (s : PointState rt) (c : ReverseCall) : Decidable (FreshId s c) :=
  inferInstanceAs (Decidable (_ ∧ ∀ r ∈ s.entries.rows, _))

/-- A call on a posted entry names a free id when the entry is not reversed yet, and only then. -/
def Guarded (s : PointState rt) (c : ReverseCall) : Prop :=
  ∀ e ∈ s.entries.rows, e.id = c.entry.id → e.Posted →
    (FreshId s c ↔ postedReversals s e.id = [])

instance (s : PointState rt) (id : String) : Decidable (postedReversals s id = []) :=
  decidable_of_iff ((postedReversals s id).isEmpty = true) List.isEmpty_iff

instance (s : PointState rt) (c : ReverseCall) : Decidable (Guarded s c) :=
  inferInstanceAs (Decidable (∀ e ∈ s.entries.rows, _ → _ → (_ ↔ _)))

/-! ## The balance -/

/-- An entry and its reversal cancel. -/
theorem ledgerBalance_without {s : PointState rt} {e r : PointEntry} (he : e ∈ s.entries.rows)
    (hr : r ∈ s.entries.rows) (heposted : e.Posted) (hrposted : r.Posted) (h : Mirrors e r) :
    ledgerBalanceForMember s e.entry.member = balanceWithout s e.entry.member e.id r.id := by
  unfold ledgerBalanceForMember balanceWithout
  have hcounts : e.countsFor e.entry.member = true := by
    unfold PointEntry.Posted at heposted
    simp [PointEntry.countsFor, heposted]
  have hcounts' : r.countsFor e.entry.member = true := by
    unfold PointEntry.Posted at hrposted
    simp [PointEntry.countsFor, hrposted, h.member]
  have hmem : r ∈ s.entries.rows.filter fun x => x.id ≠ e.id :=
    List.mem_filter.2 ⟨hr, by simpa using h.id⟩
  have hnd : ((s.entries.rows.filter fun x => x.id ≠ e.id).map PointEntry.id).Nodup :=
    s.entries.pkUnique.sublist (List.filter_sublist.map _)
  rw [sumWhere_without PointEntry.id s.entries.pkUnique he, sumWhere_without PointEntry.id hnd hmem,
    if_pos hcounts, if_pos hcounts', h.amount, List.filter_filter]
  have hboth : (s.entries.rows.filter fun x => x.id ≠ e.id && x.id ≠ r.id) =
      s.entries.rows.filter fun x => x.id ≠ r.id && x.id ≠ e.id :=
    List.filter_congr fun x _ => Bool.and_comm _ _
  rw [hboth]
  omega

/-! ## One call -/

section

variable {s s' : PointState rt} {c : ReverseCall}

/-- What a successful reversal did. -/
structure Reversed (s s' : PointState rt) (c : ReverseCall) (row : PointEntry) : Prop where
  mem : row ∈ s.entries.rows
  id : row.id = c.entry.id
  fresh : FreshId s c
  rows : s'.entries.rows = s.entries.rows ++
    [entryRow s c.now (reversalArgs c row (c.ledgerEntryId.getD ""))]
  directory : s'.directory = s.directory

theorem related_mem {id : String} {row : PointEntry}
    (h : related s.entries id "LedgerEntry" = .ok row) : row ∈ s.entries.rows ∧ row.id = id := by
  rw [related_eq_ok] at h
  exact Table.get?_eq_some.1 h

theorem reverseLedgerEntry_ok (h : reverseLedgerEntry s c = .ok s') :
    ∃ row, Reversed s s' c row := by
  unfold reverseLedgerEntry at h
  obtain ⟨row, hrow, h⟩ := bind_eq_ok.1 h
  obtain ⟨id, hid, h⟩ := bind_eq_ok.1 h
  obtain ⟨hmem, hrowid⟩ := related_mem hrow
  have hid : c.ledgerEntryId.getD "" ≠ "" ∧ c.ledgerEntryId.getD "" = id := by
    unfold reversalId at hid
    split at hid
    · rename_i hne
      exact ⟨hne, Except.ok.inj hid⟩
    · cases hid
  unfold appendLedgerEntry at h
  obtain ⟨entries, hinsert, h⟩ := bind_eq_ok.1 h
  obtain ⟨payload, -, h⟩ := bind_eq_ok.1 h
  obtain ⟨events, -, h⟩ := bind_eq_ok.1 h
  obtain rfl := pure_eq_ok.1 h
  obtain ⟨hrows, hfresh, -⟩ := Table.insert_ok hinsert
  refine ⟨row, hmem, hrowid, ⟨hid.1, fun r hr => ?_⟩, ?_, rfl⟩
  · rw [hid.2]
    exact hfresh r hr
  · rw [hid.2]
    exact hrows

/-- The payload of an entry is accepted by the ledger. -/
theorem ledgerEntryPayload_accepted {db : Directory} {entry : LedgerEntry} {payload : PyVal}
    {req : AppendRequest} (h : ledgerEntryPayload rt db entry = .ok payload)
    (hreq : req.payloadJson = payload) : checkRequest rt req = .ok () := by
  obtain ⟨member, -, h⟩ := bind_eq_ok.1 h
  have hpayload := hreq.trans (pure_eq_ok.1 h).symm
  refine checkRequest_publicEventPayload hpayload (by decide)
    (not_blank_publicRef (c := 'l') (by decide) (by decide) (by decide) _) (by decide) ?_ ?_ ?_ ?_ ?_
  · cases entry.entryType <;> decide
  · cases entry.status <;> decide
  · simp only [String.append_assoc]
    exact not_blank_append (c := '成') (by decide) (by decide) _
  · simp only [List.forall_mem_cons, List.not_mem_nil, false_imp_iff, implies_true, and_true]
    exact ⟨factOk_str (by decide) _, factOk_scalar (by decide) _, factOk_str (by decide) _,
      factOk_str (by decide) _, factOk_str (by decide) _⟩
  · simp only [List.forall_mem_cons, List.not_mem_nil, false_imp_iff, implies_true, and_true]
    exact ⟨commitmentOk _ _ _, commitmentOk _ _ _, commitmentOk _ _ _, commitmentOk _ _ _,
      commitmentOk _ _ _, commitmentOk _ _ _, commitmentOk _ _ _⟩

/-- A reversal with a free id of an existing entry succeeds. -/
theorem reverseLedgerEntry_of_fresh (howned : EntriesOwned s) {row : PointEntry}
    (hmem : row ∈ s.entries.rows) (hid : row.id = c.entry.id) (hfresh : FreshId s c) :
    ∃ s', reverseLedgerEntry s c = .ok s' := by
  have hrow : related s.entries c.entry.id "LedgerEntry" = .ok row :=
    related_eq_ok.2 (Table.get?_eq_some.2 ⟨hmem, hid⟩)
  have hreversal : reversalId c = .ok (c.ledgerEntryId.getD "") := if_pos hfresh.1
  have hinsert := @Table.insert_of_fresh PointEntry String Unit Error PointEntry.id
    (fun _ => none) _ _ s.entries
    (entryRow s c.now (reversalArgs c row (c.ledgerEntryId.getD ""))) .integrity hfresh.2
    (fun _ h => by cases h)
  obtain ⟨entries, hentries, -⟩ := hinsert
  obtain ⟨member, hmember⟩ := Option.isSome_iff_exists.1 (howned.member row hmem)
  have hpayload : ∃ payload, ledgerEntryPayload rt s.directory
      (reversalArgs c row (c.ledgerEntryId.getD "")).entry = .ok payload :=
    ⟨_, bind_eq_ok.2 ⟨member, related_eq_ok.2 hmember, rfl⟩⟩
  obtain ⟨payload, hpayload⟩ := hpayload
  obtain ⟨events, hevents, -⟩ := @Journal.append_of_checkRequest rt s.events {
    eventType := pointEventType (entryRow s c.now (reversalArgs c row (c.ledgerEntryId.getD "")))
    aggregateType := "LedgerEntry"
    aggregateId := (entryRow s c.now (reversalArgs c row (c.ledgerEntryId.getD ""))).id
    actorMember := (Procurement.actorMemberFromRef s.directory c.createdBy).orElse fun _ =>
      Procurement.actorMemberFromRef s.directory c.createdBy
    payloadJson := payload
    occurredAt := some (c.createdAt.getD c.now)
    now := c.now } (ledgerEntryPayload_accepted hpayload rfl)
  exact ⟨_, bind_eq_ok.2 ⟨row, hrow, bind_eq_ok.2 ⟨_, hreversal, bind_eq_ok.2 ⟨entries, hentries,
    bind_eq_ok.2 ⟨payload, hpayload, bind_eq_ok.2 ⟨events, hevents, rfl⟩⟩⟩⟩⟩⟩

theorem Reversed.id_new {row : PointEntry} (_ : Reversed s s' c row) :
    (entryRow s c.now (reversalArgs c row (c.ledgerEntryId.getD ""))).id =
      c.ledgerEntryId.getD "" := rfl

/-- The reversals of an entry after a call: the new row is one of those of its own entry. -/
theorem Reversed.postedReversals_eq {row : PointEntry} (h : Reversed s s' c row) (id : String) :
    postedReversals s' id = postedReversals s id ++
      if row.id = id then [entryRow s c.now (reversalArgs c row (c.ledgerEntryId.getD ""))]
      else [] := by
  unfold postedReversals
  rw [h.rows, List.filter_append]
  by_cases hid : row.id = id <;> simp [hid, entryRow, reversalArgs]

theorem reverseLedgerEntry_owned (howned : EntriesOwned s) (h : reverseLedgerEntry s c = .ok s') :
    EntriesOwned s' := by
  obtain ⟨row, hrev⟩ := reverseLedgerEntry_ok h
  have hold : ∀ e ∈ s.entries.rows, e ∈ s'.entries.rows := by
    intro e he
    rw [hrev.rows]
    exact List.mem_append_left _ he
  constructor
  · intro r hr
    rw [hrev.directory]
    rw [hrev.rows] at hr
    rcases List.mem_append.1 hr with hr | hr
    · exact howned.member r hr
    · rw [List.mem_singleton.1 hr]
      exact howned.member row hrev.mem
  · intro r hr id hid
    rw [hrev.rows] at hr
    rcases List.mem_append.1 hr with hr | hr
    · obtain ⟨e, he, heid⟩ := howned.reverses r hr id hid
      exact ⟨e, hold e he, heid⟩
    · obtain rfl := List.mem_singleton.1 hr
      exact ⟨row, hold row hrev.mem, Option.some.inj hid⟩

/-- Nothing refers to an entry that is not there yet. -/
theorem postedReversals_fresh (howned : EntriesOwned s) {id : String}
    (hfresh : ∀ r ∈ s.entries.rows, r.id ≠ id) : postedReversals s id = [] := by
  unfold postedReversals
  rw [List.filter_eq_nil_iff]
  intro r hr hreverses
  simp only [Bool.and_eq_true, decide_eq_true_eq] at hreverses
  obtain ⟨e, he, heid⟩ := howned.reverses r hr id hreverses.1
  exact hfresh e he heid

/-- The posted reversals of a posted entry after a guarded call. -/
theorem Reversed.postedReversals_cases {row : PointEntry} (h : Reversed s s' c row)
    (howned : EntriesOwned s) (hguard : Guarded s c) {e : PointEntry}
    (he : e ∈ s'.entries.rows) (hposted : e.Posted) :
    (e ∈ s.entries.rows ∧ postedReversals s' e.id = postedReversals s e.id) ∨
    (e = row ∧ postedReversals s' e.id =
      [entryRow s c.now (reversalArgs c row (c.ledgerEntryId.getD ""))]) ∨
    postedReversals s' e.id = [] := by
  rw [h.postedReversals_eq]
  rw [h.rows] at he
  rcases List.mem_append.1 he with he | he
  · by_cases hid : row.id = e.id
    · obtain rfl := s.entries.eq_of_pk h.mem he hid
      right
      left
      refine ⟨rfl, ?_⟩
      rw [(hguard row he h.id hposted).1 h.fresh, if_pos rfl, List.nil_append]
    · left
      rw [if_neg hid, List.append_nil]
      exact ⟨he, rfl⟩
  · right
    right
    obtain rfl := List.mem_singleton.1 he
    have hne : row.id ≠ c.ledgerEntryId.getD "" := h.fresh.2 row h.mem
    rw [h.id_new, if_neg hne, List.append_nil]
    exact postedReversals_fresh howned h.fresh.2

/-- **A guarded call keeps the reversals exact.** -/
theorem reverseLedgerEntry_exact (howned : EntriesOwned s) (hexact : ReversalsExact s)
    (hguard : Guarded s c) (h : reverseLedgerEntry s c = .ok s') : ReversalsExact s' := by
  obtain ⟨row, hrev⟩ := reverseLedgerEntry_ok h
  constructor
  · intro e he hposted
    rcases hrev.postedReversals_cases howned hguard he hposted with ⟨hmem, heq⟩ | ⟨rfl, heq⟩ | heq
    · rw [heq]
      exact hexact.unique e hmem hposted
    · rw [heq]
      exact le_rfl
    · rw [heq]
      exact Nat.zero_le 1
  · intro e he hposted r hr
    rcases hrev.postedReversals_cases howned hguard he hposted with ⟨hmem, heq⟩ | ⟨rfl, heq⟩ | heq
    · rw [heq] at hr
      exact hexact.mirrors e hmem hposted r hr
    · rw [heq] at hr
      obtain rfl := List.mem_singleton.1 hr
      exact ⟨(hrev.fresh.2 e hrev.mem).symm, rfl, rfl⟩
    · rw [heq] at hr
      cases hr

end

/-! ## Runs -/

/-- What the ledger promises at one moment: at most one reversal for each posted entry, and
balances in which an entry and its reversal do not count. -/
structure LedgerExact (s : PointState rt) : Prop where
  unique : ∀ e ∈ s.entries.rows, e.Posted → (postedReversals s e.id).length ≤ 1
  balance : ∀ e ∈ s.entries.rows, e.Posted → ∀ r ∈ postedReversals s e.id,
    ledgerBalanceForMember s e.entry.member = balanceWithout s e.entry.member e.id r.id

/-- What a run of reversals promises: no row changes, the ledger is exact at every moment, and
every call on a posted entry that is not reversed succeeds and reverses it. -/
structure ReversalRun (s : PointState rt) (cs : List ReverseCall) : Prop where
  exactly : ∀ ds es, cs = ds ++ es → LedgerExact (runCalls reverseLedgerEntry s ds)
  unchanged : ∀ ds es, cs = ds ++ es → ∃ added,
    (runCalls reverseLedgerEntry s cs).entries.rows =
      (runCalls reverseLedgerEntry s ds).entries.rows ++ added
  succeeds : ∀ ds c es, cs = ds ++ c :: es →
    ∀ e ∈ (runCalls reverseLedgerEntry s ds).entries.rows, e.id = c.entry.id → e.Posted →
      postedReversals (runCalls reverseLedgerEntry s ds) e.id = [] →
      ∃ s', reverseLedgerEntry (runCalls reverseLedgerEntry s ds) c = .ok s' ∧
        (postedReversals s' e.id).length = 1

section

variable {s : PointState rt}

theorem ReversalsExact.ledgerExact (h : ReversalsExact s) : LedgerExact s where
  unique := h.unique
  balance e he hposted r hr := by
    have hmem := List.mem_filter.1 hr
    have hrposted : r.Posted := by
      have hposted := hmem.2
      simp only [Bool.and_eq_true, decide_eq_true_eq] at hposted
      exact hposted.2
    exact ledgerBalance_without he hmem.1 hposted hrposted (h.mirrors e he hposted r hr)

theorem reversalRun_kept {cs : List ReverseCall} (howned : EntriesOwned s)
    (hexact : ReversalsExact s) (h : EachCall reverseLedgerEntry Guarded s cs) :
    EntriesOwned (runCalls reverseLedgerEntry s cs) ∧
      ReversalsExact (runCalls reverseLedgerEntry s cs) := by
  refine @EachCall.invariant _ _ _ reverseLedgerEntry Guarded
    (fun s : PointState rt => EntriesOwned s ∧ ReversalsExact s) ?_ s ⟨howned, hexact⟩ cs h
  rintro s₁ c s₂ ⟨howned₁, hexact₁⟩ hguard hstep
  exact ⟨reverseLedgerEntry_owned howned₁ hstep,
    reverseLedgerEntry_exact howned₁ hexact₁ hguard hstep⟩

theorem reversalRun_owned (howned : EntriesOwned s) (cs : List ReverseCall) :
    EntriesOwned (runCalls reverseLedgerEntry s cs) :=
  runCalls_invariant (fun _ _ _ h hstep => reverseLedgerEntry_owned h hstep) howned cs

theorem reversalRun_unchanged (cs : List ReverseCall) :
    ∃ added, (runCalls reverseLedgerEntry s cs).entries.rows = s.entries.rows ++ added := by
  refine @runCalls_invariant _ _ _ reverseLedgerEntry
    (fun s' : PointState rt => ∃ added, s'.entries.rows = s.entries.rows ++ added) ?_ s
    ⟨[], (List.append_nil _).symm⟩ cs
  rintro s₁ c s₂ ⟨added, hadded⟩ h
  obtain ⟨row, hrev⟩ := reverseLedgerEntry_ok h
  exact ⟨_, by rw [hrev.rows, hadded, List.append_assoc]⟩

theorem reversalRun_of_guarded (howned : EntriesOwned s) (hexact : ReversalsExact s)
    {cs : List ReverseCall} (h : EachCall reverseLedgerEntry Guarded s cs) :
    ReversalRun s cs where
  exactly ds es hcs := by
    subst hcs
    exact (reversalRun_kept howned hexact h.of_append.1).2.ledgerExact
  unchanged ds es hcs := by
    subst hcs
    rw [runCalls_append]
    exact reversalRun_unchanged es
  succeeds ds c es hcs e he hid hposted hnone := by
    subst hcs
    obtain ⟨-, hc⟩ := h.of_append
    have hfresh := (hc.1 e he hid hposted).2 hnone
    obtain ⟨s', hs'⟩ := reverseLedgerEntry_of_fresh (reversalRun_owned howned ds) he hid hfresh
    refine ⟨s', hs', ?_⟩
    obtain ⟨row, hrev⟩ := reverseLedgerEntry_ok hs'
    have hrow : row.id = e.id := hrev.id.trans hid.symm
    rw [hrev.postedReversals_eq, hnone, if_pos hrow]
    rfl

/-- A call that the promises of the run allow is guarded. -/
theorem ReversalRun.guarded {ds es : List ReverseCall} {c : ReverseCall} (howned : EntriesOwned s)
    (h : ReversalRun s (ds ++ c :: es)) : Guarded (runCalls reverseLedgerEntry s ds) c := by
  intro e he hid hposted
  constructor
  · intro hfresh
    obtain ⟨s', hs'⟩ := reverseLedgerEntry_of_fresh (reversalRun_owned howned ds) he hid hfresh
    obtain ⟨row, hrev⟩ := reverseLedgerEntry_ok hs'
    have hrow : row.id = e.id := hrev.id.trans hid.symm
    have hafter : runCalls reverseLedgerEntry s (ds ++ [c]) = s' := by
      rw [runCalls_append, runCalls_cons, runCalls_nil, afterCall_ok hs']
    have hmem : e ∈ s'.entries.rows := by
      rw [hrev.rows]
      exact List.mem_append_left _ he
    have hunique := (h.exactly (ds ++ [c]) es (by simp)).unique e (by rw [hafter]; exact hmem)
      hposted
    rw [hafter, hrev.postedReversals_eq, if_pos hrow, List.length_append,
      List.length_singleton] at hunique
    exact List.length_eq_zero_iff.1 (by omega)
  · intro hnone
    obtain ⟨s', hs', -⟩ := h.succeeds ds c es rfl e he hid hposted hnone
    obtain ⟨row, hrev⟩ := reverseLedgerEntry_ok hs'
    exact hrev.fresh

/-- **When reversals are exact along a run.** -/
theorem reversalRun_iff (howned : EntriesOwned s) (hexact : ReversalsExact s)
    (cs : List ReverseCall) : ReversalRun s cs ↔ EachCall reverseLedgerEntry Guarded s cs := by
  refine ⟨fun h => ?_, reversalRun_of_guarded howned hexact⟩
  -- by induction on what remains of the run
  suffices hrest : ∀ es ds, cs = ds ++ es →
      EachCall reverseLedgerEntry Guarded (runCalls reverseLedgerEntry s ds) es from
    hrest cs [] rfl
  intro es
  induction es with
  | nil => exact fun _ _ => trivial
  | cons c es ih =>
    intro ds hcs
    refine ⟨?_, ?_⟩
    · rw [hcs] at h
      exact h.guarded howned
    · have hnext := ih (ds ++ [c]) (by simp [hcs])
      rwa [runCalls_append, runCalls_cons, runCalls_nil] at hnext

end

/-! ## A ledger with one entry -/

def bookedWorker : Member := ⟨0, "m", none, "m", .active, []⟩

def workerDirectory : Directory where
  members := ⟨[bookedWorker], List.nodup_singleton _, List.nodup_singleton _⟩
  organizations := lapsedReviewer.organizations
  roles := lapsedReviewer.roles
  assignments := lapsedReviewer.assignments
  rolePermissions := []
  domains := Table.empty
  qualifications := Table.empty

def earned : PointEntry :=
  ⟨⟨"e", 0, 40, .contribution, "work", "v1", .posted⟩, none, "", 1, [], [], none, none, []⟩

def oneEntry : PointState textRuntime :=
  ⟨workerDirectory, ⟨[earned], List.nodup_singleton _, List.nodup_nil⟩, Journal.empty⟩

theorem oneEntry_owned : EntriesOwned oneEntry where
  member r hr := by
    rw [List.mem_singleton.1 hr]
    decide
  reverses r hr id hid := by
    rw [List.mem_singleton.1 hr] at hid
    cases hid

theorem oneEntry_exact : ReversalsExact oneEntry where
  unique e he _ := by
    rw [List.mem_singleton.1 he]
    decide
  mirrors e he _ r hr := by
    rw [List.mem_singleton.1 he] at hr
    revert hr
    exact fun hr => absurd (show r ∈ [] from hr) List.not_mem_nil

def reverseAs (id : Option String) (entry : PointEntry) : ReverseCall :=
  ⟨entry, "slip", [], id, none, 2⟩

/-- The entry is reversed, and then its reversal. -/
def reversedBack : List ReverseCall :=
  [reverseAs (some "r") earned, reverseAs (some "q") { earned with
    entry := { earned.entry with ledgerEntryId := "r" } }]

theorem reversalRun_iff_back : EntriesOwned oneEntry ∧ ReversalsExact oneEntry ∧
    ReversalRun oneEntry reversedBack := by
  have hcalls : EachCall reverseLedgerEntry Guarded oneEntry reversedBack := by decide +kernel
  exact ⟨oneEntry_owned, oneEntry_exact,
    (reversalRun_iff oneEntry_owned oneEntry_exact reversedBack).2 hcalls⟩

/-- Without an id the entry is not reversed; with two ids it is reversed twice. -/
theorem reversalRun_fails : EntriesOwned oneEntry ∧ ReversalsExact oneEntry ∧
    ¬ ReversalRun oneEntry [reverseAs none earned] ∧
    ¬ ReversalRun oneEntry [reverseAs (some "r") earned, reverseAs (some "q") earned] := by
  have hfirst : ¬ Guarded oneEntry (reverseAs none earned) := by decide +kernel
  have hsecond : ¬ Guarded
      (runCalls reverseLedgerEntry oneEntry [reverseAs (some "r") earned])
      (reverseAs (some "q") earned) := by decide +kernel
  refine ⟨oneEntry_owned, oneEntry_exact, fun h => ?_, fun h => ?_⟩
  · exact hfirst (@ReversalRun.guarded _ _ [] [] _ oneEntry_owned h)
  · exact hsecond (@ReversalRun.guarded _ _ [_] [] _ oneEntry_owned h)

end LiveOs.Tasks
