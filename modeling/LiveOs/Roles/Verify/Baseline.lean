import LiveOs.EventLedger.Verify.Journal
import LiveOs.Roles.Baseline

/-!
# What a role reset leaves of the event ledger

The reset deletes the role events wherever they stand. What is left verifies exactly if no event of
another type comes after a role event, and a reset that is refused leaves every row as it was.
-/

namespace LiveOs.Roles

open Lib EventLedger Exams

variable {rt : Runtime} {db db' : BaselineDb} {counts : ClearedRows} {e : Error}

/-! ## When the reset goes through -/

/-- No row that stays points at a row that the reset deletes. -/
structure Unprotected (db : BaselineDb) : Prop where
  holders : ∀ event ∈ db.events.rows, isRoleEvent event = true →
    ∀ holder ∈ db.ledgerEntries ++ db.resourceTransactions, holder.systemEvent ≠ some event.seq
  actors : ∀ event ∈ db.events.rows, isRoleEvent event = false →
    ∀ a ∈ db.assignments.rows, event.actorRoleAssignment ≠ some a.pk

/-- The database after a reset. -/
def clearedDb (db : BaselineDb) : BaselineDb :=
  { db with
    attempts := .empty
    policies := .empty
    questions := .empty
    qualifications := .empty
    events := db.events.delete isRoleEvent
    assignments := .empty
    rolePermissions := []
    roles := [] }

theorem holdsRoleEvent_eq_false {events : EventTable} {holders : List EventHolder} :
    holdsRoleEvent events holders = false ↔ ∀ event ∈ events.rows, isRoleEvent event = true →
      ∀ holder ∈ holders, holder.systemEvent ≠ some event.seq := by
  simp only [holdsRoleEvent, List.any_eq_false, List.any_eq_true, Bool.and_eq_true,
    decide_eq_true_eq, not_exists, not_and]
  constructor
  · intro h event hevent hrole holder hholder
    exact h holder hholder event hevent hrole
  · intro h holder hholder event hevent hrole
    exact h event hevent hrole holder hholder

theorem deleteAttempts_ok (db : BaselineDb) :
    deleteAttempts db = .ok { db with attempts := .empty } := rfl

theorem deleteQuestions_ok (db : BaselineDb) :
    deleteQuestions db = .ok { db with questions := .empty } := rfl

theorem deleteQualifications_ok (db : BaselineDb) :
    deleteQualifications db = .ok { db with qualifications := .empty } := rfl

theorem deleteRolePermissions_ok (db : BaselineDb) :
    deleteRolePermissions db = .ok { db with rolePermissions := [] } := rfl

theorem clearElectorateRoles_ok (db : BaselineDb) : clearElectorateRoles db =
    .ok { db with roles := db.roles.map fun r => { r with appointmentElectorateRole := none } } :=
  rfl

theorem deletePolicies_ok (h : db.attempts.rows = []) :
    deletePolicies db = .ok { db with policies := .empty } := by
  unfold deletePolicies
  rw [h, List.any_nil, rejectIf_neg (by decide), ok_bind]
  rfl

theorem deleteRoleEvents_ok_iff : deleteRoleEvents db = .ok db' ↔
    (∀ event ∈ db.events.rows, isRoleEvent event = true →
      ∀ holder ∈ db.ledgerEntries ++ db.resourceTransactions,
        holder.systemEvent ≠ some event.seq) ∧
      { db with events := db.events.delete isRoleEvent } = db' := by
  unfold deleteRoleEvents
  rw [rejectIf_bind_eq_ok, pure_eq_ok, Bool.not_eq_true, Bool.or_eq_false_iff,
    holdsRoleEvent_eq_false, holdsRoleEvent_eq_false]
  refine and_congr_left' ?_
  simp only [List.forall_mem_append]
  constructor
  · rintro ⟨hentries, htransactions⟩ event hevent hrole
    exact ⟨hentries event hevent hrole, htransactions event hevent hrole⟩
  · intro h
    exact ⟨fun event hevent hrole => (h event hevent hrole).1,
      fun event hevent hrole => (h event hevent hrole).2⟩

theorem deleteAssignments_ok_iff (h : db.attempts.rows = []) : deleteAssignments db = .ok db' ↔
    (∀ event ∈ db.events.rows, ∀ a ∈ db.assignments.rows,
      event.actorRoleAssignment ≠ some a.pk) ∧ { db with assignments := .empty } = db' := by
  unfold deleteAssignments
  rw [rejectIf_bind_eq_ok, pure_eq_ok, h]
  refine and_congr_left' ?_
  simp only [List.any_nil, Bool.false_or, List.any_eq_true, decide_eq_true_eq, not_exists,
    not_and]
  constructor
  · intro hno event hevent a ha
    exact hno a ha event hevent
  · intro hno a ha event hevent
    exact hno event hevent a ha

theorem deleteRoles_ok (hassignments : db.assignments.rows = [])
    (hroles : ∀ r ∈ db.roles, r.appointmentElectorateRole = none)
    (hpermissions : db.rolePermissions = []) :
    deleteRoles db = .ok { db with roles := [] } := by
  have hfree : ¬ (db.roles.any fun r => (db.assignments.rows.any fun a => a.role = r.role.pk) ||
      db.roles.any fun other => other.appointmentElectorateRole = some r.role.pk) = true := by
    simp only [hassignments, List.any_nil, Bool.false_or, List.any_eq_true, decide_eq_true_eq]
    rintro ⟨r, -, other, hother, hrole⟩
    rw [hroles other hother] at hrole
    cases hrole
  unfold deleteRoles
  rw [rejectIf_neg hfree, ok_bind, hpermissions]
  rfl

/-- The reset goes through exactly if nothing is protected: the steps in front of the two that may
be refused leave nothing that could protect a row in another step. -/
theorem clearRolePermissionBaseline_ok_iff : clearRolePermissionBaseline db = .ok counts db' ↔
    Unprotected db ∧ db' = clearedDb db ∧ counts = ⟨db.assignments.rows.length,
      db.rolePermissions.length, db.roles.length, db.qualifications.rows.length,
      (db.events.rows.filter isRoleEvent).length⟩ := by
  unfold clearRolePermissionBaseline
  rw [run_atomic_ok, run_bind_of_ok (run_update_ok.2 (deleteAttempts_ok db)),
    run_bind_of_ok (run_update_ok.2 (deletePolicies_ok rfl)),
    run_bind_of_ok (run_update_ok.2 (deleteQuestions_ok _)), run_get_bind,
    run_bind_of_ok (run_update_ok.2 (deleteQualifications_ok _)), run_get_bind, run_bind_ok]
  constructor
  · rintro ⟨⟨⟩, db₁, hevents, h⟩
    obtain ⟨hholders, rfl⟩ := deleteRoleEvents_ok_iff.1 (run_update_ok.1 hevents)
    rw [run_get_bind] at h
    obtain ⟨⟨⟩, db₂, hassignments, h⟩ := run_bind_ok.1 h
    obtain ⟨hactors, rfl⟩ := (deleteAssignments_ok_iff rfl).1 (run_update_ok.1 hassignments)
    rw [run_get_bind, run_bind_of_ok (run_update_ok.2 (deleteRolePermissions_ok _)),
      run_bind_of_ok (run_update_ok.2 (clearElectorateRoles_ok _)), run_get_bind,
      run_bind_of_ok (run_update_ok.2 (deleteRoles_ok rfl (by simp) rfl))] at h
    obtain ⟨rfl, rfl⟩ := by simpa using h
    refine ⟨⟨hholders, ?_⟩, rfl, by simp⟩
    intro event hevent hrole a ha
    exact hactors event (List.mem_filter.2 ⟨hevent, by rw [hrole]; rfl⟩) a ha
  · rintro ⟨hfree, rfl, rfl⟩
    refine ⟨(), _, run_update_ok.2 (deleteRoleEvents_ok_iff.2 ⟨hfree.holders, rfl⟩), ?_⟩
    rw [run_get_bind]
    have hactors : ∀ event ∈ (db.events.delete isRoleEvent).rows, ∀ a ∈ db.assignments.rows,
        event.actorRoleAssignment ≠ some a.pk := by
      intro event hevent a ha
      obtain ⟨hmem, hrole⟩ := List.mem_filter.1 hevent
      exact hfree.actors event hmem (by simpa using hrole) a ha
    rw [run_bind_of_ok (run_update_ok.2 ((deleteAssignments_ok_iff rfl).2 ⟨hactors, rfl⟩)),
      run_get_bind, run_bind_of_ok (run_update_ok.2 (deleteRolePermissions_ok _)),
      run_bind_of_ok (run_update_ok.2 (clearElectorateRoles_ok _)), run_get_bind,
      run_bind_of_ok (run_update_ok.2 (deleteRoles_ok rfl (by simp) rfl))]
    simp [clearedDb]

/-- **Rollback.** A reset that is refused leaves every row as it was. -/
theorem clearRolePermissionBaseline_error (h : clearRolePermissionBaseline db = .error e db') :
    db' = db :=
  (run_atomic_error.1 h).1

/-! ## The ledger after the reset -/

/-- No event of another type comes after a role event. -/
def RoleEventsLast (t : EventTable) : Prop :=
  ∀ event ∈ t.rows, isRoleEvent event = true →
    ∀ kept ∈ t.rows, isRoleEvent kept = false → kept.seq < event.seq

/-- After the reset the chain verifies, and goes on to under later calls of `append_event` with
payloads that store stably; a reset that is refused changes nothing. -/
structure ChainSurvives (rt : Runtime) (db : BaselineDb) : Prop where
  verifies : ∀ counts db', clearRolePermissionBaseline db = .ok counts db' →
    verifyEventChain rt db'.events = .ok true
  later : ∀ counts db', clearRolePermissionBaseline db = .ok counts db' →
    ∀ reqs, (∀ req ∈ reqs, StoresStably rt req) →
      verifyEventChain rt (runCalls (appendStep rt) db'.events reqs) = .ok true
  refused : ∀ e db', clearRolePermissionBaseline db = .error e db' → db' = db

theorem ChainSurvives.roleEventsLast (h : ChainSurvives rt db)
    (hverified : verifyEventChain rt db.events = .ok true) (hfree : Unprotected db) :
    RoleEventsLast db.events := by
  have hchain : Verified rt db.events := (verifyEventChain_iff _).1 hverified
  have hleft := h.verifies _ _ (clearRolePermissionBaseline_ok_iff.2 ⟨hfree, rfl, rfl⟩)
  exact hchain.delete_iff.1 ((verifyEventChain_iff _).1 hleft)

/-- An event of the type with an empty set of facts. -/
def eventRequest (eventType : String) : AppendRequest :=
  { taskRequest [] [] with eventType := eventType }

/-- A database whose ledger has two events of the types, and nothing else. -/
def ledgerDb (first second : String) : BaselineDb where
  attempts := .empty
  policies := .empty
  questions := .empty
  qualifications := .empty
  events := appendRun textRuntime [eventRequest first, eventRequest second]
  ledgerEntries := []
  resourceTransactions := []
  assignments := .empty
  rolePermissions := []
  roles := []

theorem checkRequest_eventRequest (eventType : String) :
    checkRequest textRuntime (eventRequest eventType) = .ok () := by
  have hcheck : checkRequest textRuntime (taskRequest [] []) = .ok () := by decide +kernel
  exact hcheck

theorem storesStably_eventRequest (eventType : String) :
    StoresStably textRuntime (eventRequest eventType) := by
  intro _
  have hstable : (orEmptyDict (taskRequest [] []).payloadJson).keysStable = true := by
    decide +kernel
  have hplain : refPlain (orEmptyDict (taskRequest [] []).payloadJson) = true := by decide +kernel
  exact ⟨hstable, hplain⟩

theorem afterCall_eventRequest {t : EventTable} (ht : ChainInv (HashedV2 textRuntime) t)
    (eventType : String) : ∃ event, Appended textRuntime (eventRequest eventType) t
      (afterCall (appendStep textRuntime) t (eventRequest eventType)) event := by
  obtain ⟨t', event, happ⟩ := appendEvent_of_checkRequest (fun _ _ h => h) ht
    (checkRequest_eventRequest eventType)
  refine ⟨event, ?_⟩
  have hafter : afterCall (appendStep textRuntime) t (eventRequest eventType) = t' := by
    rw [afterCall, appendStep, happ]
    rfl
  rw [hafter]
  exact appendEvent_ok happ

theorem ledgerDb_events (first second : String) : (ledgerDb first second).events =
    afterCall (appendStep textRuntime)
      (afterCall (appendStep textRuntime) .empty (eventRequest first)) (eventRequest second) := by
  simp only [ledgerDb, appendRun, runCalls, List.foldl_cons, List.foldl_nil]

/-- The two events, in the order of their numbers, in a table that verifies. -/
theorem afterCall_two {t₁ t₂ : EventTable} {e f : SystemEvent} {first second : String}
    (he : Appended textRuntime (eventRequest first) .empty t₁ e)
    (hf : Appended textRuntime (eventRequest second) t₁ t₂ f) :
    t₂.rows = [e, f] ∧ e.seq < f.seq ∧ verifyEventChain textRuntime t₂ = .ok true := by
  have hempty : ChainInv (Sealed textRuntime) .empty := trivial
  have hfirst := hempty.append he (he.sealed (storesStably_eventRequest first))
  have hsecond := hfirst.append hf (hf.sealed (storesStably_eventRequest second))
  have hseq := he.seq.trans hempty.next.1
  have hseq' := hf.seq.trans hfirst.next.1
  refine ⟨?_, ?_, ?_⟩
  · rw [hf.rows, he.rows]
    rfl
  · rw [hseq, hseq', he.rows, List.length_append, List.length_singleton]
    exact Nat.lt_succ_self _
  · rw [verifyEventChain_iff, hsecond.bySeq]
    exact hsecond

theorem ledgerDb_rows (first second : String) :
    ∃ e f, (ledgerDb first second).events.rows = [e, f] ∧ e.eventType = first ∧
      f.eventType = second ∧ e.seq < f.seq ∧
        verifyEventChain textRuntime (ledgerDb first second).events = .ok true := by
  have hempty : ChainInv (HashedV2 textRuntime) .empty := trivial
  obtain ⟨e, he⟩ := afterCall_eventRequest hempty first
  have hchain := hempty.append he he.hashedV2
  obtain ⟨f, hf⟩ := afterCall_eventRequest hchain second
  obtain ⟨hrows, hlt, hverified⟩ := afterCall_two he hf
  rw [ledgerDb_events]
  exact ⟨e, f, hrows, he.eventType, hf.eventType, hlt, hverified⟩

theorem ledgerDb_unprotected (first second : String) : Unprotected (ledgerDb first second) where
  holders := fun _ _ _ _ hholder => absurd hholder List.not_mem_nil
  actors := fun _ _ _ _ ha => absurd ha List.not_mem_nil

end LiveOs.Roles
