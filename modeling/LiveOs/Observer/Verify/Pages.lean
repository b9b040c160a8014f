import LiveOs.Observer.Verify.Readings

/-!
# The page of an application and the activity of a member

Both return exactly when each event they show can be read.
-/

namespace LiveOs.Observer

open Lib EventLedger Roles

variable {rt : Runtime} {t : EventTable} {db : ObserverDb}

/-! ## The events of a page -/

/-- Rows of different numbers are all kept. -/
theorem distinctSeq_eq {events : List SystemEvent} {seen : List Nat}
    (hdistinct : (events.map SystemEvent.seq).Nodup) (hseen : ∀ e ∈ events, e.seq ∉ seen) :
    distinctSeq seen events = events := by
  induction events generalizing seen with
  | nil => rfl
  | cons event events ih =>
    obtain ⟨hevent, hevents⟩ := List.nodup_cons.1 hdistinct
    have hnew : ¬ seen.contains event.seq = true := by
      rw [List.contains_iff_mem]
      exact hseen event List.mem_cons_self
    rw [distinctSeq, if_neg hnew, ih hevents]
    intro e he hmem
    rcases List.mem_cons.1 hmem with heq | hmem
    · exact hevent (heq ▸ List.mem_map_of_mem he)
    · exact hseen e (List.mem_cons_of_mem _ he) hmem

theorem distinctSeq_sublist {events : List SystemEvent} (h : events.Sublist t.bySeq) :
    distinctSeq [] events = events := by
  apply distinctSeq_eq
  · apply List.Nodup.sublist (h.map SystemEvent.seq)
    exact ((List.perm_insertionSort _ t.rows).map SystemEvent.seq).nodup_iff.2 t.seqUnique
  · exact fun _ _ => List.not_mem_nil

theorem distinctSeq_reverse {events : List SystemEvent} (h : events.Sublist t.bySeq.reverse) :
    distinctSeq [] events = events := by
  apply distinctSeq_eq
  · apply List.Nodup.sublist (h.map SystemEvent.seq)
    rw [List.map_reverse, List.nodup_reverse]
    exact ((List.perm_insertionSort _ t.rows).map SystemEvent.seq).nodup_iff.2 t.seqUnique
  · exact fun _ _ => List.not_mem_nil

/-! ## The page of an application -/

/-- The loop for the header can read the public facts. -/
def FactsReadable (payload : PyVal) : Prop :=
  ∃ facts, dictGet payload "public_facts" (.dict []) = .ok (.dict facts)

/-- The page of an application can show the event. -/
structure Displayable (rt : Runtime) (t : EventTable) (event : SystemEvent) : Prop where
  facts : FactsReadable (payloadOf event)
  chain : Returns (systemEventChainCheck rt t event)

theorem applicationEvents_eq (applicationId : String) :
    applicationEvents t applicationId = selectEvents t (applicationQuery applicationId) :=
  distinctSeq_sublist List.filter_sublist

theorem mem_applicationEvents {applicationId : String} {event : SystemEvent}
    (h : event ∈ applicationEvents t applicationId) : event ∈ t.rows := by
  rw [applicationEvents_eq] at h
  exact mem_bySeq.1 (List.mem_of_mem_filter h)

theorem buildTimelineItems_eq (applicationId : String) :
    buildTimelineItems rt db (applicationEvents db.events applicationId) =
      (applicationEvents db.events applicationId).mapM (timelineItem rt db) := by
  have hdistinct : distinctSeq [] (selectEvents db.events (applicationQuery applicationId)) =
      selectEvents db.events (applicationQuery applicationId) :=
    distinctSeq_sublist List.filter_sublist
  rw [buildTimelineItems, applicationEvents_eq, hdistinct]

theorem latestStated_raises (applicationId : String) (latest : Option SystemEvent)
    (events : List SystemEvent) : RaisesAttribute (latestStated applicationId latest events) := by
  induction events generalizing latest with
  | nil => exact .ok _
  | cons event events ih =>
    exact .bind (dictGet_raises _ _ _) fun _ => .bind (dictGet_raises _ _ _) fun _ => ih _

theorem latestStated_returns {applicationId : String} {latest : Option SystemEvent}
    {events : List SystemEvent} :
    Returns (latestStated applicationId latest events) ↔
      ∀ event ∈ events, FactsReadable (payloadOf event) := by
  induction events generalizing latest with
  | nil =>
    constructor
    · intro _ event hevent
      cases hevent
    · exact fun _ => returns_ok _
  | cons event events ih =>
    rw [latestStated, returns_bind, List.forall_mem_cons]
    constructor
    · rintro ⟨facts, hfacts, h⟩
      obtain ⟨stated, hstated, hrest⟩ := returns_bind.1 h
      obtain ⟨es, rfl⟩ := dict_of_dictGet hstated
      exact ⟨⟨es, hfacts⟩, ih.1 hrest⟩
    · rintro ⟨⟨es, hes⟩, hrest⟩
      exact ⟨_, hes, returns_bind.2 ⟨_, rfl, ih.2 hrest⟩⟩

theorem latestStated_mem {applicationId : String} {latest : Option SystemEvent}
    {events : List SystemEvent} {event : SystemEvent}
    (h : latestStated applicationId latest events = .ok (some event)) :
    latest = some event ∨ event ∈ events := by
  induction events generalizing latest with
  | nil => exact .inl (Except.ok.inj h)
  | cons se events ih =>
    obtain ⟨facts, -, h⟩ := bind_eq_ok.1 h
    obtain ⟨stated, -, h⟩ := bind_eq_ok.1 h
    rcases ih h with hlatest | hmem
    · split at hlatest
      · exact .inr (Option.some.inj hlatest ▸ List.mem_cons_self)
      · exact .inl hlatest
    · exact .inr (List.mem_cons_of_mem _ hmem)

theorem headerEvent_raises (applicationId : String) :
    RaisesAttribute (headerEvent t applicationId) := by
  apply RaisesOnly.bind (latestStated_raises _ _ _)
  intro latest
  cases latest <;> exact .ok _

theorem headerEvent_returns {applicationId : String} :
    Returns (headerEvent t applicationId) ↔
      ∀ event ∈ applicationEvents t applicationId, FactsReadable (payloadOf event) := by
  rw [headerEvent, returns_bind, ← latestStated_returns]
  constructor
  · rintro ⟨latest, hlatest, -⟩
    exact ⟨latest, hlatest⟩
  · rintro ⟨latest, hlatest⟩
    refine ⟨latest, hlatest, ?_⟩
    cases latest <;> exact returns_ok _

/-- The header is taken from one of the events of the page. -/
theorem headerEvent_some {applicationId : String} {event : SystemEvent}
    (h : headerEvent t applicationId = .ok (some event)) :
    event ∈ applicationEvents t applicationId := by
  obtain ⟨latest, hlatest, h⟩ := bind_eq_ok.1 h
  cases latest with
  | some se =>
    obtain rfl := Option.some.inj (pure_eq_ok.1 h)
    exact (latestStated_mem hlatest).resolve_left (by rintro ⟨⟩)
  | none => exact List.mem_of_getLast? (pure_eq_ok.1 h)

theorem headerEvent_none {applicationId : String}
    (h : headerEvent t applicationId = .ok none) : applicationEvents t applicationId = [] := by
  obtain ⟨latest, -, h⟩ := bind_eq_ok.1 h
  cases latest with
  | some se => cases pure_eq_ok.1 h
  | none => exact List.getLast?_eq_none_iff.1 (pure_eq_ok.1 h)

theorem headerValue_raises (payload : PyVal) (fact : String) (keys : List String) :
    RaisesAttribute (headerValue payload fact keys) := by
  have hkeys : ∀ value, RaisesAttribute (keys.foldlM (fun v key => do
      return pyOr v (← dictGet payload key (.str ""))) value) := by
    induction keys with
    | nil => exact fun value => .ok value
    | cons key keys ih =>
      intro value
      rw [List.foldlM_cons]
      exact .bind (.bind (dictGet_raises _ _ _) fun _ => .ok _) fun _ => ih _
  exact .bind (dictGet_raises _ _ _) fun _ => .bind (dictGet_raises _ _ _) fun _ => hkeys _

theorem headerValue_returns {payload : PyVal} (h : FactsReadable payload) (fact : String)
    (keys : List String) : Returns (headerValue payload fact keys) := by
  obtain ⟨facts, hfacts⟩ := h
  obtain ⟨es, rfl⟩ := dict_of_dictGet hfacts
  have hkeys : ∀ value, Returns (keys.foldlM (fun v key => do
      return pyOr v (← dictGet (.dict es) key (.str ""))) value : Except Error PyVal) := by
    induction keys with
    | nil => exact fun value => returns_ok value
    | cons key keys ih =>
      intro value
      rw [List.foldlM_cons]
      exact Returns.bind (Returns.bind (returns_ok _) fun _ => returns_ok _) fun _ => ih _
  have hdict : ∃ fs, orEmptyDict ((PyVal.get? es "public_facts").getD (.scalar .none)) =
      .dict fs := by
    have hget := Except.ok.inj hfacts
    cases hfound : PyVal.get? es "public_facts" with
    | none => exact ⟨[], rfl⟩
    | some value =>
      rw [hfound] at hget
      obtain rfl : value = .dict facts := hget
      cases facts with
      | nil => exact ⟨[], rfl⟩
      | cons f fs => exact ⟨f :: fs, rfl⟩
  obtain ⟨fs, hfs⟩ := hdict
  apply returns_bind.2 ⟨_, rfl, _⟩
  rw [hfs]
  exact returns_bind.2 ⟨_, rfl, hkeys _⟩

/-- A page that returns was read without an exception at any of its events, and the other way
round. -/
theorem applicationDetail_returns {applicationId : String} :
    Returns (publicMemberApplicationDetail rt db applicationId) ↔
      ∀ event ∈ applicationEvents db.events applicationId, Displayable rt db.events event := by
  constructor
  · intro h
    obtain ⟨header, hheader, h⟩ := returns_bind.1 h
    have hfacts := headerEvent_returns.1 ⟨header, hheader⟩
    cases header with
    | none =>
      rw [headerEvent_none hheader]
      intro event hevent
      cases hevent
    | some header =>
      obtain ⟨stage, -, h⟩ := returns_bind.1 h
      obtain ⟨items, hitems, -⟩ := returns_bind.1 h
      rw [buildTimelineItems_eq] at hitems
      intro event hevent
      obtain ⟨item, hitem⟩ := returns_mapM.1 ⟨items, hitems⟩ event hevent
      obtain ⟨row, hrow, -⟩ := bind_eq_ok.1 hitem
      exact ⟨hfacts event hevent, makeSingleProofRow_chain ⟨row, hrow⟩⟩
  · intro h
    obtain ⟨header, hheader⟩ := headerEvent_returns.2 fun event hevent => (h event hevent).facts
    apply returns_bind.2 ⟨header, hheader, _⟩
    cases header with
    | none => exact returns_ok _
    | some header =>
      have hread := (h header (headerEvent_some hheader)).facts
      apply Returns.bind (headerValue_returns hread _ _)
      intro stage
      apply Returns.bind
      · rw [buildTimelineItems_eq, returns_mapM]
        intro event hevent
        obtain ⟨⟨facts, hfacts⟩, hchain⟩ := h event hevent
        obtain ⟨es, hes⟩ := dict_of_dictGet hfacts
        exact timelineItem_dict hes hchain
      intro items
      apply Returns.bind (headerValue_returns hread _ _)
      intro applicant
      apply Returns.bind (headerValue_returns hread _ _)
      intro role
      apply Returns.bind (headerValue_returns hread _ _)
      exact fun proposalNo => returns_ok _

theorem applicationDetail_raises (applicationId : String) :
    RaisesAttribute (publicMemberApplicationDetail rt db applicationId) := by
  apply RaisesOnly.bind (headerEvent_raises applicationId)
  intro header
  cases header with
  | none => exact .ok none
  | some header =>
    apply RaisesOnly.bind (headerValue_raises _ _ _)
    intro stage
    apply RaisesOnly.bind (.mapM fun event _ => timelineItem_raises event)
    intro items
    exact .bind (headerValue_raises _ _ _) fun _ => .bind (headerValue_raises _ _ _) fun _ =>
      .bind (headerValue_raises _ _ _) fun _ => .ok _
/-! ## The activity of a member -/

theorem get?_toPy (es : List (String × Json)) (key : String) :
    PyVal.get? (Json.toPy.entries es) key = (Json.get? es key).map Json.toPy := by
  have hkey : (fun e : PyKey × PyVal => decide (e.1 = .str key)) ∘
      (fun e : String × Json => (PyKey.str e.1, e.2.toPy)) = fun e => decide (e.1 = key) := by
    funext e
    simp
  rw [Json.toPy_entries, PyVal.get?, Json.get?, List.find?_map, hkey, Option.map_map,
    Option.map_map]
  rfl

/-- A payload of the public schema is found by its schema. -/
theorem pathIs_schema {event : SystemEvent} (h : isV2 (payloadOf event) = .ok true) :
    pathIs publicLedgerSchema ["schema"] event.payloadJson = true := by
  unfold payloadOf at h
  cases hdoc : event.payloadJson with
  | obj es =>
    rw [hdoc, orEmptyDict_obj] at h
    have hstr : ((PyVal.get? (Json.toPy.entries es) "schema").getD (.scalar .none)).isStr
        publicLedgerSchema = true := pure_eq_ok.1 h
    rw [get?_toPy] at hstr
    cases hget : Json.get? es "schema" with
    | none =>
      rw [hget] at hstr
      cases hstr
    | some value =>
      rw [hget] at hstr
      cases value with
      | str text =>
        have htext : text = publicLedgerSchema := by simpa [Json.toPy, PyVal.isStr] using hstr
        rw [pathIs, hget, Option.any_some, pathIs, htext]
        exact decide_eq_true rfl
      | _ => cases hstr
  | _ =>
    rw [hdoc] at h
    obtain ⟨es, hes⟩ := dict_of_isV2 h
    unfold orEmptyDict at hes h
    split at hes
    · cases hes
    · next hfalse =>
      rw [if_neg hfalse] at h
      cases pure_eq_ok.1 h

theorem payloadOf_of_pathIs {event : SystemEvent} {value key : String} {keys : List String}
    (h : pathIs value (key :: keys) event.payloadJson = true) :
    ∃ es, payloadOf event = .dict es := by
  unfold payloadOf
  cases hdoc : event.payloadJson with
  | obj es => exact ⟨_, orEmptyDict_obj es⟩
  | _ =>
    rw [hdoc] at h
    cases h

theorem schema_of_activity {member : Member} {event : SystemEvent}
    (h : isGovernanceActivity db member event = true) :
    pathIs publicLedgerSchema ["schema"] event.payloadJson = true := by
  simp only [isGovernanceActivity, Bool.or_eq_true, Bool.and_eq_true] at h
  rcases h with (⟨-, h⟩ | ⟨-, h⟩) | ⟨-, h⟩ <;> exact h

theorem activityEvents_eq (member : Member) (limit : Nat) :
    activityEvents db member limit =
      (db.events.bySeq.reverse.filter (isGovernanceActivity db member)).take limit := by
  rw [activityEvents, distinctSeq_reverse List.filter_sublist]

theorem mem_activityEvents {member : Member} {limit : Nat} {event : SystemEvent}
    (h : event ∈ activityEvents db member limit) :
    event ∈ db.events.rows ∧ isGovernanceActivity db member event = true := by
  rw [activityEvents_eq] at h
  obtain ⟨hmem, hactivity⟩ := List.mem_filter.1 (List.mem_of_mem_take h)
  exact ⟨mem_bySeq.1 (List.mem_reverse.1 hmem), hactivity⟩

/-- The list returns when the chain check of each of its events does. -/
theorem activity_returns {member : Member} {limit : Nat} :
    Returns (publicGovernanceActivityForMember rt db member limit) ↔
      ∀ event ∈ activityEvents db member limit, Returns (systemEventChainCheck rt db.events event) := by
  rw [publicGovernanceActivityForMember, returns_mapM]
  refine forall₂_congr fun event hevent => ?_
  constructor
  · intro hrow
    obtain ⟨chain, hchain, -⟩ := returns_bind.1 hrow
    exact ⟨chain, hchain⟩
  · rintro ⟨chain, hchain⟩
    obtain ⟨es, hes⟩ := payloadOf_of_pathIs (schema_of_activity (mem_activityEvents hevent).2)
    exact ⟨_, activityRow_dict hes hchain⟩

theorem activity_raises (member : Member) (limit : Nat) :
    RaisesAttribute (publicGovernanceActivityForMember rt db member limit) :=
  .mapM fun event _ => activityRow_raises event

end LiveOs.Observer
