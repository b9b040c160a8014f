import LiveOs.Observer.Verify.Twins

/-!
# What shows of a refused payload

The timeline of an application and the activity of a member show a few texts of a payload as they
are stored. Of two databases that differ in one refused payload they are the same exactly when
those texts are.
-/

namespace LiveOs.Observer

open Lib EventLedger Roles

variable {rt : Runtime} {t : EventTable} {db : ObserverDb} {e : SystemEvent} {seq : Nat} {doc : Json}

/-! ## The header in both databases -/

/-- Two searches for the header settle on one event, or one of them on the event of the given
number. -/
def HeaderAgrees (seq : Nat) (latest latest' : Option SystemEvent) : Prop :=
  latest = latest' ∨ (∃ event, latest = some event ∧ event.seq = seq) ∨
    ∃ event, latest' = some event ∧ event.seq = seq

theorem latestStated_agrees {applicationId : String} {events : List SystemEvent}
    {latest latest' result result' : Option SystemEvent} (hlatest : HeaderAgrees seq latest latest')
    (h : latestStated applicationId latest events = .ok result)
    (h' : latestStated applicationId latest' (events.map (storeAt seq doc)) = .ok result') :
    HeaderAgrees seq result result' := by
  induction events generalizing latest latest' with
  | nil =>
    obtain rfl := Except.ok.inj h
    obtain rfl := Except.ok.inj h'
    exact hlatest
  | cons se events ih =>
    obtain ⟨facts, hfacts, h⟩ := bind_eq_ok.1 h
    obtain ⟨stated, hstated, h⟩ := bind_eq_ok.1 h
    obtain ⟨facts', hfacts', h'⟩ := bind_eq_ok.1 h'
    obtain ⟨stated', hstated', h'⟩ := bind_eq_ok.1 h'
    refine ih ?_ h h'
    by_cases hseq : se.seq = seq
    · -- whichever search takes this event settles on the event of the number
      split
      · exact .inr (.inl ⟨se, rfl, hseq⟩)
      · split
        · exact .inr (.inr ⟨_, rfl, by rw [storeAt_seq, hseq]⟩)
        · exact hlatest
    · rw [storeAt_of_ne hseq] at hfacts' ⊢
      obtain rfl := Except.ok.inj (hfacts.symm.trans hfacts')
      obtain rfl := Except.ok.inj (hstated.symm.trans hstated')
      split
      · exact .inl rfl
      · exact hlatest

/-- Two headers that are not taken from the event are one. -/
theorem headerEvent_twin {applicationId : String} {header header' : SystemEvent}
    (hevents : applicationEvents (withPayload t seq doc) applicationId =
      (applicationEvents t applicationId).map (storeAt seq doc))
    (h : headerEvent t applicationId = .ok (some header)) (hne : header.seq ≠ seq)
    (h' : headerEvent (withPayload t seq doc) applicationId = .ok (some header'))
    (hne' : header'.seq ≠ seq) : header' = header := by
  obtain ⟨latest, hlatest, h⟩ := bind_eq_ok.1 h
  obtain ⟨latest', hlatest', h'⟩ := bind_eq_ok.1 h'
  rw [hevents] at hlatest' h'
  rcases latestStated_agrees (.inl rfl) hlatest hlatest' with rfl | ⟨se, rfl, hse⟩ | ⟨se, rfl, hse⟩
  · cases latest with
    | some se => exact (Option.some.inj (pure_eq_ok.1 h')).symm.trans (Option.some.inj (pure_eq_ok.1 h))
    | none =>
      have hlast : (applicationEvents t applicationId).getLast? = some header := pure_eq_ok.1 h
      have hlast' := pure_eq_ok.1 h'
      rw [List.getLast?_map, hlast, Option.map_some, storeAt_of_ne hne] at hlast'
      exact (Option.some.inj hlast').symm
  · obtain rfl := Option.some.inj (pure_eq_ok.1 h)
    exact absurd hse hne
  · obtain rfl := Option.some.inj (pure_eq_ok.1 h')
    exact absurd hse hne'
/-! ## The page in both databases -/

theorem applicationEvents_twin (he : e ∈ t.rows) {applicationId : String}
    (hquery : (applicationQuery applicationId).any (Lookup.holds (twin e doc)) =
      (applicationQuery applicationId).any (Lookup.holds e)) :
    applicationEvents (withPayload t e.seq doc) applicationId =
      (applicationEvents t applicationId).map (storeAt e.seq doc) := by
  rw [applicationEvents_eq, applicationEvents_eq, selectEvents_twin he hquery]

/-- An event is displayable in the other database as it is in this one, with the other payload if
it is the event itself. -/
theorem displayable_other {se : SystemEvent} (hseq : se.seq ≠ e.seq) :
    Displayable rt (withPayload t e.seq doc) (storeAt e.seq doc se) ↔ Displayable rt t se := by
  rw [storeAt_of_ne hseq]
  constructor
  · rintro ⟨hfacts, hchain⟩
    exact ⟨hfacts, systemEventChainCheck_withPayload se ▸ hchain⟩
  · rintro ⟨hfacts, hchain⟩
    exact ⟨hfacts, (systemEventChainCheck_withPayload se).symm ▸ hchain⟩

theorem displayable_twin (h : Twins rt t e doc) :
    Displayable rt (withPayload t e.seq doc) (storeAt e.seq doc e) ↔
      FactsReadable (payloadOf (twin e doc)) ∧ Returns (systemEventChainCheck rt t e) := by
  rw [storeAt_self]
  constructor
  · rintro ⟨hfacts, hchain⟩
    exact ⟨hfacts, h.flags ▸ hchain⟩
  · rintro ⟨hfacts, hchain⟩
    exact ⟨hfacts, h.flags.symm ▸ hchain⟩

/-- Where the page shows the event and is otherwise readable, the public facts of both payloads can
be read or of neither, and the texts shown are the same. -/
def PageTextsAgree (rt : Runtime) (db : ObserverDb) (e : SystemEvent) (doc : Json)
    (applicationId : String) : Prop :=
  e ∈ applicationEvents db.events applicationId →
  (∀ se ∈ applicationEvents db.events applicationId, se.seq ≠ e.seq →
    Displayable rt db.events se) →
  Returns (systemEventChainCheck rt db.events e) →
  (FactsReadable (payloadOf e) ↔ FactsReadable (payloadOf (twin e doc))) ∧
    (FactsReadable (payloadOf e) →
      TimelineTextsAgree rt db e (payloadOf e) (payloadOf (twin e doc)))

/-- The page returns in both databases or in neither. -/
theorem applicationDetail_returns_twin (h : Twins rt db.events e doc) {applicationId : String}
    (hevents : applicationEvents (twinDb db e doc).events applicationId =
      (applicationEvents db.events applicationId).map (storeAt e.seq doc))
    (hagree : PageTextsAgree rt db e doc applicationId) :
    Returns (publicMemberApplicationDetail rt (twinDb db e doc) applicationId) ↔
      Returns (publicMemberApplicationDetail rt db applicationId) := by
  rw [applicationDetail_returns, applicationDetail_returns, hevents, List.forall_mem_map]
  have hrows : ∀ se ∈ applicationEvents db.events applicationId, se.seq = e.seq → se = e :=
    fun se hse => eq_of_seq h.stored (mem_applicationEvents hse)
  constructor
  · intro hall se hse
    have hothers : ∀ se ∈ applicationEvents db.events applicationId, se.seq ≠ e.seq →
        Displayable rt db.events se := fun se hse hseq => (displayable_other hseq).1 (hall se hse)
    by_cases hseq : se.seq = e.seq
    · obtain rfl := hrows se hse hseq
      obtain ⟨hfacts, hchain⟩ := (displayable_twin h).1 (hall se hse)
      exact ⟨(hagree hse hothers hchain).1.2 hfacts, hchain⟩
    · exact hothers se hse hseq
  · intro hall se hse
    by_cases hseq : se.seq = e.seq
    · obtain rfl := hrows se hse hseq
      obtain ⟨hfacts, hchain⟩ := hall se hse
      exact (displayable_twin h).2 ⟨(hagree hse (fun se hse _ => hall se hse) hchain).1.1 hfacts,
        hchain⟩
    · exact (displayable_other hseq).2 (hall se hse)

theorem applicationDetail_items {applicationId : String} {page : MemberApplicationDetail}
    (h : publicMemberApplicationDetail rt db applicationId = .ok (some page)) :
    (applicationEvents db.events applicationId).mapM (timelineItem rt db) =
      .ok page.timelineItems := by
  obtain ⟨header, -, h⟩ := bind_eq_ok.1 h
  cases header with
  | none => cases pure_eq_ok.1 h
  | some header =>
    obtain ⟨stage, -, h⟩ := bind_eq_ok.1 h
    obtain ⟨items, hitems, h⟩ := bind_eq_ok.1 h
    obtain ⟨applicant, -, h⟩ := bind_eq_ok.1 h
    obtain ⟨role, -, h⟩ := bind_eq_ok.1 h
    obtain ⟨proposalNo, -, h⟩ := bind_eq_ok.1 h
    rw [← buildTimelineItems_eq, hitems, ← Option.some.inj (pure_eq_ok.1 h)]

theorem applicationDetail_none {applicationId : String}
    (h : publicMemberApplicationDetail rt db applicationId = .ok none) :
    applicationEvents db.events applicationId = [] := by
  obtain ⟨header, hheader, h⟩ := bind_eq_ok.1 h
  cases header with
  | none => exact headerEvent_none hheader
  | some header =>
    obtain ⟨stage, -, h⟩ := bind_eq_ok.1 h
    obtain ⟨items, -, h⟩ := bind_eq_ok.1 h
    obtain ⟨applicant, -, h⟩ := bind_eq_ok.1 h
    obtain ⟨role, -, h⟩ := bind_eq_ok.1 h
    obtain ⟨proposalNo, -, h⟩ := bind_eq_ok.1 h
    cases pure_eq_ok.1 h

/-- The item of the event in both databases. -/
theorem timelineItem_twin_iff (h : Twins rt db.events e doc)
    (hchain : Returns (systemEventChainCheck rt db.events e)) :
    timelineItem rt (twinDb db e doc) (twin e doc) = timelineItem rt db e ↔
      TimelineTextsAgree rt db e (payloadOf e) (payloadOf (twin e doc)) := by
  obtain ⟨es, hes⟩ := dict_of_isV2 h.v2
  obtain ⟨fs, hfs⟩ := dict_of_isV2 h.twinV2
  obtain ⟨row, hrow⟩ := makeSingleProofRow_dict hes hchain
  have hitem : timelineItem rt db e = .ok ⟨nodeOf rt db e (payloadOf e), row⟩ := by
    unfold timelineItem
    rw [hrow, timelineNode_dict hes]
    rfl
  have hitem' : timelineItem rt (twinDb db e doc) (twin e doc) =
      .ok ⟨nodeOf rt db e (payloadOf (twin e doc)), row⟩ := by
    have hrow' : makeSingleProofRow rt (twinDb db e doc).events (twin e doc) = .ok row :=
      (makeSingleProofRow_twin h).trans hrow
    unfold timelineItem
    rw [hrow', timelineNode_dict hfs]
    rfl
  rw [hitem, hitem', Except.ok.injEq, TimelineItem.mk.injEq, ← nodeOf_eq_iff]
  constructor
  · exact fun heq => heq.1.symm
  · exact fun heq => ⟨heq.symm, rfl⟩

/-- **The page of an application.** -/
theorem applicationDetail_eq_iff (h : Twins rt db.events e doc) {applicationId : String}
    (hquery : (applicationQuery applicationId).any (Lookup.holds (twin e doc)) =
      (applicationQuery applicationId).any (Lookup.holds e))
    (hheader : ∀ se, headerEvent db.events applicationId = .ok (some se) → se.seq ≠ e.seq)
    (hheader' : ∀ se, headerEvent (twinDb db e doc).events applicationId = .ok (some se) →
      se.seq ≠ e.seq) :
    publicMemberApplicationDetail rt (twinDb db e doc) applicationId =
        publicMemberApplicationDetail rt db applicationId ↔
      PageTextsAgree rt db e doc applicationId := by
  have hevents : applicationEvents (twinDb db e doc).events applicationId =
      (applicationEvents db.events applicationId).map (storeAt e.seq doc) :=
    applicationEvents_twin h.stored hquery
  constructor
  · intro heq hshown hothers hchain
    have hsame := congrArg Returns heq
    rw [eq_iff_iff, applicationDetail_returns, applicationDetail_returns, hevents,
      List.forall_mem_map] at hsame
    have hfirst : FactsReadable (payloadOf e) →
        ∀ se ∈ applicationEvents db.events applicationId, Displayable rt db.events se := by
      intro hfacts se hse
      by_cases hseq : se.seq = e.seq
      · exact eq_of_seq h.stored (mem_applicationEvents hse) hseq ▸ ⟨hfacts, hchain⟩
      · exact hothers se hse hseq
    have hsecond : FactsReadable (payloadOf (twin e doc)) →
        ∀ se ∈ applicationEvents db.events applicationId,
          Displayable rt (twinDb db e doc).events (storeAt e.seq doc se) := by
      intro hfacts se hse
      by_cases hseq : se.seq = e.seq
      · obtain rfl := eq_of_seq h.stored (mem_applicationEvents hse) hseq
        exact (displayable_twin h).2 ⟨hfacts, hchain⟩
      · exact (displayable_other hseq).2 (hothers se hse hseq)
    constructor
    · constructor
      · intro hfacts
        exact ((displayable_twin h).1 (hsame.2 (hfirst hfacts) e hshown)).1
      · intro hfacts
        exact (hsame.1 (hsecond hfacts) e hshown).facts
    · intro hfacts
      obtain ⟨page, hpage⟩ := applicationDetail_returns.2 (hfirst hfacts)
      cases page with
      | none =>
        rw [applicationDetail_none hpage] at hshown
        cases hshown
      | some page =>
        have hitems := applicationDetail_items hpage
        have hitems' := applicationDetail_items (heq.trans hpage)
        rw [hevents, List.mapM_map] at hitems'
        have hitem := eq_of_mapM hitems hitems' e hshown
        rw [Function.comp_apply, storeAt_self] at hitem
        exact (timelineItem_twin_iff h hchain).1 hitem.symm
  · intro hagree
    have hboth := applicationDetail_returns_twin h hevents hagree
    by_cases hpage : Returns (publicMemberApplicationDetail rt db applicationId)
    · have hdisplay := applicationDetail_returns.1 hpage
      have hitems : (applicationEvents (twinDb db e doc).events applicationId).mapM
            (timelineItem rt (twinDb db e doc)) =
          (applicationEvents db.events applicationId).mapM (timelineItem rt db) := by
        rw [hevents, List.mapM_map]
        apply mapM_congr
        intro se hse
        by_cases hseq : se.seq = e.seq
        · obtain rfl := eq_of_seq h.stored (mem_applicationEvents hse) hseq
          obtain ⟨hfacts, hchain⟩ := hdisplay se hse
          rw [Function.comp_apply, storeAt_self]
          exact (timelineItem_twin_iff h hchain).2
            ((hagree hse (fun se hse _ => hdisplay se hse) hchain).2 hfacts)
        · rw [Function.comp_apply, storeAt_of_ne hseq, timelineItem_twinDb]
      obtain ⟨header, hfound⟩ := headerEvent_returns.2 fun se hse => (hdisplay se hse).facts
      obtain ⟨header', hfound'⟩ := headerEvent_returns.2 fun se hse =>
        (applicationDetail_returns.1 (hboth.2 hpage) se hse).facts
      have hsame : header' = header := by
        cases header with
        | none =>
          have hempty := headerEvent_none hfound
          cases header' with
          | none => rfl
          | some se =>
            have hmem := headerEvent_some hfound'
            rw [hevents, hempty] at hmem
            cases hmem
        | some se =>
          cases header' with
          | none =>
            have hempty := headerEvent_none hfound'
            have hmem := headerEvent_some hfound
            rw [hevents, List.map_eq_nil_iff] at hempty
            rw [hempty] at hmem
            cases hmem
          | some se' =>
            rw [headerEvent_twin hevents hfound (hheader se hfound) hfound' (hheader' se' hfound')]
      unfold publicMemberApplicationDetail
      rw [hfound, hfound', hsame, buildTimelineItems_eq, buildTimelineItems_eq, hitems]
    · exact eq_of_not_returns (applicationDetail_raises _) (applicationDetail_raises _)
        (fun hpage' => hpage (hboth.1 hpage')) hpage
/-! ## The activity list in both databases -/

/-- The list does not tell two payloads of the public schema apart. -/
theorem isGovernanceActivity_twin (h : Twins rt db.events e doc) (member : Member) :
    isGovernanceActivity db member (twin e doc) = isGovernanceActivity db member e := by
  simp only [isGovernanceActivity, pathIs_schema h.v2, pathIs_schema h.twinV2]
  rfl

theorem activityEvents_twin (h : Twins rt db.events e doc) (member : Member) (limit : Nat) :
    activityEvents (twinDb db e doc) member limit =
      (activityEvents db member limit).map (storeAt e.seq doc) := by
  have hsame : isGovernanceActivity (twinDb db e doc) member = isGovernanceActivity db member := rfl
  have hrows : ∀ event ∈ db.events.bySeq.reverse, event ∈ db.events.rows :=
    fun event hevent => mem_bySeq.1 (List.mem_reverse.1 hevent)
  rw [activityEvents_eq, activityEvents_eq, hsame, List.map_take,
    ← filter_withPayload h.stored (isGovernanceActivity_twin h member) hrows, List.map_reverse]
  rw [show (twinDb db e doc).events = withPayload db.events e.seq doc from rfl, bySeq_withPayload]

/-- Where the list shows the event and can be read, the texts shown are the same. -/
def ListTextsAgree (rt : Runtime) (db : ObserverDb) (e : SystemEvent) (doc : Json)
    (member : Member) (limit : Nat) : Prop :=
  e ∈ activityEvents db member limit →
  (∀ se ∈ activityEvents db member limit, Returns (systemEventChainCheck rt db.events se)) →
  ActivityTextsAgree rt e (payloadOf e) (payloadOf (twin e doc))

theorem activityRow_twin_iff (h : Twins rt t e doc)
    (hchain : Returns (systemEventChainCheck rt t e)) :
    activityRow rt (withPayload t e.seq doc) (twin e doc) = activityRow rt t e ↔
      ActivityTextsAgree rt e (payloadOf e) (payloadOf (twin e doc)) := by
  obtain ⟨es, hes⟩ := dict_of_isV2 h.v2
  obtain ⟨fs, hfs⟩ := dict_of_isV2 h.twinV2
  obtain ⟨chain, hchain⟩ := hchain
  rw [activityRow_dict hes hchain, activityRow_dict hfs (h.flags.trans hchain), Except.ok.injEq,
    ← @activityOf_eq_iff rt e _ _ chain.chainValid]
  exact eq_comm

/-- **The activity of a member.** -/
theorem activity_eq_iff (h : Twins rt db.events e doc) (member : Member) (limit : Nat) :
    publicGovernanceActivityForMember rt (twinDb db e doc) member limit =
        publicGovernanceActivityForMember rt db member limit ↔
      ListTextsAgree rt db e doc member limit := by
  have hevents := activityEvents_twin h member limit
  have hlist : publicGovernanceActivityForMember rt (twinDb db e doc) member limit =
      (activityEvents db member limit).mapM
        (activityRow rt (withPayload db.events e.seq doc) ∘ storeAt e.seq doc) := by
    rw [publicGovernanceActivityForMember, hevents, List.mapM_map]
    rfl
  constructor
  · intro heq hshown hchains
    obtain ⟨rows, hrows⟩ := activity_returns.2 hchains
    have hrow := eq_of_mapM hrows (hlist.symm.trans (heq.trans hrows)) e hshown
    rw [Function.comp_apply, storeAt_self] at hrow
    exact (activityRow_twin_iff h (hchains e hshown)).1 hrow.symm
  · intro hagree
    by_cases hchains : ∀ se ∈ activityEvents db member limit,
        Returns (systemEventChainCheck rt db.events se)
    · rw [hlist]
      apply mapM_congr
      intro se hse
      rw [Function.comp_apply]
      by_cases hseq : se.seq = e.seq
      · obtain rfl := eq_of_seq h.stored (mem_activityEvents hse).1 hseq
        rw [storeAt_self]
        exact (activityRow_twin_iff h (hchains se hse)).2 (hagree hse hchains)
      · rw [storeAt_of_ne hseq, activityRow_withPayload]
    · apply eq_of_not_returns (activity_raises _ _) (activity_raises _ _)
      · rw [activity_returns, hevents, List.forall_mem_map]
        intro hchains'
        apply hchains
        intro se hse
        have hchain := hchains' se hse
        by_cases hseq : se.seq = e.seq
        · obtain rfl := eq_of_seq h.stored (mem_activityEvents hse).1 hseq
          rw [storeAt_self] at hchain
          exact h.flags ▸ hchain
        · rw [storeAt_of_ne hseq] at hchain
          exact systemEventChainCheck_withPayload se ▸ hchain
      · exact fun hreturns => hchains (activity_returns.1 hreturns)
/-! ## All projections -/

/-- The queries behind the pages match both payloads, and the header of the application is not
taken from the event. -/
structure SameMatches (rt : Runtime) (db : ObserverDb) (e : SystemEvent) (doc : Json)
    (event : AuditedEvent) (applicationId : String) : Prop where
  event : ∀ query, systemEventFilterForPublicEvent rt event = .ok query →
    query.any (Lookup.holds (twin e doc)) = query.any (Lookup.holds e)
  page : (applicationQuery applicationId).any (Lookup.holds (twin e doc)) =
    (applicationQuery applicationId).any (Lookup.holds e)
  header : ∀ se, headerEvent db.events applicationId = .ok (some se) → se.seq ≠ e.seq
  twinHeader : ∀ se, headerEvent (twinDb db e doc).events applicationId = .ok (some se) →
    se.seq ≠ e.seq

/-- The projections of both databases are the same: the list row and the detail page of every
event, the proof rows of a public event, the page of an application and the activity of a member. -/
structure SameProjections (rt : Runtime) (db : ObserverDb) (e : SystemEvent) (doc : Json)
    (event : AuditedEvent) (applicationId : String) (member : Member)
    (proofLimit activityLimit : Nat) : Prop where
  row : ∀ se ∈ db.events.rows, publicSystemEventRow rt (twinDb db e doc) (storeAt e.seq doc se) =
    publicSystemEventRow rt db se
  detail : ∀ se ∈ db.events.rows,
    publicSystemEventDetail rt (twinDb db e doc) (storeAt e.seq doc se) =
      publicSystemEventDetail rt db se
  proofRows : publicSystemEventProofRowsForEvent rt (twinDb db e doc).events event proofLimit =
    publicSystemEventProofRowsForEvent rt db.events event proofLimit
  page : publicMemberApplicationDetail rt (twinDb db e doc) applicationId =
    publicMemberApplicationDetail rt db applicationId
  activity : publicGovernanceActivityForMember rt (twinDb db e doc) member activityLimit =
    publicGovernanceActivityForMember rt db member activityLimit

/-- **Refused payloads.** Of two databases that differ in one refused payload only, the list rows,
the detail pages and the proof rows are always the same; the page of an application and the
activity of a member are the same exactly when the few texts agree that they show as stored. -/
theorem refusedPayload_projections (h : Twins rt db.events e doc) {event : AuditedEvent}
    {applicationId : String} {member : Member} {proofLimit activityLimit : Nat}
    (hmatches : SameMatches rt db e doc event applicationId) :
    SameProjections rt db e doc event applicationId member proofLimit activityLimit ↔
      PageTextsAgree rt db e doc applicationId ∧
        ListTextsAgree rt db e doc member activityLimit := by
  have hpage := @applicationDetail_eq_iff rt db e doc h applicationId hmatches.page hmatches.header
    hmatches.twinHeader
  have hactivity := activity_eq_iff h member activityLimit
  constructor
  · exact fun hsame => ⟨hpage.1 hsame.page, hactivity.1 hsame.activity⟩
  · rintro ⟨hpageTexts, hlistTexts⟩
    exact {
      row := fun se hse => publicSystemEventRow_storeAt h hse
      detail := fun se hse => publicSystemEventDetail_storeAt h hse
      proofRows := proofRows_twin h hmatches.event
      page := hpage.2 hpageTexts
      activity := hactivity.2 hlistTexts }

/-! ## A refused payload on a page -/

/-- A payload of the public schema whose facts hold a mail address. -/
def mailDoc (summary : String) : Json := .obj [
  ("schema", .str publicLedgerSchema),
  ("subject", .obj [("type", .str "member_application"), ("ref", .str "application:A-1"),
    ("label", .str "A-1")]),
  ("action", .str "submit"), ("stage", .str "submitted"), ("summary", .str summary),
  ("public_facts", .obj [("email", .str "a@example.org")]), ("private_commitments", .arr [])]

/-- The payload that the header of the page is taken from. -/
def reviewDoc : Json := .obj [
  ("schema", .str publicLedgerSchema),
  ("subject", .obj [("type", .str "member_application"), ("ref", .str "application:A-1"),
    ("label", .str "A-1")]),
  ("action", .str "review"), ("stage", .str "admitted"), ("summary", .str "Reviewed"),
  ("public_facts", .obj [("application_id", .str "A-1"), ("stage", .str "admitted")]),
  ("private_commitments", .arr [])]

def applicationEvent (seq : Nat) (eventHash : String) (doc : Json) : SystemEvent where
  seq := seq
  eventType := "member_application_submitted"
  aggregateType := "MemberApplication"
  aggregateId := "A-1"
  actorMember := none
  actorRoleAssignment := none
  payloadJson := doc
  payloadHash := ""
  prevHash := ""
  eventHash := eventHash
  occurredAt := 0

def mailEvent : SystemEvent := applicationEvent 1 "h1" (mailDoc "first")

def reviewEvent : SystemEvent := applicationEvent 2 "h2" reviewDoc

theorem applicationTable_seq : ([mailEvent, reviewEvent].map SystemEvent.seq).Nodup := by
  simp [mailEvent, reviewEvent, applicationEvent]

theorem applicationTable_hash : ([mailEvent, reviewEvent].map SystemEvent.eventHash).Nodup := by
  simp [mailEvent, reviewEvent, applicationEvent]

def applicationDb : ObserverDb where
  events := ⟨[mailEvent, reviewEvent], applicationTable_seq, applicationTable_hash⟩
  members := .empty
  profiles := []
  grants := .empty
  assignments := .empty

theorem mailEvent_chain : systemEventChainCheck textRuntime applicationDb.events mailEvent =
    .ok ⟨false, true, false, false, false⟩ := by
  decide +kernel

theorem mailTwin_chain : systemEventChainCheck textRuntime
    (withPayload applicationDb.events 1 (mailDoc "second")) (twin mailEvent (mailDoc "second")) =
      .ok ⟨false, true, false, false, false⟩ := by
  decide +kernel

theorem reviewEvent_chain : systemEventChainCheck textRuntime applicationDb.events reviewEvent =
    .ok ⟨false, false, false, false, true⟩ := by
  decide +kernel

theorem mailTwins : Twins textRuntime applicationDb.events mailEvent (mailDoc "second") where
  stored := List.mem_cons_self
  v2 := rfl
  twinV2 := rfl
  refused := ⟨_, rfl⟩
  twinRefused := ⟨_, rfl⟩
  subjectRef := rfl
  flags := mailTwin_chain.trans mailEvent_chain.symm

theorem applicationDb_events :
    applicationEvents applicationDb.events "A-1" = [mailEvent, reviewEvent] := rfl

theorem applicationDb_header :
    headerEvent applicationDb.events "A-1" = .ok (some reviewEvent) := rfl

theorem mailTwin_header :
    headerEvent (twinDb applicationDb mailEvent (mailDoc "second")).events "A-1" =
      .ok (some reviewEvent) := rfl

theorem reviewEvent_seq : reviewEvent.seq ≠ mailEvent.seq := by decide

/-- The event the header is taken from can be shown. -/
theorem reviewEvent_displayable : Displayable textRuntime applicationDb.events reviewEvent :=
  ⟨⟨_, rfl⟩, _, reviewEvent_chain⟩

/-- The summaries of the two refused payloads are shown as they are stored. -/
theorem mailTwins_differ : ¬ PageTextsAgree textRuntime applicationDb mailEvent (mailDoc "second")
    "A-1" := by
  intro hagree
  have hothers : ∀ se ∈ applicationEvents applicationDb.events "A-1", se.seq ≠ mailEvent.seq →
      Displayable textRuntime applicationDb.events se := by
    rw [applicationDb_events]
    intro se hse hseq
    rcases List.mem_cons.1 hse with rfl | hse
    · exact absurd rfl hseq
    · exact List.mem_singleton.1 hse ▸ reviewEvent_displayable
  have hshown : mailEvent ∈ applicationEvents applicationDb.events "A-1" := List.mem_cons_self
  have htexts := (hagree hshown hothers ⟨_, mailEvent_chain⟩).2 ⟨_, rfl⟩
  have hsummary : "first" = "second" := htexts.summary
  exact absurd hsummary (by decide)

/-- A public event that is linked to the application. -/
def applicationNotice : AuditedEvent where
  payload := .obj [("application_id", .str "A-1")]
  relatedTask := none
  relatedFeedbackId := ""

def visitedMember : Member where
  pk := 1
  memberNo := "M-1"
  user := none
  displayName := ""
  status := .active
  profile := []

theorem applicationNotice_query (query : List Lookup)
    (hquery : systemEventFilterForPublicEvent textRuntime applicationNotice = .ok query) :
    query.any (Lookup.holds (twin mailEvent (mailDoc "second"))) =
      query.any (Lookup.holds mailEvent) := by
  have hfound : systemEventFilterForPublicEvent textRuntime applicationNotice =
      .ok (applicationQuery "A-1") := rfl
  obtain rfl := Except.ok.inj (hfound.symm.trans hquery)
  rfl

theorem mailTwins_matches :
    SameMatches textRuntime applicationDb mailEvent (mailDoc "second") applicationNotice "A-1" where
  event := applicationNotice_query
  page := rfl
  header := fun _ hse =>
    Option.some.inj (Except.ok.inj (applicationDb_header.symm.trans hse)) ▸ reviewEvent_seq
  twinHeader := fun _ hse =>
    Option.some.inj (Except.ok.inj (mailTwin_header.symm.trans hse)) ▸ reviewEvent_seq

/-- The pages of the two databases above. -/
theorem mailTwins_projections :
    SameProjections textRuntime applicationDb mailEvent (mailDoc "second") applicationNotice "A-1"
        visitedMember 8 20 ↔
      PageTextsAgree textRuntime applicationDb mailEvent (mailDoc "second") "A-1" ∧
        ListTextsAgree textRuntime applicationDb mailEvent (mailDoc "second") visitedMember 20 :=
  refusedPayload_projections mailTwins mailTwins_matches

/-- The pages do not hide every refused payload. -/
theorem refusedPayload_shown : ¬ ∀ (rt : Runtime) (db : ObserverDb) (e : SystemEvent) (doc : Json)
    (event : AuditedEvent) (applicationId : String) (member : Member)
    (proofLimit activityLimit : Nat), Twins rt db.events e doc →
    SameMatches rt db e doc event applicationId →
    SameProjections rt db e doc event applicationId member proofLimit activityLimit := by
  intro hclaim
  have hsame := hclaim textRuntime applicationDb mailEvent (mailDoc "second") applicationNotice
    "A-1" visitedMember 8 20 mailTwins mailTwins_matches
  apply mailTwins_differ
  exact (applicationDetail_eq_iff mailTwins mailTwins_matches.page mailTwins_matches.header
    mailTwins_matches.twinHeader).1 hsame.page

end LiveOs.Observer
