import LiveOs.EventLedger.Verify.Payloads
import LiveOs.Observer.Projections
import LiveOs.Observer.Verify.ChainCheck

/-!
# Reading the payload of an event

What the public pages take from a payload, and when they raise: a proof row, a node of the timeline
and a row of the activity list return on every dict whose chain check returns.
-/

namespace LiveOs.Observer

open Lib EventLedger Roles

variable {rt : Runtime} {t : EventTable} {db : ObserverDb}

/-! ## Reading a payload -/

/-- The text the pages read under a key of a payload. -/
def storedText (rt : Runtime) (payload : PyVal) (key : String) : String :=
  match payload with
  | .dict es => entryText rt es key
  | _ => ""

/-- The text the pages read under a key of the public facts of a payload. -/
def factText (rt : Runtime) (payload : PyVal) (key : String) : String :=
  match dictUnder payload "public_facts" with
  | .ok facts => entryText rt facts key
  | .error _ => ""

theorem textOf_dict (es : List (PyKey × PyVal)) (key : String) :
    textOf rt (.dict es) key = .ok (storedText rt (.dict es) key) := rfl

theorem dictUnder_dict (es : List (PyKey × PyVal)) (key : String) :
    Returns (dictUnder (.dict es) key) := by
  apply Returns.bind (returns_ok _)
  intro value
  cases value <;> exact returns_ok _

theorem listUnder_dict (es : List (PyKey × PyVal)) (key : String) :
    Returns (listUnder (.dict es) key) := by
  apply Returns.bind (returns_ok _)
  intro value
  cases value <;> exact returns_ok _

/-- The one exception the pages meet: a method called on a value that has none. -/
abbrev RaisesAttribute {α : Type} (x : Except Error α) : Prop := RaisesOnly (· = .attribute) x

theorem dictGet_raises (v : PyVal) (key : String) (default : PyVal) :
    RaisesAttribute (dictGet v key default) := by
  cases v with
  | dict es => exact .ok _
  | _ => exact .error rfl

theorem dict_of_dictGet {v value default : PyVal} {key : String}
    (h : dictGet v key default = .ok value) : ∃ es, v = .dict es := by
  cases v with
  | dict es => exact ⟨es, rfl⟩
  | _ => cases h

theorem dict_of_isV2 {v : PyVal} {b : Bool} (h : isV2 v = .ok b) : ∃ es, v = .dict es := by
  obtain ⟨_, hget, -⟩ := bind_eq_ok.1 h
  exact dict_of_dictGet hget

theorem textOf_raises (payload : PyVal) (key : String) : RaisesAttribute (textOf rt payload key) :=
  .bind (dictGet_raises _ _ _) fun _ => .ok _

theorem dictUnder_raises (payload : PyVal) (key : String) :
    RaisesAttribute (dictUnder payload key) := by
  apply RaisesOnly.bind (dictGet_raises _ _ _)
  intro value
  cases value <;> exact .ok _

theorem isV2_raises (payload : PyVal) : RaisesAttribute (isV2 payload) :=
  .bind (dictGet_raises _ _ _) fun _ => .ok _

theorem subjectRef_raises (payload : PyVal) (aggregateId : String) :
    RaisesAttribute (subjectRef rt payload aggregateId) :=
  .bind (dictGet_raises _ _ _) fun _ => .bind (dictGet_raises _ _ _) fun _ => .ok _

/-- What the pages read is a document. -/
theorem payloadOf_json (event : SystemEvent) : ∃ j : Json, payloadOf event = j.toPy := by
  unfold payloadOf orEmptyDict
  split
  · exact ⟨_, rfl⟩
  · exact ⟨.obj [], rfl⟩

theorem hashJson_payloadOf (event : SystemEvent) : Returns (hashJson rt (payloadOf event)) := by
  obtain ⟨j, hj⟩ := payloadOf_json event
  rw [hj, hashJson_toPy]
  exact returns_ok _

theorem canonicalJson_payloadOf (event : SystemEvent) : Returns (canonicalJson (payloadOf event)) := by
  obtain ⟨j, hj⟩ := payloadOf_json event
  rw [hj, canonicalJson, canonicalText_toPy]
  exact returns_ok _

theorem expectedEventHash_raises (event : SystemEvent) :
    RaisesAttribute (expectedEventHash rt event) := by
  apply RaisesOnly.bind (isV2_raises _)
  intro v2
  cases v2 with
  | true =>
    apply RaisesOnly.bind (subjectRef_raises _ _)
    intro ref
    rw [computeEventHashV2, eventHashPayloadV2_eq, hashJson_toPy]
    exact .ok _
  | false =>
    rw [if_neg Bool.false_ne_true, computeEventHash, eventHashPayload_eq, hashJson_toPy]
    exact .ok _

theorem systemEventChainCheck_raises (event : SystemEvent) :
    RaisesAttribute (systemEventChainCheck rt t event) :=
  .bind (.of_returns (hashJson_payloadOf event)) fun _ =>
    .bind (expectedEventHash_raises event) fun _ => .ok _

/-- The validator is asked under an `except` that names all it can raise. -/
theorem passesValidation_returns (payload : PyVal) : Returns (passesValidation rt payload) := by
  unfold passesValidation
  cases h : validatePublicLedgerPayload rt payload with
  | ok _ => exact returns_ok _
  | error e =>
    obtain ⟨message, rfl⟩ := validatePublicLedgerPayload_raises rt payload e h
    exact returns_ok _
/-! ## A proof row -/

theorem safeProjection_dict (es : List (PyKey × PyVal)) : Returns (safeProjection rt (.dict es)) := by
  apply Returns.bind (dictUnder_dict es _)
  intro subject
  apply Returns.bind (dictUnder_dict es _)
  intro facts
  apply Returns.bind (listUnder_dict es _)
  intro commitments
  exact returns_ok _

theorem publicSystemEventPayload_dict {event : SystemEvent} {es : List (PyKey × PyVal)}
    (h : payloadOf event = .dict es) : Returns (publicSystemEventPayload rt event) := by
  unfold publicSystemEventPayload
  rw [h]
  apply Returns.bind (returns_ok _)
  intro v2
  cases v2 with
  | true =>
    apply Returns.bind (passesValidation_returns _)
    intro passes
    cases passes with
    | true => exact safeProjection_dict es
    | false => exact returns_ok _
  | false => exact returns_ok _

theorem proofDisplay_dict {event : SystemEvent} {es : List (PyKey × PyVal)}
    (h : payloadOf event = .dict es) (isNewSchema : Bool) :
    Returns (proofDisplay rt event isNewSchema) := by
  cases isNewSchema with
  | true =>
    apply Returns.bind (publicSystemEventPayload_dict h)
    intro display
    apply Returns.bind (passesValidation_returns _)
    intro passes
    cases passes <;> exact returns_ok _
  | false => exact returns_ok _

/-- A dict has its proof row when its chain check returns. -/
theorem makeSingleProofRow_dict {event : SystemEvent} {es : List (PyKey × PyVal)}
    (h : payloadOf event = .dict es) (hchain : Returns (systemEventChainCheck rt t event)) :
    Returns (makeSingleProofRow rt t event) := by
  apply Returns.bind hchain
  intro chain
  rw [h]
  apply Returns.bind (returns_ok _)
  intro isNewSchema
  apply Returns.bind (proofDisplay_dict h isNewSchema)
  rintro ⟨display, passes, note⟩
  have hcanonical := canonicalJson_payloadOf event
  rw [h] at hcanonical
  cases passes with
  | true => exact Returns.bind hcanonical fun _ => returns_ok _
  | false => exact Returns.bind (returns_ok _) fun _ => returns_ok _

theorem makeSingleProofRow_chain {event : SystemEvent}
    (h : Returns (makeSingleProofRow rt t event)) : Returns (systemEventChainCheck rt t event) := by
  obtain ⟨chain, hchain, -⟩ := returns_bind.1 h
  exact ⟨chain, hchain⟩

/-- Only the chain check of a dict can raise in a proof row. -/
theorem makeSingleProofRow_raises (event : SystemEvent) :
    RaisesAttribute (makeSingleProofRow rt t event) := by
  rcases returns_or_error (systemEventChainCheck rt t event) with hchain | ⟨e, hchain⟩
  · cases h : payloadOf event with
    | dict es => exact .of_returns (makeSingleProofRow_dict h hchain)
    | _ =>
      apply RaisesOnly.bind (systemEventChainCheck_raises event)
      intro chain
      rw [h]
      exact .error rfl
  · have herror := systemEventChainCheck_raises event e hchain
    subst herror
    unfold makeSingleProofRow
    rw [hchain]
    exact .error rfl
/-! ## A node of the timeline -/

/-- The node of an event with the given payload. -/
def nodeOf (rt : Runtime) (db : ObserverDb) (se : SystemEvent) (payload : PyVal) : TimelineNode where
  seq := se.seq
  occurredAt := se.occurredAt
  eventType := se.eventType
  eventTypeDisplay := eventTypeDisplay se
  title := labelOf timelineTitles se.eventType (eventTypeDisplay se)
  summary := orText (storedText rt payload "summary") (defaultSummary se)
  actorDisplay := orText (factText rt payload "voter_public_name") (timelineActor db se)
  voteChoiceLabel := factText rt payload "vote_choice_label"
  voteReason := factText rt payload "reason"
  aggregateType := se.aggregateType
  actorMemberNo := (((actorMember db se).map (publicMemberIdentity db)).map
    MemberIdentity.memberNo).getD ""
  actorAvatarUrl := (((actorMember db se).map (publicMemberIdentity db)).map
    MemberIdentity.avatarUrl).getD ""
  actorProfilePublicName := (((actorMember db se).map (publicMemberIdentity db)).map
    MemberIdentity.publicName).getD ""

theorem timelineNode_dict {se : SystemEvent} {es : List (PyKey × PyVal)}
    (h : payloadOf se = .dict es) :
    timelineNodeFromSystemEvent rt db se = .ok (nodeOf rt db se (payloadOf se)) := by
  obtain ⟨facts, hfacts⟩ := dictUnder_dict es "public_facts"
  have htext : ∀ key, factText rt (.dict es) key = entryText rt facts key := by
    intro key
    rw [factText, hfacts]
  unfold timelineNodeFromSystemEvent nodeOf
  rw [h]
  simp only [hfacts, textOf_dict, htext, ok_bind]
  rfl

theorem timelineNode_raises (se : SystemEvent) :
    RaisesAttribute (timelineNodeFromSystemEvent rt db se) :=
  .bind (dictUnder_raises _ _) fun _ => .bind (textOf_raises _ _) fun _ => .ok _

theorem timelineItem_raises (se : SystemEvent) : RaisesAttribute (timelineItem rt db se) :=
  .bind (makeSingleProofRow_raises se) fun _ => .bind (timelineNode_raises se) fun _ => .ok _

theorem timelineItem_dict {se : SystemEvent} {es : List (PyKey × PyVal)}
    (h : payloadOf se = .dict es) (hchain : Returns (systemEventChainCheck rt db.events se)) :
    Returns (timelineItem rt db se) := by
  apply Returns.bind (makeSingleProofRow_dict h hchain)
  intro row
  rw [timelineNode_dict h]
  exact returns_ok _

/-- The texts of two payloads that the timeline shows of an event as they are stored. -/
structure TimelineTextsAgree (rt : Runtime) (db : ObserverDb) (se : SystemEvent) (p q : PyVal) :
    Prop where
  summary : orText (storedText rt p "summary") (defaultSummary se) =
    orText (storedText rt q "summary") (defaultSummary se)
  voter : orText (factText rt p "voter_public_name") (timelineActor db se) =
    orText (factText rt q "voter_public_name") (timelineActor db se)
  voteChoice : factText rt p "vote_choice_label" = factText rt q "vote_choice_label"
  voteReason : factText rt p "reason" = factText rt q "reason"

theorem nodeOf_eq_iff {se : SystemEvent} {p q : PyVal} :
    nodeOf rt db se p = nodeOf rt db se q ↔ TimelineTextsAgree rt db se p q := by
  constructor
  · intro h
    exact ⟨congrArg TimelineNode.summary h, congrArg TimelineNode.actorDisplay h,
      congrArg TimelineNode.voteChoiceLabel h, congrArg TimelineNode.voteReason h⟩
  · rintro ⟨hsummary, hvoter, hchoice, hreason⟩
    unfold nodeOf
    rw [hsummary, hvoter, hchoice, hreason]
/-! ## A row of the activity list -/

/-- The row of an event with the given payload. -/
def activityOf (rt : Runtime) (event : SystemEvent) (payload : PyVal) (chainValid : Bool) :
    ActivityRow where
  seq := event.seq
  title := labelOf eventTitleMap event.eventType (eventTypeDisplay event)
  eventTypeDisplay := eventTypeDisplay event
  occurredAt := event.occurredAt
  summary := orText (storedText rt payload "summary") (eventTypeDisplay event)
  eventHashShort := shortHash event.eventHash
  chainValid := chainValid
  voteChoice := shownText (factText rt payload "vote_choice_label")
  voteReason := shownText (factText rt payload "reason")
  credentialLabel :=
    if event.eventType = "credential_granted" then
      credentialLabel (factText rt payload "template_name") (factText rt payload "display_no")
    else none
  roleName :=
    if event.eventType = "role_assigned" ∨ event.eventType = "role_revoked" then
      shownText (factText rt payload "role_name")
    else none

theorem activityRow_dict {event : SystemEvent} {es : List (PyKey × PyVal)} {chain : ChainCheck}
    (h : payloadOf event = .dict es) (hchain : systemEventChainCheck rt t event = .ok chain) :
    activityRow rt t event = .ok (activityOf rt event (payloadOf event) chain.chainValid) := by
  obtain ⟨facts, hfacts⟩ := dictUnder_dict es "public_facts"
  have htext : ∀ key, factText rt (.dict es) key = entryText rt facts key := by
    intro key
    rw [factText, hfacts]
  unfold activityRow activityOf
  rw [hchain, h]
  simp only [hfacts, textOf_dict, htext, ok_bind]
  rfl

theorem activityRow_raises (event : SystemEvent) : RaisesAttribute (activityRow rt t event) :=
  .bind (systemEventChainCheck_raises event) fun _ => .bind (textOf_raises _ _) fun _ =>
    .bind (dictUnder_raises _ _) fun _ => .ok _

theorem shownText_inj {a b : String} (h : shownText a = shownText b) : a = b := by
  unfold shownText at h
  split at h <;> split at h <;> simp_all

/-- The texts of two payloads that the activity list shows of an event as they are stored. -/
structure ActivityTextsAgree (rt : Runtime) (event : SystemEvent) (p q : PyVal) : Prop where
  summary : orText (storedText rt p "summary") (eventTypeDisplay event) =
    orText (storedText rt q "summary") (eventTypeDisplay event)
  voteChoice : factText rt p "vote_choice_label" = factText rt q "vote_choice_label"
  voteReason : factText rt p "reason" = factText rt q "reason"
  credential : event.eventType = "credential_granted" →
    credentialLabel (factText rt p "template_name") (factText rt p "display_no") =
      credentialLabel (factText rt q "template_name") (factText rt q "display_no")
  roleName : event.eventType = "role_assigned" ∨ event.eventType = "role_revoked" →
    factText rt p "role_name" = factText rt q "role_name"

theorem activityOf_eq_iff {event : SystemEvent} {p q : PyVal} {chainValid : Bool} :
    activityOf rt event p chainValid = activityOf rt event q chainValid ↔
      ActivityTextsAgree rt event p q := by
  constructor
  · intro h
    refine ⟨congrArg ActivityRow.summary h, shownText_inj (congrArg ActivityRow.voteChoice h),
      shownText_inj (congrArg ActivityRow.voteReason h), fun htype => ?_, fun htype => ?_⟩
    · have hlabel := congrArg ActivityRow.credentialLabel h
      simpa only [activityOf, if_pos htype] using hlabel
    · have hname := congrArg ActivityRow.roleName h
      simp only [activityOf, if_pos htype] at hname
      exact shownText_inj hname
  · rintro ⟨hsummary, hchoice, hreason, hcredential, hrole⟩
    unfold activityOf
    rw [hsummary, hchoice, hreason]
    congr 1
    · split
      · next htype => exact hcredential htype
      · rfl
    · split
      · next htype => rw [hrole htype]
      · rfl
end LiveOs.Observer
