import LiveOs.Feedback.Services
import LiveOs.Roles.Verify.Permissions
import Mathlib.Data.List.Infix

/-!
# The life of an event feedback

What one call does to the row it is about, and what follows for every run: the edges a feedback
follows, what is never written again, and the events it leaves. A response is the exception: a
handler may ask for a second one, and the second one replaces the first.
-/

namespace LiveOs.Feedback

open Lib EventLedger Roles

variable {rt : Runtime}

/-! ## What a feedback is meant to do -/

/-- The edges of the life cycle. -/
inductive Edge : FeedbackStatus → FeedbackStatus → Prop where
  | started : Edge .submitted .verifying
  | requested : Edge .verifying .awaitingResponse
  | responded : Edge .awaitingResponse .verifying
  | concluded : Edge .verifying .concluded
  | concludedAwaiting : Edge .awaitingResponse .concluded
  | closed : Edge .concluded .closed
  | withdrawn : Edge .submitted .withdrawn

/-- Event, submitter, statement, evidence and visibility choice are the same. -/
structure SameTerms (f g : EventFeedback) : Prop where
  relatedEvent : g.relatedEvent = f.relatedEvent
  submittedBy : g.submittedBy = f.submittedBy
  statement : g.statement = f.statement
  evidenceRefs : g.evidenceRefs = f.evidenceRefs
  submitterVisibility : g.submitterVisibility = f.submitterVisibility
  privacyReason : g.privacyReason = f.privacyReason

/-- Response, responder and time are the same. -/
structure SameResponse (f g : EventFeedback) : Prop where
  responseStatement : g.responseStatement = f.responseStatement
  respondedBy : g.respondedBy = f.respondedBy
  respondedAt : g.respondedAt = f.respondedAt

/-- Conclusion, its reason and its author are the same. -/
structure SameConclusion (f g : EventFeedback) : Prop where
  conclusion : g.conclusion = f.conclusion
  conclusionReason : g.conclusionReason = f.conclusionReason
  concludedBy : g.concludedBy = f.concludedBy

def EventFeedback.Decided (f : EventFeedback) : Prop :=
  f.status = .concluded ∨ f.status = .closed

instance (f : EventFeedback) : Decidable f.Decided :=
  inferInstanceAs (Decidable (_ ∨ _))

/-- Conclusion, reason and author are set when the feedback is decided, and blank before. -/
structure ConclusionFits (f : EventFeedback) : Prop where
  conclusion : f.conclusion ∈ conclusions ↔ f.Decided
  blank : f.conclusion = "" ↔ ¬ f.Decided
  conclusionReason : f.conclusionReason ≠ "" ↔ f.Decided
  concludedBy : f.concludedBy ≠ none ↔ f.Decided

/-- A recorded response is never overwritten. -/
def KeepsResponse (f g : EventFeedback) : Prop := f.respondedBy ≠ none → SameResponse f g

/-- The terms never change, nor does a conclusion, nor the row it belongs to. -/
structure KeepsRecord (f g : EventFeedback) : Prop where
  feedbackId : g.feedbackId = f.feedbackId
  terms : SameTerms f g
  conclusion : f.Decided → SameConclusion f g ∧ g.Decided

theorem SameTerms.refl (f : EventFeedback) : SameTerms f f := ⟨rfl, rfl, rfl, rfl, rfl, rfl⟩

theorem SameTerms.trans {f g h : EventFeedback} (hfg : SameTerms f g) (hgh : SameTerms g h) :
    SameTerms f h where
  relatedEvent := hgh.relatedEvent.trans hfg.relatedEvent
  submittedBy := hgh.submittedBy.trans hfg.submittedBy
  statement := hgh.statement.trans hfg.statement
  evidenceRefs := hgh.evidenceRefs.trans hfg.evidenceRefs
  submitterVisibility := hgh.submitterVisibility.trans hfg.submitterVisibility
  privacyReason := hgh.privacyReason.trans hfg.privacyReason

theorem SameResponse.refl (f : EventFeedback) : SameResponse f f := ⟨rfl, rfl, rfl⟩

theorem KeepsResponse.trans {f g h : EventFeedback} (hfg : KeepsResponse f g)
    (hgh : KeepsResponse g h) : KeepsResponse f h := by
  intro hf
  have hg := hfg hf
  have hh := hgh (by rw [hg.respondedBy]; exact hf)
  exact ⟨hh.responseStatement.trans hg.responseStatement, hh.respondedBy.trans hg.respondedBy,
    hh.respondedAt.trans hg.respondedAt⟩

theorem SameConclusion.refl (f : EventFeedback) : SameConclusion f f := ⟨rfl, rfl, rfl⟩

theorem SameConclusion.trans {f g h : EventFeedback} (hfg : SameConclusion f g)
    (hgh : SameConclusion g h) : SameConclusion f h :=
  ⟨hgh.conclusion.trans hfg.conclusion, hgh.conclusionReason.trans hfg.conclusionReason,
    hgh.concludedBy.trans hfg.concludedBy⟩

theorem KeepsRecord.refl (f : EventFeedback) : KeepsRecord f f :=
  ⟨rfl, .refl f, fun h => ⟨.refl f, h⟩⟩

theorem KeepsRecord.trans {f g h : EventFeedback} (hfg : KeepsRecord f g)
    (hgh : KeepsRecord g h) : KeepsRecord f h := by
  refine ⟨hgh.feedbackId.trans hfg.feedbackId, hfg.terms.trans hgh.terms, fun hf => ?_⟩
  obtain ⟨hsame, hg⟩ := hfg.conclusion hf
  obtain ⟨hsame', hh⟩ := hgh.conclusion hg
  exact ⟨hsame.trans hsame', hh⟩

/-! ## One call -/

/-- The call records a response on the row. -/
def FeedbackRequest.Responds (row : EventFeedback) : FeedbackRequest → Prop
  | .respond f responder text => row.feedbackId = f.feedbackId ∧
      row.status = .awaitingResponse ∧ row.subjectMember = some responder.pk ∧ strip text ≠ ""
  | _ => False

instance (row : EventFeedback) : ∀ req : FeedbackRequest, Decidable (req.Responds row)
  | .respond _ _ _ => inferInstanceAs (Decidable (_ ∧ _ ∧ _ ∧ _ ≠ _))
  | .submit _ => isFalse id
  | .startVerification _ _ => isFalse id
  | .requestResponse _ _ => isFalse id
  | .conclude _ _ _ _ _ => isFalse id
  | .close _ _ => isFalse id
  | .withdraw _ _ => isFalse id

/-- The call records no response on a feedback that has one. -/
def FirstResponse (s : FeedbackState rt) (c : FeedbackCall) : Prop :=
  ∀ row ∈ s.feedbacks.rows, c.request.Responds row → row.respondedBy = none

instance (s : FeedbackState rt) (c : FeedbackCall) : Decidable (FirstResponse s c) :=
  inferInstanceAs (Decidable (∀ row ∈ s.feedbacks.rows, _ → _))

/-- What a transition makes of a row. -/
structure Moved (req : FeedbackRequest) (old new : EventFeedback) : Prop where
  edge : Edge old.status new.status
  record : KeepsRecord old new
  fits : ConclusionFits old → ConclusionFits new
  response : SameResponse old new ∨ req.Responds old

/-- The events of a feedback. -/
def feedbackEvents (s : FeedbackState rt) (id : String) : List AppendRequest :=
  s.events.calls.filter fun req => req.aggregateType = "EventFeedback" && req.aggregateId = id

/-- A row was added, as a submission leaves it. -/
structure Submitted (s s' : FeedbackState rt) (f : EventFeedback) : Prop where
  rows : s'.feedbacks.rows = s.feedbacks.rows ++ [f]
  status : f.status = .submitted
  fits : ConclusionFits f
  fresh : ∀ g ∈ s.feedbacks.rows, g.feedbackId ≠ f.feedbackId

/-- One row was moved, the others are as they were. -/
structure Transition (req : FeedbackRequest) (s s' : FeedbackState rt) (old f : EventFeedback) :
    Prop where
  mem : old ∈ s.feedbacks.rows
  moved : Moved req old f
  rows : s'.feedbacks.rows = s.feedbacks.rows.map fun r =>
    if r.feedbackId = f.feedbackId then f.over r else r

/-- What a successful call leaves behind: a new row or a moved one, and one event about it. -/
structure FeedbackEffect (c : FeedbackCall) (s s' : FeedbackState rt) (f : EventFeedback) :
    Prop where
  rows : Submitted s s' f ∨ ∃ old, Transition c.request s s' old f
  events : ∃ req : AppendRequest, req.aggregateType = "EventFeedback" ∧
    req.aggregateId = f.feedbackId ∧ s'.events.calls = s.events.calls ++ [req]

theorem lockFeedback_ok {s : FeedbackState rt} {feedback row : EventFeedback}
    (h : lockFeedback s feedback = .ok row) :
    row ∈ s.feedbacks.rows ∧ row.feedbackId = feedback.feedbackId := by
  unfold lockFeedback at h
  split at h
  · rename_i r hr
    obtain rfl := Except.ok.inj h
    exact Table.get?_eq_some.1 hr
  · cases h

theorem appendFeedbackEvent_ok {env : FeedbackEnv} {events events' : Journal rt}
    {f : EventFeedback} {actor : Nat} {event : FeedbackEvent}
    (h : appendFeedbackEvent env events f actor event = .ok events') :
    ∃ req : AppendRequest, req.aggregateType = "EventFeedback" ∧ req.aggregateId = f.feedbackId ∧
      events'.calls = events.calls ++ [req] :=
  ⟨_, rfl, rfl, (Journal.append_eq_ok h).2⟩

theorem saveFeedback_ok {env : FeedbackEnv} {s s' : FeedbackState rt} {old new f : EventFeedback}
    {actor : Nat} {event : FeedbackEvent} {c : FeedbackCall} (hold : old ∈ s.feedbacks.rows)
    (hmoved : Moved c.request old new)
    (h : saveFeedback env s new actor event = .ok (s', f)) : FeedbackEffect c s s' f := by
  obtain ⟨events, hevents, h⟩ := bind_eq_ok.1 h
  obtain ⟨rfl, rfl⟩ := Prod.mk.inj (pure_eq_ok.1 h)
  exact ⟨.inr ⟨old, hold, hmoved, rfl⟩, appendFeedbackEvent_ok hevents⟩

theorem submitEventFeedback_ok {env : FeedbackEnv} {s s' : FeedbackState rt} {args : SubmitArgs}
    {f : EventFeedback} {c : FeedbackCall} (h : submitEventFeedback env s args = .ok (s', f)) :
    FeedbackEffect c s s' f := by
  unfold submitEventFeedback at h
  obtain ⟨-, h⟩ := rejectIf_bind_eq_ok.1 h
  obtain ⟨-, h⟩ := rejectIf_bind_eq_ok.1 h
  split at h
  · cases h
  split at h
  · cases h
  obtain ⟨-, h⟩ := rejectIf_bind_eq_ok.1 h
  obtain ⟨-, h⟩ := rejectIf_bind_eq_ok.1 h
  obtain ⟨-, h⟩ := rejectIf_bind_eq_ok.1 h
  obtain ⟨id, -, h⟩ := bind_eq_ok.1 h
  obtain ⟨feedbacks, hinsert, h⟩ := bind_eq_ok.1 h
  obtain ⟨events, hevents, h⟩ := bind_eq_ok.1 h
  obtain ⟨rfl, rfl⟩ := Prod.mk.inj (pure_eq_ok.1 h)
  obtain ⟨hrows, hfresh, -⟩ := Table.insert_ok hinsert
  refine ⟨.inl ⟨hrows, rfl, ?_, hfresh⟩, appendFeedbackEvent_ok hevents⟩
  constructor <;> simp [submittedFeedback, EventFeedback.Decided, conclusions]

/-- A transition that leaves the conclusion alone: an undecided row stays undecided. -/
theorem Moved.of_undecided {req : FeedbackRequest} {old new : EventFeedback}
    (hedge : Edge old.status new.status) (hid : new.feedbackId = old.feedbackId)
    (hterms : SameTerms old new) (hsame : SameConclusion old new)
    (hdecided : new.Decided ↔ old.Decided)
    (hresponse : SameResponse old new ∨ req.Responds old) : Moved req old new where
  edge := hedge
  record := ⟨hid, hterms, fun h => ⟨hsame, hdecided.2 h⟩⟩
  fits h := by
    refine ⟨?_, ?_, ?_, ?_⟩
    · rw [hsame.conclusion, hdecided]; exact h.conclusion
    · rw [hsame.conclusion, hdecided]; exact h.blank
    · rw [hsame.conclusionReason, hdecided]; exact h.conclusionReason
    · rw [hsame.concludedBy, hdecided]; exact h.concludedBy
  response := hresponse

theorem ne_empty_of_mem_conclusions {conclusion : String} (h : conclusion ∈ conclusions) :
    conclusion ≠ "" := by
  rintro rfl
  revert h
  decide

/-- A transition that decides an undecided row. -/
theorem Moved.of_concluded {req : FeedbackRequest} {old new : EventFeedback}
    (hold : old.status = .verifying ∨ old.status = .awaitingResponse)
    (hnew : new.status = .concluded) (hid : new.feedbackId = old.feedbackId)
    (hterms : SameTerms old new) (hresponse : SameResponse old new)
    (hconclusion : new.conclusion ∈ conclusions) (hreason : new.conclusionReason ≠ "")
    (hauthor : new.concludedBy ≠ none) : Moved req old new where
  edge := by
    rw [hnew]
    rcases hold with h | h <;> rw [h]
    · exact .concluded
    · exact .concludedAwaiting
  record := by
    refine ⟨hid, hterms, fun hdecided => ?_⟩
    unfold EventFeedback.Decided at hdecided
    rcases hold with h | h <;> simp [h] at hdecided
  fits _ := by
    have hdecided : new.Decided := .inl hnew
    have hblank := ne_empty_of_mem_conclusions hconclusion
    exact ⟨iff_of_true hconclusion hdecided, iff_of_false hblank (not_not.2 hdecided),
      iff_of_true hreason hdecided, iff_of_true hauthor hdecided⟩
  response := .inl hresponse

section

variable {env : FeedbackEnv} {s s' : FeedbackState rt} {c : FeedbackCall}
  {feedback f : EventFeedback} {handler : Member}

theorem startEventFeedbackVerification_ok
    (h : startEventFeedbackVerification env s feedback handler = .ok (s', f)) :
    FeedbackEffect c s s' f := by
  unfold startEventFeedbackVerification at h
  obtain ⟨-, -, h⟩ := bind_eq_ok.1 h
  obtain ⟨row, hlock, h⟩ := bind_eq_ok.1 h
  obtain ⟨hstatus, h⟩ := rejectIf_bind_eq_ok.1 h
  have hstatus := not_not.1 hstatus
  refine saveFeedback_ok (lockFeedback_ok hlock).1 ?_ h
  refine .of_undecided (by rw [hstatus]; exact .started) rfl ⟨rfl, rfl, rfl, rfl, rfl, rfl⟩
    ⟨rfl, rfl, rfl⟩ ?_ (.inl ⟨rfl, rfl, rfl⟩)
  simp [EventFeedback.Decided, hstatus]

theorem requestEventFeedbackResponse_ok
    (h : requestEventFeedbackResponse env s feedback handler = .ok (s', f)) :
    FeedbackEffect c s s' f := by
  unfold requestEventFeedbackResponse at h
  obtain ⟨-, -, h⟩ := bind_eq_ok.1 h
  obtain ⟨row, hlock, h⟩ := bind_eq_ok.1 h
  obtain ⟨hguard, h⟩ := rejectIf_bind_eq_ok.1 h
  have hstatus := not_not.1 (not_or.1 hguard).1
  refine saveFeedback_ok (lockFeedback_ok hlock).1 ?_ h
  refine .of_undecided (by rw [hstatus]; exact .requested) rfl ⟨rfl, rfl, rfl, rfl, rfl, rfl⟩
    ⟨rfl, rfl, rfl⟩ ?_ (.inl ⟨rfl, rfl, rfl⟩)
  simp [EventFeedback.Decided, hstatus]

theorem respondToEventFeedback_ok {text : String}
    (hreq : c.request = .respond feedback handler text)
    (h : respondToEventFeedback env s feedback handler text = .ok (s', f)) :
    FeedbackEffect c s s' f := by
  unfold respondToEventFeedback at h
  obtain ⟨row, hlock, h⟩ := bind_eq_ok.1 h
  obtain ⟨hguard, h⟩ := rejectIf_bind_eq_ok.1 h
  obtain ⟨htext, h⟩ := rejectIf_bind_eq_ok.1 h
  obtain ⟨hstatus, hsubject⟩ := not_or.1 hguard
  have hstatus := not_not.1 hstatus
  obtain ⟨hmem, hid⟩ := lockFeedback_ok hlock
  refine saveFeedback_ok hmem ?_ h
  refine .of_undecided (by rw [hstatus]; exact .responded) rfl ⟨rfl, rfl, rfl, rfl, rfl, rfl⟩
    ⟨rfl, rfl, rfl⟩ ?_ (.inr ?_)
  · simp [EventFeedback.Decided, hstatus]
  · rw [hreq]
    exact ⟨hid, hstatus, not_not.1 hsubject, htext⟩

theorem concludeEventFeedback_ok {conclusion reason : String} {resolution : Option PublicEvent}
    (h : concludeEventFeedback env s feedback handler conclusion reason resolution = .ok (s', f)) :
    FeedbackEffect c s s' f := by
  unfold concludeEventFeedback at h
  obtain ⟨-, -, h⟩ := bind_eq_ok.1 h
  obtain ⟨row, hlock, h⟩ := bind_eq_ok.1 h
  obtain ⟨hstatus, h⟩ := rejectIf_bind_eq_ok.1 h
  obtain ⟨hguard, h⟩ := rejectIf_bind_eq_ok.1 h
  obtain ⟨hconclusion, hreason⟩ := not_or.1 hguard
  have hconclusion := not_not.1 hconclusion
  have hstatus : row.status = .verifying ∨ row.status = .awaitingResponse := by
    by_cases hv : row.status = .verifying
    · exact .inl hv
    · exact .inr (not_not.1 fun ha => hstatus ⟨hv, ha⟩)
  refine saveFeedback_ok (lockFeedback_ok hlock).1 ?_ h
  exact .of_concluded hstatus rfl rfl ⟨rfl, rfl, rfl, rfl, rfl, rfl⟩ ⟨rfl, rfl, rfl⟩ hconclusion
    hreason (Option.some_ne_none _)

theorem closeEventFeedback_ok (h : closeEventFeedback env s feedback handler = .ok (s', f)) :
    FeedbackEffect c s s' f := by
  unfold closeEventFeedback at h
  obtain ⟨-, -, h⟩ := bind_eq_ok.1 h
  obtain ⟨row, hlock, h⟩ := bind_eq_ok.1 h
  obtain ⟨hstatus, h⟩ := rejectIf_bind_eq_ok.1 h
  have hstatus := not_not.1 hstatus
  refine saveFeedback_ok (lockFeedback_ok hlock).1 ?_ h
  refine .of_undecided (by rw [hstatus]; exact .closed) rfl ⟨rfl, rfl, rfl, rfl, rfl, rfl⟩
    ⟨rfl, rfl, rfl⟩ ?_ (.inl ⟨rfl, rfl, rfl⟩)
  simp [EventFeedback.Decided, hstatus]

theorem withdrawEventFeedback_ok (h : withdrawEventFeedback env s feedback handler = .ok (s', f)) :
    FeedbackEffect c s s' f := by
  unfold withdrawEventFeedback at h
  obtain ⟨row, hlock, h⟩ := bind_eq_ok.1 h
  obtain ⟨hguard, h⟩ := rejectIf_bind_eq_ok.1 h
  have hstatus := not_not.1 (not_or.1 hguard).1
  refine saveFeedback_ok (lockFeedback_ok hlock).1 ?_ h
  refine .of_undecided (by rw [hstatus]; exact .withdrawn) rfl ⟨rfl, rfl, rfl, rfl, rfl, rfl⟩
    ⟨rfl, rfl, rfl⟩ ?_ (.inl ⟨rfl, rfl, rfl⟩)
  simp [EventFeedback.Decided, hstatus]

/-- **Every successful call** adds a submitted feedback or moves one along an edge, and appends one
event about it. -/
theorem FeedbackCall.run_ok (h : c.run s = .ok (s', f)) : FeedbackEffect c s s' f := by
  obtain ⟨env, request⟩ := c
  cases request with
  | submit args => exact submitEventFeedback_ok h
  | startVerification feedback handler => exact startEventFeedbackVerification_ok h
  | requestResponse feedback handler => exact requestEventFeedbackResponse_ok h
  | respond feedback responder text => exact respondToEventFeedback_ok rfl h
  | conclude feedback handler conclusion reason resolution => exact concludeEventFeedback_ok h
  | close feedback handler => exact closeEventFeedback_ok h
  | withdraw feedback submittedBy => exact withdrawEventFeedback_ok h

end

/-! ## One call and the rows -/

section

variable {s s' : FeedbackState rt} {c : FeedbackCall}

theorem feedbackStep_ok (h : feedbackStep s c = .ok s') : ∃ f, c.run s = .ok (s', f) := by
  unfold feedbackStep at h
  cases hrun : c.run s with
  | error e =>
    rw [hrun] at h
    cases h
  | ok r =>
    rw [hrun] at h
    obtain rfl := Except.ok.inj h
    exact ⟨r.2, rfl⟩

/-- A row after a transition is the moved one or was there before. -/
theorem Transition.mem_rows {req : FeedbackRequest} {old f g : EventFeedback}
    (h : Transition req s s' old f) (hg : g ∈ s'.feedbacks.rows) :
    g = f ∨ (g ∈ s.feedbacks.rows ∧ g.feedbackId ≠ f.feedbackId) := by
  rw [h.rows] at hg
  obtain ⟨r, hr, rfl⟩ := List.mem_map.1 hg
  by_cases hid : r.feedbackId = f.feedbackId
  · rw [if_pos hid]
    left
    unfold EventFeedback.over
    rw [hid]
  · rw [if_neg hid]
    exact .inr ⟨hr, hid⟩

theorem Transition.of_mem {req : FeedbackRequest} {old f g : EventFeedback}
    (h : Transition req s s' old f) (hg : g ∈ s.feedbacks.rows) :
    (g = old ∧ f ∈ s'.feedbacks.rows) ∨ g ∈ s'.feedbacks.rows := by
  have hid := h.moved.record.feedbackId
  by_cases heq : g.feedbackId = f.feedbackId
  · obtain rfl := s.feedbacks.eq_of_pk hg h.mem (heq.trans hid)
    left
    refine ⟨rfl, ?_⟩
    rw [h.rows]
    refine List.mem_map.2 ⟨g, hg, ?_⟩
    rw [if_pos heq]
    unfold EventFeedback.over
    rw [heq]
  · right
    rw [h.rows]
    exact List.mem_map.2 ⟨g, hg, if_neg heq⟩

/-- Every row of `s` is still there in `s'`, with its record and its response. -/
def Permanent (s s' : FeedbackState rt) : Prop :=
  ∀ f ∈ s.feedbacks.rows, ∃ g ∈ s'.feedbacks.rows, KeepsRecord f g ∧ KeepsResponse f g

theorem Permanent.refl (s : FeedbackState rt) : Permanent s s :=
  fun f hf => ⟨f, hf, .refl f, fun _ => .refl f⟩

theorem Permanent.trans {s s' s'' : FeedbackState rt} (h : Permanent s s')
    (h' : Permanent s' s'') : Permanent s s'' := by
  intro f hf
  obtain ⟨g, hg, hrecord, hresponse⟩ := h f hf
  obtain ⟨k, hk, hrecord', hresponse'⟩ := h' g hg
  exact ⟨k, hk, hrecord.trans hrecord', hresponse.trans hresponse'⟩

theorem feedbackStep_permanent (hfirst : FirstResponse s c) (h : feedbackStep s c = .ok s') :
    Permanent s s' := by
  intro g hg
  obtain ⟨f, hrun⟩ := feedbackStep_ok h
  rcases (FeedbackCall.run_ok hrun).rows with hnew | ⟨old, hmove⟩
  · refine ⟨g, ?_, .refl g, fun _ => .refl g⟩
    rw [hnew.rows]
    exact List.mem_append_left _ hg
  · rcases hmove.of_mem hg with ⟨rfl, hf⟩ | hg'
    · refine ⟨f, hf, hmove.moved.record, fun hanswered => ?_⟩
      rcases hmove.moved.response with hsame | hresponds
      · exact hsame
      · exact absurd (hfirst g hg hresponds) hanswered
    · exact ⟨g, hg', .refl g, fun _ => .refl g⟩

/-- A row of `s'` is as it was in `s`, has moved along an edge, or is new and submitted. -/
def FollowsEdges (s s' : FeedbackState rt) : Prop :=
  ∀ f ∈ s'.feedbacks.rows,
    (∃ old ∈ s.feedbacks.rows, old.feedbackId = f.feedbackId ∧
      (f = old ∨ Edge old.status f.status)) ∨
    (f.status = .submitted ∧ ∀ old ∈ s.feedbacks.rows, old.feedbackId ≠ f.feedbackId)

theorem feedbackStep_followsEdges (h : feedbackStep s c = .ok s') : FollowsEdges s s' := by
  intro g hg
  obtain ⟨f, hrun⟩ := feedbackStep_ok h
  rcases (FeedbackCall.run_ok hrun).rows with hnew | ⟨old, hmove⟩
  · rw [hnew.rows] at hg
    rcases List.mem_append.1 hg with hg | hg
    · exact .inl ⟨g, hg, rfl, .inl rfl⟩
    · obtain rfl := List.mem_singleton.1 hg
      exact .inr ⟨hnew.status, hnew.fresh⟩
  · rcases hmove.mem_rows hg with rfl | ⟨hg, -⟩
    · exact .inl ⟨old, hmove.mem, hmove.moved.record.feedbackId.symm, .inr hmove.moved.edge⟩
    · exact .inl ⟨g, hg, rfl, .inl rfl⟩

/-- Every conclusion fits the status of its feedback. -/
def ConclusionsFit (s : FeedbackState rt) : Prop := ∀ f ∈ s.feedbacks.rows, ConclusionFits f

theorem feedbackStep_conclusionsFit (hfit : ConclusionsFit s) (h : feedbackStep s c = .ok s') :
    ConclusionsFit s' := by
  intro g hg
  obtain ⟨f, hrun⟩ := feedbackStep_ok h
  rcases (FeedbackCall.run_ok hrun).rows with hnew | ⟨old, hmove⟩
  · rw [hnew.rows] at hg
    rcases List.mem_append.1 hg with hg | hg
    · exact hfit g hg
    · obtain rfl := List.mem_singleton.1 hg
      exact hnew.fits
  · rcases hmove.mem_rows hg with rfl | ⟨hg, -⟩
    · exact hmove.moved.fits (hfit old hmove.mem)
    · exact hfit g hg

/-- A successful call appends one event about its feedback and none about another one. -/
theorem FeedbackEffect.events_length {f : EventFeedback} (h : FeedbackEffect c s s' f)
    (id : String) : (feedbackEvents s' id).length =
      (feedbackEvents s id).length + if f.feedbackId = id then 1 else 0 := by
  obtain ⟨req, htype, haggregate, hcalls⟩ := h.events
  unfold feedbackEvents
  rw [hcalls, List.filter_append, List.length_append]
  by_cases hid : f.feedbackId = id <;> simp [htype, haggregate, hid]

end

/-! ## Runs -/

/-- The successful calls of a run on the feedback `id`. -/
def succeededOn (id : String) : FeedbackState rt → List FeedbackCall → Nat
  | _, [] => 0
  | s, c :: cs =>
    (match c.run s with
      | .ok (_, f) => if f.feedbackId = id then 1 else 0
      | .error _ => 0) + succeededOn id (afterCall feedbackStep s c) cs

section

variable {s : FeedbackState rt}

theorem feedbackRun_counted (id : String) (cs : List FeedbackCall) :
    (feedbackEvents (runCalls feedbackStep s cs) id).length =
      (feedbackEvents s id).length + succeededOn id s cs := by
  induction cs generalizing s with
  | nil => rfl
  | cons c cs ih =>
    rw [runCalls_cons, ih, succeededOn]
    cases hrun : c.run s with
    | error e =>
      have hstep : feedbackStep s c = .error e := by rw [feedbackStep, hrun]; rfl
      rw [afterCall_error hstep]
      simp
    | ok r =>
      obtain ⟨s', f⟩ := r
      have hstep : feedbackStep s c = .ok s' := by rw [feedbackStep, hrun]; rfl
      rw [afterCall_ok hstep, (FeedbackCall.run_ok hrun).events_length id]
      simp only
      omega

theorem feedbackRun_followsEdges (ds : List FeedbackCall) (c : FeedbackCall) :
    FollowsEdges (runCalls feedbackStep s ds) (runCalls feedbackStep s (ds ++ [c])) := by
  rw [runCalls_append, runCalls_cons, runCalls_nil]
  cases hstep : feedbackStep (runCalls feedbackStep s ds) c with
  | error e =>
    rw [afterCall_error hstep]
    exact fun f hf => .inl ⟨f, hf, rfl, .inl rfl⟩
  | ok s' =>
    rw [afterCall_ok hstep]
    exact feedbackStep_followsEdges hstep

theorem feedbackRun_permanent {cs : List FeedbackCall}
    (h : EachCall feedbackStep FirstResponse s cs) :
    Permanent s (runCalls feedbackStep s cs) :=
  EachCall.rel Permanent.refl (fun _ _ _ => Permanent.trans)
    (fun _ _ _ _ _ _ => trivial) (fun _ _ _ _ hfirst hstep => feedbackStep_permanent hfirst hstep)
    trivial h

/-- What the life cycle promises of a run: every call moves a feedback along an edge, what was
stated at one moment stands at every later one, and conclusions and events are exact. -/
structure LawfulRun (s : FeedbackState rt) (cs : List FeedbackCall) : Prop where
  edges : ∀ ds c es, cs = ds ++ c :: es →
    FollowsEdges (runCalls feedbackStep s ds) (runCalls feedbackStep s (ds ++ [c]))
  permanent : ∀ ds es, cs = ds ++ es →
    Permanent (runCalls feedbackStep s ds) (runCalls feedbackStep s cs)
  fits : ConclusionsFit (runCalls feedbackStep s cs)
  counted : ∀ f ∈ (runCalls feedbackStep s cs).feedbacks.rows,
    (feedbackEvents (runCalls feedbackStep s cs) f.feedbackId).length =
      succeededOn f.feedbackId s cs

/-- No feedback was submitted yet, and no event is about one. -/
structure NoFeedback (s : FeedbackState rt) : Prop where
  rows : s.feedbacks.rows = []
  events : ∀ req ∈ s.events.calls, req.aggregateType ≠ "EventFeedback"

theorem NoFeedback.feedbackEvents_eq (h : NoFeedback s) (id : String) :
    feedbackEvents s id = [] := by
  unfold feedbackEvents
  rw [List.filter_eq_nil_iff]
  intro req hreq
  simp [h.events req hreq]

/-- **The life cycle holds along every run** in which no response is recorded on a feedback that
already has one. -/
theorem feedbackRun_lawful (hs : NoFeedback s) (cs : List FeedbackCall)
    (h : EachCall feedbackStep FirstResponse s cs) : LawfulRun s cs where
  edges ds c es _ := feedbackRun_followsEdges ds c
  permanent ds es hcs := by
    subst hcs
    rw [runCalls_append]
    exact feedbackRun_permanent h.of_append.2
  fits := by
    refine runCalls_invariant (fun _ _ _ => feedbackStep_conclusionsFit) ?_ cs
    intro f hf
    rw [hs.rows] at hf
    cases hf
  counted f _ := by
    rw [feedbackRun_counted, hs.feedbackEvents_eq]
    exact Nat.zero_add _

end

/-! ## Two responses -/

def handler : Member := ⟨0, "m", none, "m", .active, []⟩

def neighbour : Member := ⟨7, "n", none, "n", .active, []⟩

theorem village_members_nodup : ([handler, neighbour].map Member.pk).Nodup := by decide

theorem village_numbers_nodup :
    ([handler, neighbour].filterMap fun m => some m.memberNo).Nodup := by decide

/-- The handler is a covenanter with an administrative role. -/
def feedbackOffice : Directory where
  members := ⟨[handler, neighbour], village_members_nodup, village_numbers_nodup⟩
  organizations := lapsedReviewer.organizations
  roles := lapsedReviewer.roles
  assignments := lapsedReviewer.assignments
  rolePermissions := [⟨1, "governance.view_admin"⟩]
  domains := Table.empty
  qualifications := Table.empty

def noFeedback : FeedbackState textRuntime := ⟨Table.empty, Journal.empty⟩

theorem noFeedback_noFeedback : NoFeedback noFeedback := ⟨rfl, List.forall_mem_nil _⟩

def complaint : SubmitArgs where
  relatedEvent := ⟨"event", "public"⟩
  submittedBy := handler
  feedbackType := "complaint"
  statement := " noise "
  requestedOutcome := ""
  evidenceRefs := none
  subjectMember := some neighbour
  submitterVisibility := "public"
  privacyReason := ""
  metadata := none

def atHour (now : Nat) (request : FeedbackRequest) : FeedbackCall :=
  ⟨⟨feedbackOffice, ["a"], now⟩, request⟩

/-- The object that the submission returns, which every later call still holds. -/
def submittedCopy : EventFeedback :=
  submittedFeedback ⟨feedbackOffice, ["a"], 1⟩ complaint "feedback-a" [] []

/-- A complaint that the neighbour is asked about and answers. -/
def answeredOnce : List FeedbackCall := [
  atHour 1 (.submit complaint),
  atHour 2 (.startVerification submittedCopy handler),
  atHour 3 (.requestResponse submittedCopy handler),
  atHour 4 (.respond submittedCopy neighbour "first")]

/-- The neighbour is asked again and answers something else. -/
def answeredAgain : List FeedbackCall := [
  atHour 5 (.requestResponse submittedCopy handler),
  atHour 6 (.respond submittedCopy neighbour "second")]

/-- The complaint is decided. -/
def decidedAfter : List FeedbackCall := [
  atHour 5 (.conclude submittedCopy handler "confirmed" "heard" none),
  atHour 6 (.close submittedCopy handler)]

theorem feedbackRun_lawful_decided :
    NoFeedback noFeedback ∧ EachCall feedbackStep FirstResponse noFeedback
      (answeredOnce ++ decidedAfter) ∧ LawfulRun noFeedback (answeredOnce ++ decidedAfter) := by
  have hcalls : EachCall feedbackStep FirstResponse noFeedback (answeredOnce ++ decidedAfter) := by
    decide +kernel
  exact ⟨noFeedback_noFeedback, hcalls, feedbackRun_lawful noFeedback_noFeedback _ hcalls⟩

/-- The texts and authors of the responses of a state. -/
def responses (s : FeedbackState textRuntime) : List (String × Option Nat) :=
  s.feedbacks.rows.map fun f => (f.responseStatement, f.respondedBy)

/-- A second answer replaces the first. -/
theorem feedbackRun_overwrites :
    NoFeedback noFeedback ∧ ¬ ∀ cs : List FeedbackCall, LawfulRun noFeedback cs := by
  refine ⟨noFeedback_noFeedback, fun h => ?_⟩
  have hrun : responses (runCalls feedbackStep noFeedback answeredOnce) = [("first", some 7)] ∧
      responses (runCalls feedbackStep noFeedback (answeredOnce ++ answeredAgain)) =
        [("second", some 7)] := by decide +kernel
  have hpermanent := (h (answeredOnce ++ answeredAgain)).permanent answeredOnce answeredAgain rfl
  have hfirst : ("first", some 7) ∈ responses (runCalls feedbackStep noFeedback answeredOnce) := by
    rw [hrun.1]
    exact List.mem_singleton_self _
  obtain ⟨f, hf, heq⟩ := List.mem_map.1 hfirst
  obtain ⟨htext, hauthor⟩ := Prod.mk.inj heq
  obtain ⟨g, hg, -, hkeeps⟩ := hpermanent f hf
  have hsame := hkeeps (by rw [hauthor]; exact Option.some_ne_none 7)
  have hmem : (g.responseStatement, g.respondedBy) ∈
      responses (runCalls feedbackStep noFeedback (answeredOnce ++ answeredAgain)) :=
    List.mem_map.2 ⟨g, hg, rfl⟩
  rw [hrun.2, List.mem_singleton, hsame.responseStatement, htext] at hmem
  exact absurd (Prod.mk.inj hmem).1 (by decide)

end LiveOs.Feedback
