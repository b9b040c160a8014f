import LiveOs.Observer.Model

/-!
# Public member profiles

The identity block and the governance activity of `observer/member_profiles.py`.
-/

namespace LiveOs.Observer

open Lib EventLedger Roles

/-! ## Identity -/

/-- What `_identity(member)` returns. -/
structure MemberIdentity where
  memberNo : String
  publicName : String
  displayName : String
  avatarUrl : String
  initials : String
deriving DecidableEq

/-- `name[0] if name else (member_no or "?")[0]`. -/
def initialsOf (name memberNo : String) : String :=
  String.ofList ((orText name (orText memberNo "?")).toList.take 1)

/-- `str(int(avatar_updated_at.timestamp() * 1_000_000))`, or `"default"`. -/
def avatarVersion (profile : ShownProfile) : String :=
  match profile.avatarUpdatedAt with
  | some time => toString time
  | none => "default"

/-- `_identity(member)`, which is `public_member_identity`. -/
def publicMemberIdentity (db : ObserverDb) (member : Member) : MemberIdentity :=
  match db.profiles.find? fun profile => profile.member = member.pk with
  | some profile =>
    let publicName := orText profile.publicName (orText member.displayName member.memberNo)
    { memberNo := member.memberNo
      publicName := publicName
      displayName := member.displayName
      avatarUrl :=
        if profile.avatarKey = "" then ""
        else "/u/" ++ member.memberNo ++ "/avatar/?v=" ++ avatarVersion profile
      initials := initialsOf publicName member.memberNo }
  | none =>
    let publicName := orText member.displayName member.memberNo
    { memberNo := member.memberNo
      publicName := publicName
      displayName := member.displayName
      avatarUrl := ""
      initials := initialsOf publicName member.memberNo }

/-! ## Governance activity -/

/-- `_EVENT_TITLE_MAP`. -/
def eventTitleMap : List (String × String) := [
  ("role_assigned", "角色任命"), ("role_revoked", "角色撤销"), ("credential_granted", "凭证发放"),
  ("member_created", "成员创建"), ("member_application_submitted", "报名提交"),
  ("member_application_reviewed", "报名审核")]

/-- A row of the activity list; the optional keys are there only when they have a text. -/
structure ActivityRow where
  seq : Nat
  title : String
  eventTypeDisplay : String
  occurredAt : Nat
  summary : String
  eventHashShort : String
  chainValid : Bool
  voteChoice : Option String
  voteReason : Option String
  credentialLabel : Option String
  roleName : Option String
deriving DecidableEq

/-- `if text: row[key] = text`. -/
def shownText (text : String) : Option String := if text = "" then none else some text

/-- The query of the activity list: events the member acted in and events about the credentials
and roles the member was granted, all of the public schema. -/
def isGovernanceActivity (db : ObserverDb) (member : Member) (event : SystemEvent) : Bool :=
  let credentialGrantIds :=
    (db.grants.rows.filter fun g => g.member = member.pk).map CredentialGrant.grantId
  let roleAssignmentIds :=
    (db.assignments.rows.filter fun a => a.member = member.pk).map RoleAssignment.pk
  let ofSchema := pathIs publicLedgerSchema ["schema"] event.payloadJson
  (event.actorMember = some member.pk && ofSchema) ||
    (event.aggregateType = "CredentialGrant" && credentialGrantIds.contains event.aggregateId &&
      ofSchema) ||
    (event.aggregateType = "RoleAssignment" &&
      (roleAssignmentIds.map fun pk => toString pk).contains event.aggregateId && ofSchema)

/-- The events the list shows: the latest `limit`. -/
def activityEvents (db : ObserverDb) (member : Member) (limit : Nat) : List SystemEvent :=
  (distinctSeq [] (db.events.bySeq.reverse.filter (isGovernanceActivity db member))).take limit

/-- `f"{template_name} {display_no}".strip()`, when one of them has a text. -/
def credentialLabel (templateName displayNo : String) : Option String :=
  if templateName = "" ∧ displayNo = "" then none
  else some (strip (templateName ++ " " ++ displayNo))

/-- The body of the loop of `public_governance_activity_for_member`. -/
def activityRow (rt : Runtime) (t : EventTable) (event : SystemEvent) :
    Except Error ActivityRow := do
  let pk := payloadOf event
  let chain ← systemEventChainCheck rt t event
  let summary ← textOf rt pk "summary"
  let facts ← dictUnder pk "public_facts"
  let fact := entryText rt facts
  return {
    seq := event.seq
    title := labelOf eventTitleMap event.eventType (eventTypeDisplay event)
    eventTypeDisplay := eventTypeDisplay event
    occurredAt := event.occurredAt
    summary := orText summary (eventTypeDisplay event)
    eventHashShort := shortHash event.eventHash
    chainValid := chain.chainValid
    voteChoice := shownText (fact "vote_choice_label")
    voteReason := shownText (fact "reason")
    credentialLabel :=
      if event.eventType = "credential_granted" then
        credentialLabel (fact "template_name") (fact "display_no")
      else none
    roleName :=
      if event.eventType = "role_assigned" ∨ event.eventType = "role_revoked" then
        shownText (fact "role_name")
      else none }

/-- `public_governance_activity_for_member(member, limit=...)`. -/
def publicGovernanceActivityForMember (rt : Runtime) (db : ObserverDb) (member : Member)
    (limit : Nat) : Except Error (List ActivityRow) :=
  (activityEvents db member limit).mapM (activityRow rt db.events)

end LiveOs.Observer
