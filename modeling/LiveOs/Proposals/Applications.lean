import LiveOs.Planning.Values
import LiveOs.Proposals.Execution
import LiveOs.PublicLedger.Builders

/-!
# Member applications

`submit_member_application` of `core/application_services.py` with the recruitment options of
`core/credential_services.py`: an application binds its account to a member and gets one admission
proposal. The checks of passwords are those of the framework.
-/

namespace LiveOs.Proposals

open Lib EventLedger Roles
open Planning (Python getKey getKeyOr truthy strOr intOf merged)

variable {rt : Runtime}

/-! ## The state -/

/-- A login account and the member it belongs to. -/
structure Account where
  username : String
  member : Option Nat
  isActive : Bool
deriving DecidableEq

/-- The columns of a credential template that recruitment reads. -/
structure TemplateDetails where
  code : String
  name : String
  active : Bool
  description : String
  metadata : List (String × Json)

structure ApplicationState (rt : Runtime) where
  proposals : ProposalState rt
  accounts : List Account
  details : List TemplateDetails
  /-- `MemberApplication.admission_proposal`, by the application. -/
  admissionProposals : List (String × String)
  /-- `ElectorateRuleVersion.published_at`, by the version. -/
  publishedAt : List (String × Nat)
  /-- The codes of the rule templates that are not active any more. -/
  retiredRules : List String
  /-- The ids of the observer's events. -/
  publicEvents : List String

/-- What one call takes from its surroundings; `passwordProblem` is `validate_password`. -/
structure ApplicationEnv where
  proposal : ProposalEnv
  draws : List String
  passwordProblem : String → Option String

/-- The arguments of `submit_member_application`; an account is known by its name. -/
structure ApplicationArgs where
  applicantName : String
  contact : String
  motivation : String
  availabilityHoursPerWeek : Int
  roleGap : String
  availabilitySlots : Json
  dynamicAnswers : Json
  capabilityScores : List (String × Json)
  canIssueResponsibilityDocuments : Bool
  documentAuthorityDomains : Json
  requestedMemberNo : String
  accountUsername : String
  accountPassword : String
  accountUser : Option String
  metadata : List (String × Json)
  submittedAt : Option Nat

/-! ## Cleaning -/

/-- `_nonblank(value, field_label)`. -/
def nonblank (value fieldLabel : String) : Except Error String := do
  rejectIf (strip value = "") (.domain (fieldLabel ++ "不能为空。"))
  return strip value

/-- `text.split(",")`. -/
def splitCommas (text : String) : List String :=
  (text.toList.splitOn ',').map String.ofList

/-- `_list_payload(value)`. -/
def listPayload (py : Python) : Json → List String
  | .scalar .none => []
  | .str s =>
    ((splitCommas (String.ofList (s.toList.map fun c => if c = '\n' then ',' else c))).map
      strip).filter (· ≠ "")
  | .arr items => (items.map fun item => strip (py.str item)).filter (· ≠ "")
  | value => [strip (py.str value)].filter (· ≠ "")

/-- An entry of `_json_answer_payload`. -/
def answerPayload (py : Python) : Json → Except Error Json
  | .obj item =>
    let answerType := strip (strOr py (getKey item "type") "textarea")
    .ok (.obj [("key", .str (strip (strOr py (getKey item "key") ""))),
      ("label", .str (strip (strOr py (getKey item "label") ""))),
      ("type", .str (if answerType = "" then "textarea" else answerType)),
      ("answer", .str (strip (strOr py (getKey item "answer") "")))])
  | _ => .error (.domain "动态问答条目必须是对象。")

/-- `_json_answer_payload(value)`. -/
def jsonAnswerPayload (py : Python) (value : Json) : Except Error (List Json) :=
  if !truthy value then .ok []
  else match value with
    | .arr items => items.mapM (answerPayload py)
    | _ => .error (.domain "动态问答必须是数组。")

/-! ## Recruitment -/

/-- The recruiting part of a built-in template. -/
def recruitingDetails (code name description publicDescription : String)
    (requiredCount sortOrder : Int) : TemplateDetails where
  code := code
  name := name
  active := true
  description := description
  metadata := [("recruitment", .obj [("show_on_application", .scalar (.bool true)),
    ("required_count", .scalar (.int requiredCount)), ("public_label", .str name),
    ("public_description", .str publicDescription), ("sort_order", .scalar (.int sortOrder))])]

/-- The details of `ensure_builtin_credential_templates()`. -/
def builtinDetails : List TemplateDetails := [
  ⟨"covenanter_number", "守约者编号", true, "", []⟩,
  recruitingDetails "company_legal_representative" "公司法人方向"
    "需要愿意承担主体责任、参与公司治理的成员。" "需要愿意承担主体责任、参与公司治理的人" 2 10,
  recruitingDetails "finance_responsible_person" "财务负责人方向"
    "负责社区财务审核、预算和公开财务记录。" "负责社区财务审核、预算和公开记录" 1 20,
  recruitingDetails "legal_advisor" "律师/法律顾问方向"
    "为社区提供法律合规建议和责任文件审核。" "为社区提供法律合规建议和文件审核" 1 30,
  recruitingDetails "medical_support" "医生/健康支持方向"
    "为社区成员提供基础健康咨询和急救支持。" "为社区成员提供基础健康咨询和急救" 1 40,
  recruitingDetails "electrician_facility" "电工/设施维护方向"
    "负责电气安全、设施日常维护和修缮。" "负责电气安全和设施日常维护" 1 50,
  recruitingDetails "ai_engineer" "AI 工程师方向"
    "负责社区 AI/自动化系统开发与维护。" "负责社区 AI/自动化系统开发与维护" 2 60,
  recruitingDetails "content_recorder" "内容记录方向"
    "负责社区事件记录、文档编写和信息公告。" "负责社区事件记录、文档编写和公告" 2 70,
  recruitingDetails "life_service" "生活服务方向"
    "承担餐饮、清洁等日常生活运转支持。" "承担餐饮、清洁等日常生活运转支持" 3 80,
  ⟨"provider_delivery_completed", "供给履约完成凭证", true,
    "完成一次被采纳的报价/捐赠、完成交付、通过验收，并已完成付款或捐赠结案。",
    [("category", .str "procurement"), ("public_label", .str "供给履约完成"),
      ("public_description", .str "完成一次公开供给或捐赠履约"),
      ("nft_ready", .scalar (.bool true))]⟩]

/-- The details with those of a built-in template: added where the template is new, and only its
recruitment where that is missing. -/
def ensureDetails (details : List TemplateDetails) (spec : TemplateDetails) :
    List TemplateDetails :=
  if !details.any fun d => d.code = spec.code then details ++ [spec]
  else match Json.get? spec.metadata "recruitment" with
    | none => details
    | some recruitment => details.map fun d =>
      if d.code = spec.code ∧ (Json.get? d.metadata "recruitment").isNone
      then { d with metadata := Json.upsert d.metadata ("recruitment", recruitment) } else d

/-- `ensure_builtin_credential_templates()`. -/
def ensureTemplates (s : ApplicationState rt) : Except Error (ApplicationState rt) := do
  let templates ← ensureBuiltinCredentialTemplates s.proposals.roles.templates
  return { s with
    proposals := { s.proposals with roles := { s.proposals.roles with templates := templates } }
    details := builtinDetails.foldl ensureDetails s.details }

/-- `credential_recruitment_gap(template)`. -/
structure RecruitmentOption where
  label : Json
  description : Json
  requiredCount : Int
  currentCount : Nat
  missingCount : Int
  isOpen : Bool

/-- `meta.get(key)`. -/
def metaGet (recruitment : Json) (key : String) : Except Error Json :=
  match recruitment with
  | .obj entries => .ok (getKey entries key)
  | _ => .error .attribute

/-- `int(v or default)` of a number. -/
def intOr (py : Python) (v : Json) (default : Int) : Except Error Int :=
  if !truthy v then .ok default
  else match intOf py v with
    | .ok i => .ok i
    | .error _ => .error (.value "int()")

/-- `a or b`. -/
def orValue (a b : Json) : Json := if truthy a then a else b

def credentialRecruitmentGap (py : Python) (grants : List CredentialGrant) (d : TemplateDetails)
    (recruitment : Json) : Except Error RecruitmentOption := do
  let required ← intOr py (← metaGet recruitment "required_count") 0
  let current := (grants.filter fun g => g.template = d.code && g.status = .active).length
  let missing := max (required - current) 0
  let label ← metaGet recruitment "public_label"
  let description ← metaGet recruitment "public_description"
  let _ ← intOr py (← metaGet recruitment "sort_order") 0
  return {
    label := orValue label (.str d.name)
    description := orValue description (.str d.description)
    requiredCount := required
    currentCount := current
    missingCount := missing
    isOpen := required ≤ 0 || 0 < missing }

/-- `recruitment_option_for_code(code)`. -/
def recruitmentOptionForCode (py : Python) (s : ApplicationState rt) (code : String) :
    Except Error (Option RecruitmentOption) :=
  if code = "covenanter_number" then .ok none
  else match s.details.find? fun d => d.code = code && d.active with
    | none => .ok none
    | some d => do
      let recruitment := getKeyOr d.metadata "recruitment" (.obj [])
      if !truthy (← metaGet recruitment "show_on_application") then return none
      return some (← credentialRecruitmentGap py s.proposals.roles.grants.rows d recruitment)

/-- The option of a direction that applications are taken for. -/
def openOption (py : Python) (s : ApplicationState rt) (code : String) :
    Except Error RecruitmentOption := do
  match ← recruitmentOptionForCode py s code with
  | none => .error (.domain "申请方向无效或暂未开放。")
  | some option => do
    rejectIf (!option.isOpen) (.domain "该申请方向当前缺口已满，暂不能提交。")
    return option

/-! ## Accounts and members -/

/-- The number that is asked for, which is that of the account if there is one. -/
def cleanedMemberNo (args : ApplicationArgs) : Except Error String :=
  let requested := strip args.requestedMemberNo
  let agree (name : String) : Except Error String := do
    let number := if requested = "" then name else requested
    rejectIf (number ≠ name) (.domain "成员编号必须与报名登录账号一致。")
    return number
  match args.accountUser with
  | some username => agree (strip username)
  | none => if args.accountUsername ≠ "" then agree (strip args.accountUsername) else .ok requested

/-- `_create_application_account(username=..., password=...)`. -/
def createApplicationAccount (env : ApplicationEnv) (s : ApplicationState rt)
    (username password : String) : Except Error (ApplicationState rt × Account) := do
  let cleanedUsername ← nonblank username "登录账号"
  let cleanedPassword ← nonblank password "登录密码"
  rejectIf (s.proposals.roles.db.members.rows.any fun m => m.memberNo = cleanedUsername)
    (.domain "该登录账号已被成员编号使用。")
  match env.passwordProblem cleanedPassword with
  | some problems => .error (.domain ("登录密码不符合要求：" ++ problems))
  | none => do
    rejectIf (s.accounts.any fun a => a.username = cleanedUsername) (.domain "登录账号已存在。")
    let account : Account := ⟨cleanedUsername, none, true⟩
    return ({ s with accounts := s.accounts ++ [account] }, account)

/-- The account of an application: the one that is given, a new one, or none. -/
def applicationAccount (env : ApplicationEnv) (s : ApplicationState rt) (args : ApplicationArgs) :
    Except Error (ApplicationState rt × Option Account) :=
  match args.accountUser with
  | some username =>
    match s.accounts.find? fun a => a.username = username with
    | none => .error .integrity
    | some account => .ok (s, some account)
  | none =>
    if args.accountUsername ≠ "" ∨ args.accountPassword ≠ "" then do
      let (s, account) ← createApplicationAccount env s args.accountUsername args.accountPassword
      return (s, some account)
    else .ok (s, none)

/-- `Member.objects.filter(user=account_user).first()`. -/
def accountMember (s : ApplicationState rt) (account : Option Account) : Option Member :=
  account.bind fun a => a.member.bind s.proposals.roles.db.members.get?

/-- The checks of the requested number. -/
def checkMemberNo (s : ApplicationState rt) (memberNo : String) (existing : Option Member) :
    Except Error Unit :=
  if memberNo = "" then .ok ()
  else do
    rejectIf (s.proposals.roles.db.members.rows.any fun m =>
      m.memberNo = memberNo && existing.map Member.pk ≠ some m.pk) (.domain "成员编号已存在。")
    rejectIf (existing.any fun m => m.memberNo ≠ memberNo) (.domain "当前账号已绑定其他成员编号。")

/-- An application of the member that is submitted or admitted. -/
def activeApplicationExists (s : ApplicationState rt) (member : Nat) : Bool :=
  s.proposals.applications.rows.any fun a =>
    a.linkedMember = some member && (a.status = .submitted || a.status = .admitted)

/-- The checks of the member that the account already has. -/
def checkExistingMember (s : ApplicationState rt) (now : Nat) (m : Member) :
    Except Error Unit := do
  rejectIf (m.status = .suspended ∨ m.status = .exited)
    (.domain "当前账号成员状态已停用，不能提交成员报名。")
  rejectIf (memberHasRole s.proposals.roles.db now m [roleCovenanter] none)
    (.domain "当前账号已经是守约者，不能重复报名。")
  rejectIf (activeApplicationExists s m.pk)
    (.domain "当前账号已有未结束的成员报名，不能重复提交。")

/-- `member_creation_payload(member, actor_ref=...)` of a member that an application creates. -/
def memberCreationPayload (m : Member) (batchId : String) : PyVal :=
  publicEventPayload "member" (publicRef ["member", m.publicLabel]) m.publicLabel "created"
    "pending_review" ("新成员 " ++ m.publicLabel ++ " 已创建。")
    [("status", .str "pending_review"), ("batch_id", .str batchId),
      ("joined_simulation_day", .scalar .none)]
    [commitment "member_id" true "成员内部ID", commitment "member_no" true "成员编号属于隐私",
      commitment "display_name_raw" true "真实姓名属于隐私",
      commitment "credit_floor" true "信用额度属于隐私", commitment "actor" true "操作人属于隐私"]

/-- Append an event to the ledger. -/
def appendEvent (s : ApplicationState rt) (request : AppendRequest) :
    Except Error (ApplicationState rt) := do
  let events ← s.proposals.roles.events.append request
  return { s with proposals := { s.proposals with
    roles := { s.proposals.roles with events := events } } }

/-- The state with other members. -/
def setMembers (s : ApplicationState rt) (members : MemberTable) : ApplicationState rt :=
  { s with proposals := { s.proposals with roles := { s.proposals.roles with
    db := { s.proposals.roles.db with members := members } } } }

/-- `register_member(...)` with the status `PENDING_REVIEW`, by an application. -/
def registerMember (s : ApplicationState rt) (now : Nat) (memberNo displayName batchId : String)
    (profile : List (String × Json)) : Except Error (ApplicationState rt × Member) := do
  let cleanedMemberNo := strip memberNo
  let cleanedDisplayName := strip displayName
  let members := s.proposals.roles.db.members
  rejectIf (cleanedMemberNo = "") (.domain "成员 ID 不能为空。")
  rejectIf (members.rows.any fun m => m.memberNo = cleanedMemberNo) (.domain "成员 ID 已存在。")
  let profile := if cleanedDisplayName ≠ "" ∧ !truthy (getKey profile "display_name")
    then Json.upsert profile ("display_name", .str cleanedDisplayName) else profile
  let member : Member := {
    pk := nextPk (members.rows.map Member.pk)
    memberNo := cleanedMemberNo
    user := none
    displayName := cleanedDisplayName
    status := .pendingReview
    profile := profile }
  let members ← members.insert member
    (Error.domain "成员创建失败，请检查成员 ID 是否重复。")
  let s ← appendEvent (setMembers s members) {
    eventType := "member_created"
    aggregateType := "Member"
    aggregateId := member.memberNo
    actorMember := none
    payloadJson := memberCreationPayload member (strip batchId)
    occurredAt := some now
    now := now }
  return (s, member)

/-! ## Submitting -/

/-- `generate_member_application_id()`. -/
def generateMemberApplicationId (env : ApplicationEnv) (s : ApplicationState rt) :
    Except Error String :=
  match ((env.draws.take 5).map ("member-application-" ++ ·)).find? fun id =>
      (s.proposals.applications.get? id).isNone with
  | some id => .ok id
  | none => .error (.domain "无法生成成员报名 ID，请重试。")

/-- `gap_snapshot`. -/
def gapSnapshot (option : RecruitmentOption) (roleGap : String) : List (String × Json) := [
  ("role_gap_label", option.label), ("role_gap_description", option.description),
  ("role_gap_required_count", .scalar (.int option.requiredCount)),
  ("role_gap_current_count", .scalar (.int option.currentCount)),
  ("role_gap_missing_count", .scalar (.int option.missingCount)),
  ("role_gap_credential_template_code", .str roleGap)]

/-- What `submit_member_application` stores and what the member's profile takes from it. -/
structure NewApplication where
  application : MemberApplication
  profile : List (String × Json)

/-- `MemberApplication.objects.create(...)` before the insertion, and
`_application_member_profile(application)`. -/
def newApplication (py : Python) (env : ApplicationEnv) (s : ApplicationState rt)
    (args : ApplicationArgs) (option : RecruitmentOption) : Except Error NewApplication := do
  let applicationId ← generateMemberApplicationId env s
  let applicantName ← nonblank args.applicantName "报名人名称"
  let _ ← nonblank args.contact "联系方式"
  let motivation ← nonblank args.motivation "报名动机"
  let answers ← jsonAnswerPayload py args.dynamicAnswers
  let roleGap := strip args.roleGap
  let texts (value : Json) : Json := .arr ((listPayload py value).map .str)
  return {
    application := {
      applicationId := applicationId
      applicantName := applicantName
      roleGap := roleGap
      status := .submitted
      linkedMember := none
      decidedBy := none
      decidedAt := none
      metadata := merged args.metadata (gapSnapshot option roleGap) }
    profile := [("source", .str "member_application"), ("application_id", .str applicationId),
      ("role_gap", .str roleGap), ("motivation", .str motivation),
      ("skills", .obj args.capabilityScores),
      ("availability_hours_per_week", .scalar (.int args.availabilityHoursPerWeek)),
      ("availability_slots", texts args.availabilitySlots), ("dynamic_answers", .arr answers),
      ("document_authority_domains", texts args.documentAuthorityDomains),
      ("can_issue_responsibility_documents",
        .scalar (.bool args.canIssueResponsibilityDocuments))] }

/-- The last characters of a text. -/
def lastChars (n : Nat) (text : String) : String :=
  String.ofList (text.toList.drop (text.toList.length - n))

/-- The member of an application without an account that has one: a new one. -/
def createApplicant (py : Python) (s : ApplicationState rt) (now : Nat) (memberNo : String)
    (account : Option Account) (new : NewApplication) :
    Except Error (ApplicationState rt × Member) := do
  let memberNo := if memberNo = ""
    then "applicant-" ++ lastChars 8 new.application.applicationId else memberNo
  let batchId := strOr py (getKey new.application.metadata "batch_id") ""
  let (s, member) ← registerMember s now memberNo new.application.applicantName batchId new.profile
  match account with
  | none => return (s, member)
  | some account => do
    let user : Option User := some ⟨account.isActive⟩
    let members := s.proposals.roles.db.members.modify member.pk
      (fun m => { m with user := user }) (fun _ => rfl) fun _ => rfl
    let accounts := s.accounts.map fun a =>
      if a.username = account.username then { a with member := some member.pk } else a
    return ({ setMembers s members with accounts := accounts }, { member with user := user })

/-- The member that an application finds, as it is saved. -/
def pendingMember (m : Member) (new : NewApplication) : Member :=
  { m with
    status := .pendingReview
    displayName := orText m.displayName new.application.applicantName
    profile := merged m.profile new.profile }

/-- The member of an application. -/
def bindMember (py : Python) (s : ApplicationState rt) (now : Nat) (memberNo : String)
    (account : Option Account) (existing : Option Member) (new : NewApplication) :
    Except Error (ApplicationState rt × Member) :=
  match existing with
  | none => createApplicant py s now memberNo account new
  | some m =>
    let members := s.proposals.roles.db.members.modify m.pk (fun m => pendingMember m new)
      (fun _ => rfl) fun _ => rfl
    .ok (setMembers s members, pendingMember m new)

/-- `_application_role_gap_label(application)`. -/
def applicationRoleGapLabel (py : Python) (a : MemberApplication) : String :=
  orText (strip (strOr py (getKey a.metadata "role_gap_label") ""))
    (if a.roleGap = "settled_resident" then "安居成员"
    else if a.roleGap = "service_resident" then "生活服务成员"
    else if a.roleGap = "developer_ai_engineer" then "系统开发与 AI 工程"
    else if a.roleGap = "community_contributor" then "社区贡献者"
    else a.roleGap)

/-- `member_application_payload(application)` of a submitted application. -/
def memberApplicationPayload (py : Python) (args : ApplicationArgs) (a : MemberApplication)
    (hasAccount hasNumber : Bool) : PyVal :=
  let roleLabel := applicationRoleGapLabel py a
  let applicantLabel := publicMemberLabel a.applicantName ""
  publicEventPayload "member_application" a.applicationId "成员报名" "submitted" "submitted"
    ("收到成员报名，报名者 " ++ applicantLabel ++ "，意向角色 " ++ roleLabel ++ "（已提交）。")
    [("application_id", .str a.applicationId), ("public_applicant_label", .str applicantLabel),
      ("role_gap", .str a.roleGap), ("role_gap_label", .str roleLabel),
      ("stage", .str "submitted"), ("status", .str "submitted")]
    [commitment "applicant_name_raw" true "真实姓名属于隐私",
      commitment "contact" true "联系方式属于隐私",
      commitment "account_user_id" hasAccount "账号ID属于隐私",
      commitment "requested_member_no" hasNumber "成员编号属于隐私",
      commitment "linked_member_id" a.linkedMember.isSome "关联成员内部ID",
      commitment "motivation" true "报名动机属于隐私",
      commitment "availability_hours_per_week" true "可用时长属于隐私",
      commitment "availability_slots" (!(listPayload py args.availabilitySlots).isEmpty)
        "可用时段属于隐私",
      commitment "capability_scores" (!args.capabilityScores.isEmpty) "能力评分属于隐私",
      commitment "dynamic_answers" (truthy args.dynamicAnswers) "动态问答内容属于隐私",
      commitment "document_authority_domains" true "文件签署域属于隐私",
      commitment "frozen_at" true "冻结时间", commitment "submitted_at" true "提交时间",
      commitment "decided_at" true "决定时间",
      commitment "metadata" (!a.metadata.isEmpty) "元数据"]

/-! ## The admission proposal -/

/-- When the version was published. -/
def publicationOf (s : ApplicationState rt) (r : ElectorateRuleVersion) : Nat :=
  ((s.publishedAt.find? fun e => e.1 = r.ruleVersionId).map Prod.snd).getD 0

/-- `latest_published_rule_for_proposal_type(proposal_type)`. -/
def latestPublishedRule (s : ApplicationState rt) (proposalType : ProposalType) :
    Option ElectorateRuleVersion :=
  ((s.proposals.rules.rows.filter fun r => r.template.proposalType = proposalType.value &&
      !s.retiredRules.contains r.template.ruleCode).insertionSort fun a b =>
    publicationOf s b < publicationOf s a ∨
      publicationOf s a = publicationOf s b ∧ b.version ≤ a.version).head?

/-- The arguments that an application gives to `create_electorate_proposal`. -/
def admissionProposalArgs (application : MemberApplication) (submittedBy : Member)
    (rule : Option ElectorateRuleVersion) : CreateElectorateArgs where
  proposalType := .memberApplication
  title := "守约者报名：" ++ application.applicantName
  submittedBy := submittedBy
  dedupeKey := "member-application:" ++ application.applicationId
  targetType := "member_application"
  targetId := application.applicationId
  ruleVersion := rule
  summary := "一项等待社区按已发布准入政策决定的守约者报名。"
  publicReason := "申请人希望承担守约者义务。"
  metadata := [("application_id", .str application.applicationId)]

/-- `application.admission_proposal = proposal`. -/
def setAdmissionProposal (links : List (String × String)) (applicationId proposalId : String) :
    List (String × String) :=
  links.filter (fun e => e.1 ≠ applicationId) ++ [(applicationId, proposalId)]

/-- `create_approval_proposal_for_application(application=..., submitted_by=...)`. -/
def createApprovalProposalForApplication (env : ProposalEnv) (s : ApplicationState rt)
    (application : MemberApplication) (submittedBy : Member) :
    Except Error (ApplicationState rt × ApprovalProposal) := do
  rejectIf (application.linkedMember ≠ some submittedBy.pk)
    (.domain "只能由报名绑定的成员发起准入提案。")
  let rule := latestPublishedRule s .memberApplication
  let (proposals, p) ← createElectorateProposal env s.proposals
    (admissionProposalArgs application submittedBy rule)
  let s := { s with
    proposals := proposals
    admissionProposals := setAdmissionProposal s.admissionProposals application.applicationId
      p.proposalId }
  if rule.isSome ∧ p.status = .draft then do
    let (proposals, p) ← startElectorateVoting env s.proposals p.proposalId
    return ({ s with proposals := proposals }, p)
  else return (s, p)

/-- `_append_member_application_public_event_once(event_id=..., ...)`. -/
def appendPublicEventOnce (s : ApplicationState rt) (eventId : String) : ApplicationState rt :=
  if eventId ∈ s.publicEvents then s else { s with publicEvents := s.publicEvents ++ [eventId] }

/-- The part of `submit_member_application` that writes. -/
def storeApplication (py : Python) (env : ApplicationEnv) (s : ApplicationState rt)
    (args : ApplicationArgs) (memberNo : String) (account : Option Account)
    (existing : Option Member) (option : RecruitmentOption) :
    Except Error (ApplicationState rt × MemberApplication) := do
  let now := args.submittedAt.getD env.proposal.now
  let new ← newApplication py env s args option
  let (s, member) ← bindMember py s env.proposal.now memberNo account existing new
  let application := { new.application with linkedMember := some member.pk }
  let applications ← s.proposals.applications.insert application Error.integrity
  let s ← appendEvent { s with proposals := { s.proposals with applications := applications } } {
    eventType := "member_application_submitted"
    aggregateType := "MemberApplication"
    aggregateId := application.applicationId
    actorMember := none
    payloadJson := memberApplicationPayload py args application account.isSome
      (existing.isNone || memberNo ≠ "")
    occurredAt := some now
    now := env.proposal.now }
  let s := appendPublicEventOnce s ("member-application-submitted-" ++ application.applicationId)
  let (s, _) ← createApprovalProposalForApplication env.proposal s application member
  return (s, application)

/-- `submit_member_application(...)`. -/
def submitMemberApplication (py : Python) (env : ApplicationEnv) (s : ApplicationState rt)
    (args : ApplicationArgs) : Except Error (ApplicationState rt × MemberApplication) := do
  rejectIf (args.availabilityHoursPerWeek < 0) (.domain "每周可投入小时不能为负数。")
  let memberNo ← cleanedMemberNo args
  let (s, account) ← applicationAccount env s args
  let existing := accountMember s account
  checkMemberNo s memberNo existing
  match existing with
  | none => pure ()
  | some m => checkExistingMember s env.proposal.now m
  let s ← ensureTemplates s
  let option ← openOption py s (strip args.roleGap)
  storeApplication py env s args memberNo account existing option

/-! ## Runs -/

/-- An operation on the proposals there are. -/
inductive ElectorateCall where
  | attach (proposalId : String) (rule : ElectorateRuleVersion)
  | activate (rule : ElectorateRuleVersion)
  | start (proposalId : String)
  | cast (proposalId : String) (voter : Member) (choice reason : String)
  | finalize (proposalId : String) (actor : Member)
  | execute (proposalId : String) (actor : Member)

/-- The operation as a call of its service. -/
def ElectorateCall.toCall : ElectorateCall → ProposalCall
  | attach proposalId rule => .attach proposalId rule
  | activate rule => .activate rule
  | start proposalId => .start proposalId
  | cast proposalId voter choice reason => .cast proposalId voter choice reason
  | finalize proposalId actor => .finalize proposalId actor
  | execute proposalId actor => .execute proposalId actor

/-- A step of a run: an application, a repeated request for its proposal, an operation on the
proposals, a published rule, the rules that are retired, a change of recruitment, or any change of
roles, terms, qualifications, credentials and the ledger that leaves the members. -/
inductive ApplicationStep (rt : Runtime) where
  | submit (env : ApplicationEnv) (args : ApplicationArgs)
  | propose (env : ProposalEnv) (applicationId : String) (member : Member)
  | electorate (env : ProposalEnv) (c : ElectorateCall)
  | publish (env : ProposalEnv) (rule : ElectorateRuleVersion)
  | retire (ruleCodes : List String)
  | recruit (details : List TemplateDetails)
  | roles (roles : RoleState rt)

def applicationStep (py : Python) (s : ApplicationState rt) :
    ApplicationStep rt → Except Error (ApplicationState rt)
  | .submit env args => do
    let (s, _) ← submitMemberApplication py env s args
    return s
  | .propose env applicationId member =>
    match s.proposals.applications.get? applicationId with
    | none => .error (.doesNotExist "MemberApplication")
    | some application => do
      let (s, _) ← createApprovalProposalForApplication env s application member
      return s
  | .electorate env c => do
    let proposals ← proposalCall env s.proposals c.toCall
    return { s with proposals := proposals }
  | .publish env rule => do
    let proposals ← proposalCall env s.proposals (.publish rule)
    return { s with
      proposals := proposals
      publishedAt := s.publishedAt ++ [(rule.ruleVersionId, env.now)] }
  | .retire ruleCodes => .ok { s with retiredRules := ruleCodes }
  | .recruit details => .ok { s with details := details }
  | .roles roles => .ok { s with proposals := { s.proposals with roles := { roles with
      db := { roles.db with members := s.proposals.roles.db.members } } } }

/-! ## Policies -/

/-- The applications with the rule templates. -/
structure PolicyState (rt : Runtime) where
  applications : ApplicationState rt
  templates : Table ElectorateRuleTemplate String Unit ElectorateRuleTemplate.ruleCode fun _ => none

def manageProposalPoliciesPermission : String := "governance.manage_proposal_policies"

/-- `create_electorate_rule_template(...)`. -/
def createElectorateRuleTemplate (env : ProposalEnv) (s : PolicyState rt)
    (proposalType ruleCode name : String) (createdBy : Member) :
    Except Error (PolicyState rt × ElectorateRuleTemplate) := do
  requirePermission s.applications.proposals env.now createdBy manageProposalPoliciesPermission
    "你无权维护提案政策。"
  rejectIf (ruleCode = "" ∨ proposalType = "") (.domain "规则代码和适用提案类型不能为空。")
  match s.templates.get? ruleCode with
  | some template =>
    rejectIf (template.proposalType ≠ proposalType) (.domain "规则代码已经属于其他提案类型。")
    return (s, template)
  | none =>
    let template : ElectorateRuleTemplate := ⟨ruleCode, proposalType, name⟩
    let templates ← s.templates.insert template Error.integrity
    return ({ s with templates := templates }, template)

/-- The outcome with the given value. -/
def UnresolvedOutcome.ofValue (value : String) : Option UnresolvedOutcome :=
  if value = "rejected" then some .rejected
  else if value = "expired" then some .expired
  else none

/-- The arguments of `publish_electorate_rule_version`; the template is known by its code. -/
structure PublishArgs where
  ruleCode : String
  selectorConfig : Json
  approveThreshold : Int
  rejectThreshold : Int
  minimumParticipation : Int
  votingDurationHours : Int
  unresolvedOutcome : String
  publishedBy : Member

/-- The arguments that pass the check on thresholds and hours. -/
def PublishArgs.Positive (args : PublishArgs) : Prop :=
  1 ≤ args.approveThreshold ∧ 1 ≤ args.rejectThreshold ∧ 1 ≤ args.votingDurationHours ∧
    0 ≤ args.minimumParticipation

instance (args : PublishArgs) : Decidable args.Positive :=
  inferInstanceAs (Decidable (1 ≤ args.approveThreshold ∧ 1 ≤ args.rejectThreshold ∧
    1 ≤ args.votingDurationHours ∧ 0 ≤ args.minimumParticipation))

theorem PublishArgs.Positive.row {args : PublishArgs} (h : args.Positive) :
    1 ≤ args.approveThreshold.toNat ∧ 1 ≤ args.rejectThreshold.toNat ∧
      1 ≤ args.votingDurationHours.toNat := by
  obtain ⟨happrove, hreject, hhours, -⟩ := h
  omega

/-- The versions of a template. -/
def versionsOf (rules : List ElectorateRuleVersion) (ruleCode : String) : List Nat :=
  (rules.filter fun r => r.template.ruleCode = ruleCode).map ElectorateRuleVersion.version

/-- The row that publishing inserts. -/
def newRuleVersion (uuid : String) (template : ElectorateRuleTemplate) (version : Nat)
    (args : PublishArgs) (outcome : UnresolvedOutcome)
    (hvalid : ∃ db : Directory, Electorate.validateSelectorNode db 0 args.selectorConfig = .ok ())
    (hpositive : args.Positive) : ElectorateRuleVersion where
  ruleVersionId := "rule-version-" ++ uuid
  template := template
  version := version
  selectorConfig := args.selectorConfig
  approveThreshold := args.approveThreshold.toNat
  rejectThreshold := args.rejectThreshold.toNat
  minimumParticipation := args.minimumParticipation.toNat
  votingDurationHours := args.votingDurationHours.toNat
  unresolvedOutcome := outcome
  validated := hvalid
  positive := hpositive.row

/-- What publishing writes: the row, its time and its event. -/
def storeRuleVersion (env : ProposalEnv) (s : PolicyState rt) (rule : ElectorateRuleVersion)
    (publishedBy : Member) : Except Error (PolicyState rt) := do
  let proposals := s.applications.proposals
  let rules ← proposals.rules.insert rule Error.integrity
  let applications ← appendEvent { s.applications with
      proposals := { proposals with rules := rules }
      publishedAt := s.applications.publishedAt ++ [(rule.ruleVersionId, env.now)] } {
    eventType := "electorate_rule_published"
    aggregateType := "ElectorateRuleVersion"
    aggregateId := rule.ruleVersionId
    actorMember := some publishedBy.pk
    payloadJson := PublicLedger.electorateRulePayload rule (some env.now) publishedBy
    occurredAt := some env.now
    now := env.now }
  return { s with applications := applications }

/-- `publish_electorate_rule_version(...)`. -/
def publishElectorateRuleVersion (env : ProposalEnv) (s : PolicyState rt) (args : PublishArgs) :
    Except Error (PolicyState rt × ElectorateRuleVersion) := do
  requirePermission s.applications.proposals env.now args.publishedBy
    manageProposalPoliciesPermission "你无权发布提案政策。"
  match s.templates.get? args.ruleCode with
  | none => .error (.doesNotExist "ElectorateRuleTemplate")
  | some locked =>
    rejectIf (s.applications.retiredRules.contains locked.ruleCode)
      (.domain "该选民规则模板已停止发布。")
    match hvalid : Electorate.validateSelectorNode s.applications.proposals.roles.db 0
        args.selectorConfig with
    | .error e => .error e
    | .ok () =>
      if hpositive : args.Positive then
        match UnresolvedOutcome.ofValue args.unresolvedOutcome with
        | none => .error (.domain "未决处理方式无效。")
        | some outcome =>
          let previous := versionsOf s.applications.proposals.rules.rows locked.ruleCode
          let version := previous.foldr max 0 + 1
          let rule := newRuleVersion env.uuid locked version args outcome ⟨_, hvalid⟩ hpositive
          let s ← storeRuleVersion env s rule args.publishedBy
          return (s, rule)
      else .error (.domain "阈值和表决期限必须使用有效正整数。")

/-- What the members who keep the policies do, beside the services of the applications. -/
inductive PolicyCall where
  | template (proposalType ruleCode name : String) (createdBy : Member)
  | publish (args : PublishArgs)
  | activate (rule : ElectorateRuleVersion)
  | retire (ruleCodes : List String)

def policyCall (env : ProposalEnv) (s : PolicyState rt) : PolicyCall → Except Error (PolicyState rt)
  | .template proposalType ruleCode name createdBy => do
    let (s, _) ← createElectorateRuleTemplate env s proposalType ruleCode name createdBy
    return s
  | .publish args => do
    let (s, _) ← publishElectorateRuleVersion env s args
    return s
  | .activate rule => do
    let proposals ← activateWaitingProposalsForRule env s.applications.proposals rule
    return { s with applications := { s.applications with proposals := proposals } }
  | .retire ruleCodes =>
    .ok { s with applications := { s.applications with retiredRules := ruleCodes } }

/-- A call at its time; what raises is rolled back. -/
def policyStep (s : PolicyState rt) (c : ProposalEnv × PolicyCall) :
    Except Error (PolicyState rt) :=
  policyCall c.1 s c.2

end LiveOs.Proposals
