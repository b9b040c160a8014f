import LiveOs.EventLedger.Journal
import LiveOs.Roles.Queries

/-!
# Covenanter numbers

The part of `core/credential_services.py` that role assignments call, with the labels of
`core/event_payloads.py` under which members appear in the public ledger.
-/

namespace LiveOs.Roles

open Lib EventLedger

/-! ## Public labels -/

/-- `name or other` on texts. -/
def orText (a b : String) : String := if a = "" then b else a

/-- `_public_member_label(name, member_no)`. -/
def publicMemberLabel (name memberNo : String) : String :=
  let label := orText (orText (strip name) (strip memberNo)) "新成员"
  match label.toList with
  | [] | [_] => "*"
  | [c, _] => String.ofList [c, '*']
  | c :: cs => String.ofList [c, '*', '*', cs.getLastD c]

/-- The label of a member by display name and number. -/
def Member.publicLabel (m : Member) : String := publicMemberLabel m.displayName m.memberNo

/-! ## Templates and grants -/

/-- `CredentialTemplate.CredentialType`. -/
inductive CredentialType where
  | covenanterNumber
  | badge
  | certificate
  | nftPlaceholder
deriving DecidableEq

def CredentialType.value : CredentialType → String
  | covenanterNumber => "covenanter_number"
  | badge => "badge"
  | certificate => "certificate"
  | nftPlaceholder => "nft_placeholder"

/-- A template, known by its unique code. -/
structure CredentialTemplate where
  code : String
  templateId : String
  name : String
  credentialType : CredentialType
deriving DecidableEq

/-- `CredentialGrant.Status`. -/
inductive GrantStatus where
  | active
  | revoked
  | archived
deriving DecidableEq

def GrantStatus.value : GrantStatus → String
  | active => "active"
  | revoked => "revoked"
  | archived => "archived"

/-- `CredentialGrant.SourceType`. -/
inductive GrantSource where
  | system
  | proposalExecution
  | manual
  | earned
deriving DecidableEq

def GrantSource.value : GrantSource → String
  | system => "system"
  | proposalExecution => "proposal_execution"
  | manual => "manual"
  | earned => "earned"

structure CredentialGrant where
  grantId : String
  template : String
  member : Nat
  serialNo : Option Nat
  displayNo : String
  title : String
  status : GrantStatus
  issuedAt : Nat
  issuedBy : Option Nat
  sourceType : GrantSource
  dedupeKey : String
deriving DecidableEq

abbrev TemplateTable := Table CredentialTemplate String String CredentialTemplate.code
  fun t => some t.templateId

abbrev GrantTable := Table CredentialGrant String (String × Nat × String) CredentialGrant.grantId
  fun g => some (g.template, g.member, g.dedupeKey)

/-- The tables that role assignments write. -/
structure RoleState (rt : Runtime) where
  db : Directory
  templates : TemplateTable
  grants : GrantTable
  events : Journal rt

/-- What one call takes from its surroundings: the clock and the random part of a grant id. -/
structure RoleEnv where
  now : Nat
  grantUuid : String

/-- The templates of `ensure_builtin_credential_templates()`. -/
def builtinTemplates : List CredentialTemplate := [
  ⟨"covenanter_number", "credential-template-covenanter-number", "守约者编号", .covenanterNumber⟩,
  ⟨"company_legal_representative", "credential-template-company-legal-rep", "公司法人方向",
    .certificate⟩,
  ⟨"finance_responsible_person", "credential-template-finance-responsible", "财务负责人方向",
    .certificate⟩,
  ⟨"legal_advisor", "credential-template-legal-advisor", "律师/法律顾问方向", .certificate⟩,
  ⟨"medical_support", "credential-template-medical-support", "医生/健康支持方向", .certificate⟩,
  ⟨"electrician_facility", "credential-template-electrician-facility", "电工/设施维护方向",
    .certificate⟩,
  ⟨"ai_engineer", "credential-template-ai-engineer", "AI 工程师方向", .certificate⟩,
  ⟨"content_recorder", "credential-template-content-recorder", "内容记录方向", .certificate⟩,
  ⟨"life_service", "credential-template-life-service", "生活服务方向", .certificate⟩,
  ⟨"provider_delivery_completed", "credential-template-provider-delivery-completed",
    "供给履约完成凭证", .certificate⟩]

/-- `CredentialTemplate.objects.get_or_create(code=..., defaults=...)` for every built-in one. -/
def ensureBuiltinCredentialTemplates (templates : TemplateTable) : Except Error TemplateTable :=
  builtinTemplates.foldlM (fun templates spec => do
    let (templates, _, _) ← templates.getOrCreate (fun t => t.code = spec.code) spec
      Error.multipleObjects Error.integrity
    return templates) templates

variable {rt : Runtime}

/-- `credential_grant_payload(grant)`. -/
def credentialGrantPayload (template : CredentialTemplate) (grant : CredentialGrant)
    (member : Member) : PyVal :=
  let recipientLabel := member.publicLabel
  let serial := match grant.serialNo with
    | some n => if n = 0 then "" else toString n
    | none => ""
  publicEventPayload "credential_grant"
    ("credential:" ++ template.code ++ ":" ++ orText grant.displayNo serial)
    (template.name ++ " " ++ grant.displayNo) "granted" grant.status.value
    ("成员 " ++ recipientLabel ++ " 获得凭证：" ++ template.name ++ " " ++ grant.displayNo ++ "。")
    [("template_code", .str template.code), ("template_name", .str template.name),
      ("credential_type", .str template.credentialType.value),
      ("display_no", .str grant.displayNo),
      ("serial_no", .scalar (match grant.serialNo with
        | some n => .int n
        | none => .none)),
      ("recipient_public_label", .str recipientLabel),
      ("source_type", .str grant.sourceType.value)]
    [commitment "member_id" true "成员内部ID", commitment "grant_id" true "凭证发放内部ID"]

/-- `_issue_credential_unlocked(...)` without metadata. A broken constraint ends the transaction,
so reading the winner fails. -/
def issueCredentialUnlocked (env : RoleEnv) (s : RoleState rt) (template : CredentialTemplate)
    (member : Member) (dedupeKey : String) (sourceType : GrantSource) (issuedBy : Option Nat)
    (serialNo : Option Nat) (title : String) : Except Error (RoleState rt × CredentialGrant) := do
  rejectIf (dedupeKey = "") (.domain "dedupe_key 不能为空。")
  let grant : CredentialGrant := {
    grantId := "credential-grant-" ++ env.grantUuid
    template := template.code
    member := member.pk
    serialNo := serialNo
    displayNo := match serialNo with
      | some n => "#" ++ toString n
      | none => ""
    title := orText title template.name
    status := .active
    issuedAt := env.now
    issuedBy := issuedBy
    sourceType := sourceType
    dedupeKey := dedupeKey }
  let grants ← s.grants.insert grant (Error.runtime "TransactionManagementError")
  let events ← s.events.append {
    eventType := "credential_granted"
    aggregateType := "CredentialGrant"
    aggregateId := grant.grantId
    actorMember := issuedBy
    payloadJson := credentialGrantPayload template grant member
    occurredAt := some grant.issuedAt
    now := env.now }
  return ({ s with grants := grants, events := events }, grant)

/-- `order by serial_no`, with empty serial numbers first. -/
def serialLe (a b : CredentialGrant) : Bool :=
  match a.serialNo, b.serialNo with
  | none, _ => true
  | some _, none => false
  | some m, some n => m ≤ n

/-- `issue_covenanter_number(member, issued_by=...)`. -/
def issueCovenanterNumber (env : RoleEnv) (s : RoleState rt) (member : Member)
    (issuedBy : Option Nat) : Except Error (RoleState rt × CredentialGrant) := do
  let templates ← ensureBuiltinCredentialTemplates s.templates
  let s := { s with templates := templates }
  match templates.get? "covenanter_number" with
  | none => .error (.doesNotExist "CredentialTemplate")
  | some template =>
    match ((s.grants.rows.filter fun g => g.template = template.code && g.member = member.pk)
        |>.insertionSort fun a b => serialLe a b).head? with
    | some existing => return (s, existing)
    | none =>
      let serials := (s.grants.rows.filter fun g => g.template = template.code).filterMap
        CredentialGrant.serialNo
      issueCredentialUnlocked env s template member ("covenanter_number:" ++ member.memberNo) .system
        issuedBy (some (serials.foldr max 0 + 1)) ""

/-! ## Payloads of role assignments

`role_assignment_payload` of `core/event_payloads.py` and the label it gives a member. -/

/-- A related row, read through its foreign key. -/
def related {ρ κ α : Type} [DecidableEq κ] {pk : ρ → κ} {alt : ρ → Option α}
    (t : Table ρ κ α pk alt) (key : κ) (model : String) : Except Error ρ :=
  match t.get? key with
  | none => .error (.doesNotExist model)
  | some r => .ok r

theorem related_eq_ok {ρ κ α : Type} [DecidableEq κ] {pk : ρ → κ} {alt : ρ → Option α}
    {t : Table ρ κ α pk alt} {key : κ} {model : String} {r : ρ} :
    related t key model = .ok r ↔ t.get? key = some r := by
  unfold related
  cases t.get? key with
  | none => simp
  | some r' => simp

/-- `_member_label(member)`. -/
def Member.label (rt : Runtime) (m : Member) : String :=
  if m.displayName ≠ "" then m.displayName
  else match Json.get? m.profile "display_name" with
    | none => m.memberNo
    | some name => if name.toPy.truthy then rt.str name.toPy else m.memberNo

/-- `_public_member_label(_member_label(member), member.member_no)`. -/
def Member.publicProfileLabel (rt : Runtime) (m : Member) : String :=
  publicMemberLabel (m.label rt) m.memberNo

def AssignmentStatus.value : AssignmentStatus → String
  | active => "active"
  | revoked => "revoked"
  | suspended => "suspended"
  | expired => "expired"

/-- `get_status_display()`. -/
def AssignmentStatus.label : AssignmentStatus → String
  | active => "生效中"
  | revoked => "已撤销"
  | suspended => "已暂停"
  | expired => "已过期"

def SourceType.value : SourceType → String
  | direct => "direct"
  | selfApplication => "self_application"
  | proposal => "proposal"
  | initialization => "initialization"
  | system => "system"

/-- `role_assignment_payload(assignment)`. -/
def roleAssignmentPayload (rt : Runtime) (db : Directory) (assignment : RoleAssignment) :
    Except Error PyVal := do
  let role ← related db.roles assignment.role "Role"
  let member ← related db.members assignment.member "Member"
  let organization ← related db.organizations role.organization "Organization"
  let publicLabel := member.publicProfileLabel rt
  return publicEventPayload "role_assignment"
    (publicRef ["role-assignment", role.name, publicLabel]) role.name
    (if assignment.status = .active then "assigned" else "revoked") assignment.status.value
    ("成员 " ++ publicLabel ++ " " ++ assignment.status.label ++ " " ++ role.name ++ "。")
    [("member_label", .str publicLabel), ("role_name", .str role.name),
      ("organization_name", .str organization.name), ("status", .str assignment.status.value),
      ("source_type", .str assignment.sourceType.value)]
    [commitment "role_assignment_id" true "角色任命内部ID",
      commitment "member_id" true "成员内部ID",
      commitment "role_id" true "角色内部ID",
      commitment "organization_id" true "组织内部ID",
      commitment "granted_by_id" true "任命者内部ID",
      commitment "revoked_by_id" true "撤销者内部ID"]

end LiveOs.Roles
