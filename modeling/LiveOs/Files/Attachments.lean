import LiveOs.Files.Processing
import LiveOs.Finance.Services
import LiveOs.Lib.Atomic
import LiveOs.Roles.Assignments
import Mathlib.Algebra.Order.Ring.Int

/-!
# Business attachments

`core/attachment_services.py` over the rows of `core/models/attachments.py`: uploads are validated,
stored one by one and sealed in rows inside an atomic block, and the objects are deleted again when
the block fails.
-/

namespace LiveOs.Files

open Lib EventLedger Roles Finance

variable {rt : Runtime} {files : FileRuntime}

/-! ## Rows -/

/-- `Attachment.Audience`: `PRIVATE` and `PUBLIC`. -/
inductive Audience where
  | privateOriginal
  | publicDerivative
deriving DecidableEq

/-- `ExpenseClaimAttachment.Purpose`. -/
inductive Purpose where
  | expenseEvidence
  | paymentEvidence
  | publicMaterial
deriving DecidableEq

structure Attachment where
  pk : Nat
  objectKey : String
  detectedMediaType : String
  displayFilename : String
  byteSize : Nat
  sha256 : String
  uploadedBy : Nat
  audience : Audience
  sourceAttachment : Option Nat
  supersedes : Option Nat
deriving DecidableEq

/-- A link, with the immutable attachment it is about. -/
structure ExpenseClaimAttachment where
  claim : Nat
  attachment : Attachment
  purpose : Purpose
  paymentExecution : Option String
deriving DecidableEq

structure MemberPublicProfile where
  member : Nat
  avatarKey : String
  avatarSha256 : String
  avatarSize : Option Nat
  avatarUpdatedAt : Option Nat
  isVisible : Bool
deriving DecidableEq

/-- An internal row of `Event`. -/
structure InternalEvent where
  eventId : String
  title : String
  summary : String
  involvedMemberIds : List String
  payload : List (String × Json)

abbrev AttachmentTable := Table Attachment Nat String Attachment.pk fun a => some a.objectKey

abbrev LinkTable :=
  Table ExpenseClaimAttachment Nat Unit (fun l => l.attachment.pk) fun _ => none

abbrev ProfileTable := Table MemberPublicProfile Nat Unit MemberPublicProfile.member fun _ => none

abbrev InternalEventTable := Table InternalEvent String Unit InternalEvent.eventId fun _ => none

structure FilesDb (rt : Runtime) where
  finance : FinanceDb rt
  attachments : AttachmentTable
  links : LinkTable
  profiles : ProfileTable
  internalEvents : InternalEventTable

/-- What lies outside the database: the two stores, and the two lists that exception handlers read,
`saved_keys` of `create_expense_attachments` and `created_links` of the finance services. -/
structure Outside where
  attachments : ObjectStore
  avatars : ObjectStore
  savedKeys : List String
  createdLinks : List ExpenseClaimAttachment

/-- What a call takes from outside: the finance environment, and `uuid4()` for each object or event
that the call creates. -/
structure FilesEnv extends FinanceEnv where
  uuid : Nat → Uuid

abbrev FileService (rt : Runtime) := Service Error (FilesDb rt) Outside

/-- A step on the finance rows. -/
def onFinance {α : Type} (f : FinanceDb rt → Except Error (FinanceDb rt × α)) : FileService rt α :=
  Service.onDb fun db => do
    let (finance, a) ← f db.finance
    return (a, { db with finance := finance })

/-! ## The gateway -/

/-- `gateway.save_immutable(world_id=world_id, content=content)`. -/
def saveImmutable (worldId : String) (uuid : Uuid) (content : Bytes) : FileService rt String :=
  Service.onOutside fun o => do
    let key ← newBusinessAttachmentKey worldId uuid
    let attachments ← o.attachments.save key content
      (.runtime "Storage backend changed the immutable attachment key.")
    return (key, { o with attachments := attachments })

/-- `gateway.delete_uncommitted(key, world_id=world_id)`. -/
def deleteUncommitted (worldId key : String) : FileService rt Unit :=
  Service.sure fun o => do
    let key ← requireBusinessAttachmentKey key worldId
    return { o with attachments := o.attachments.delete key }

/-! ## Creating attachments -/

/-- `_validate_batch(uploads)`. -/
def validateBatch (files : FileRuntime) (uploads : List Upload) : Except Error (List Upload) := do
  rejectIf uploads.isEmpty (.domain "请至少上传一份凭证。")
  rejectIf (files.attachmentMaxFiles < uploads.length)
    (.domain ("一次最多上传 " ++ toString files.attachmentMaxFiles ++ " 个凭证文件。"))
  rejectIf ((files.attachmentMaxTotalBytes : Int) <
      (uploads.map fun item => max 0 (item.size.getD 0)).sum)
    (.domain "本次凭证文件总大小超过限制。")
  return uploads

/-- What the attachments of a batch share. -/
structure BatchFields where
  claim : Nat
  uploadedBy : Nat
  purpose : Purpose
  worldId : String
  paymentExecution : Option String := none
  audience : Audience := .privateOriginal
  sourceAttachment : Option Nat := none
  supersedes : Option Nat := none

/-- `Attachment.objects.create(...)`. -/
def createAttachment (fields : BatchFields) (item : ProcessedBusinessAttachment files)
    (key : String) (db : FilesDb rt) : Except Error (Attachment × FilesDb rt) := do
  let attachment : Attachment := {
    pk := nextPk (db.attachments.rows.map Attachment.pk)
    objectKey := key
    detectedMediaType := item.mediaType
    displayFilename := item.displayFilename
    byteSize := item.size
    sha256 := item.sha256
    uploadedBy := fields.uploadedBy
    audience := fields.audience
    sourceAttachment := fields.sourceAttachment
    supersedes := fields.supersedes }
  let attachments ← db.attachments.insert attachment .integrity
  return (attachment, { db with attachments := attachments })

/-- `ExpenseClaimAttachment.objects.create(...)`. -/
def createLink (fields : BatchFields) (attachment : Attachment) (db : FilesDb rt) :
    Except Error (ExpenseClaimAttachment × FilesDb rt) := do
  let link : ExpenseClaimAttachment := ⟨fields.claim, attachment, fields.purpose, fields.paymentExecution⟩
  let links ← db.links.insert link .integrity
  return (link, { db with links := links })

/-- The loop over the processed items, the first of which is the one with the given number. -/
def saveItems (env : FilesEnv) (fields : BatchFields) :
    List (ProcessedBusinessAttachment files) → Nat → FileService rt (List ExpenseClaimAttachment)
  | [], _ => pure []
  | item :: items, n => do
    let key ← saveImmutable fields.worldId (env.uuid n) item.content
    Service.sure fun o => .ok { o with savedKeys := o.savedKeys ++ [key] }
    let attachment ← Service.onDb (createAttachment fields item key)
    let link ← Service.onDb (createLink fields attachment)
    let created ← saveItems env fields items (n + 1)
    return link :: created

/-- The handler of `create_expense_attachments`: `for key in saved_keys: delete_uncommitted(key)`. -/
def deleteSaved (worldId : String) : FileService rt Unit := fun faults s =>
  Service.forEach (deleteUncommitted worldId) s.outside.savedKeys faults s

/-- `create_expense_attachments(...)`. -/
def createExpenseAttachments (env : FilesEnv) (files : FileRuntime) (fields : BatchFields)
    (uploads : List Upload) : FileService rt (List ExpenseClaimAttachment) := do
  let items ← Service.check (validateBatch files uploads)
  let processed ← Service.check (items.mapM (processBusinessAttachment files))
  Service.check (rejectIf
    (files.attachmentMaxTotalBytes < (processed.map fun item => item.size).sum)
    (.domain "本次凭证文件总大小超过限制。"))
  Service.sure fun o => .ok { o with savedKeys := [] }
  Service.onError (Service.atomic (saveItems env fields processed 0)) (deleteSaved fields.worldId)

/-- `cleanup_uncommitted_expense_attachments(created_links, world_id=world_id)`. -/
def cleanupUncommittedExpenseAttachments (worldId : String) : FileService rt Unit :=
  fun faults s =>
    Service.forEach (fun link => deleteUncommitted worldId link.attachment.objectKey)
      s.outside.createdLinks faults s

/-! ## Copies and corrections -/

def financePublishPublicAttachmentsPermission : String := "finance.publish_public_attachments"

def financeViewPrivatePermission : String := "finance.view_private"

/-- `[0]` of a list that a service returns. -/
def firstLink (links : List ExpenseClaimAttachment) : FileService rt ExpenseClaimAttachment :=
  fun faults s =>
    match links with
    | [] => (.error (.runtime "list index out of range"), faults, s)
    | link :: _ => (.ok link, faults, s)

/-- The link of the claim to the attachment. -/
def claimLink (claim : ExpenseClaim) (attachment : Attachment) (db : FilesDb rt) :
    Option ExpenseClaimAttachment :=
  db.links.rows.find? fun l => l.claim = claim.pk && l.attachment.pk = attachment.pk

/-- `publish_expense_attachment_copy(...)`. -/
def publishExpenseAttachmentCopy (env : FilesEnv) (files : FileRuntime) (claim : ExpenseClaim)
    (sourceAttachment : Attachment) (uploadedBy : Member) (upload : Upload) (worldId : String) :
    FileService rt ExpenseClaimAttachment := do
  Service.check (rejectIf (sourceAttachment.audience ≠ .privateOriginal)
    (.domain "公开副本的来源必须是私有原件。"))
  Service.query fun db => rejectIf (claimLink claim sourceAttachment db).isNone
    (.domain "来源附件不属于该报销。")
  Service.check (rejectIf (!env.permits uploadedBy.pk financePublishPublicAttachmentsPermission)
    (.domain "没有发布公开报销材料的权限。"))
  let links ← createExpenseAttachments env files {
    claim := claim.pk
    uploadedBy := uploadedBy.pk
    purpose := .publicMaterial
    worldId := worldId
    audience := .publicDerivative
    sourceAttachment := some sourceAttachment.pk } [upload]
  firstLink links

/-- `can_read_private_claim_attachment(member=member, claim=claim)`. -/
def canReadPrivateClaimAttachment (env : FilesEnv) (member : Member) (claim : ExpenseClaim) : Bool :=
  member.pk = claim.claimantMember && claim.status ≠ .withdrawn ||
    [financeReviewPermission, financePayPermission, financeViewPrivatePermission].any
      (env.permits member.pk)

/-- `correct_expense_attachment(...)`. -/
def correctExpenseAttachment (env : FilesEnv) (files : FileRuntime) (claim : ExpenseClaim)
    (replacedAttachment : Attachment) (uploadedBy : Member) (upload : Upload) (worldId : String) :
    FileService rt ExpenseClaimAttachment := do
  let oldLink ← Service.query fun db =>
    match claimLink claim replacedAttachment db with
    | some link =>
      if replacedAttachment.audience ≠ .privateOriginal then
        .error (.domain "只能更正该报销中的私有凭证。")
      else .ok link
    | none => .error (.domain "只能更正该报销中的私有凭证。")
  Service.check (rejectIf (uploadedBy.pk ≠ claim.claimantMember ∧
      !canReadPrivateClaimAttachment env uploadedBy claim)
    (.domain "没有更正该报销凭证的权限。"))
  let links ← createExpenseAttachments env files {
    claim := claim.pk
    uploadedBy := uploadedBy.pk
    purpose := oldLink.purpose
    worldId := worldId
    paymentExecution := oldLink.paymentExecution
    supersedes := some replacedAttachment.pk } [upload]
  firstLink links

end LiveOs.Files
