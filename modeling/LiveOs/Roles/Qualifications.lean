import LiveOs.Lib.Window
import LiveOs.Roles.Assignments

/-!
# Recording and revoking qualifications

The services of `core/professional_qualification_services.py` that write. The queries read the
columns of `MemberProfessionalQualification`; the others say who confirmed and who revoked a
qualification.
-/

namespace LiveOs.Roles

open Lib EventLedger

/-! ## Rows -/

/-- A row of `core_member_professional_qualification` with all its columns. -/
structure QualificationRow extends MemberProfessionalQualification where
  externalConfirmationSource : String
  confirmedBy : Nat
  confirmedAt : Nat
  revokedAt : Option Nat
  revokedBy : Option Nat
  notes : String
deriving DecidableEq

abbrev QualificationRowTable := Table QualificationRow Nat Unit (fun q => q.pk) fun _ => none

/-- The qualifications, and everything else that decides what a member may do. -/
structure QualificationState where
  directory : Directory
  qualifications : QualificationRowTable

/-- What the queries read. -/
def QualificationState.db (s : QualificationState) : Directory :=
  { s.directory with qualifications := {
      rows := s.qualifications.rows.map QualificationRow.toMemberProfessionalQualification
      pkUnique := by
        rw [List.map_map]
        exact s.qualifications.pkUnique
      altUnique := by
        rw [List.filterMap_eq_nil_iff.2 fun _ _ => rfl]
        exact List.nodup_nil } }

/-- The window of a qualification. -/
def MemberProfessionalQualification.window (q : MemberProfessionalQualification) : Window Nat :=
  ⟨q.validFrom, q.validUntil⟩

/-- `MemberProfessionalQualification.clean()`. -/
def QualificationRow.clean (q : QualificationRow) : Except Error Unit := do
  rejectIf (strip q.externalConfirmationSource = "")
    (.validation "external_confirmation_source: 外部确认来源不能为空。")
  rejectIf (q.validUntil.any fun until_ => until_ ≤ q.validFrom)
    (.validation "valid_until: 失效时间必须晚于生效时间。")

/-! ## Checks -/

/-- `PROFESSIONAL_QUALIFICATION_MANAGE_PERMISSION`. -/
def professionalQualificationManagePermission : String :=
  "governance.manage_professional_qualifications"

/-- `_require_qualification_subject(member, at_time=...)`. -/
def requireQualificationSubject (db : Directory) (now : Nat) (member : Member) (atTime : Nat) :
    Except Error Unit := do
  rejectIf (!memberAllowsRoleFacts member) (.domain "成员或登录账号当前不可持有专业资格。")
  rejectIf (!memberHasRole db now member [roleCovenanter] (some atTime))
    (.domain "只有当前有效的守约者可以录入专业资格。")

/-- `_require_qualification_administrator(member, action=...)`. -/
def requireQualificationAdministrator (db : Directory) (now : Nat) (member : Member)
    (action : String) : Except Error Unit := do
  rejectIf (!memberAllowsRoleFacts member) (.domain (action ++ "人当前不可用。"))
  rejectIf (!legacyMemberHasPermission db now member professionalQualificationManagePermission none)
    (.domain ("只有具备专业资格维护权限的管理员可以" ++ action ++ "专业资格。"))

/-! ## Services -/

/-- The rows that `expire_elapsed_professional_qualifications` updates. -/
def QualificationRow.elapsed (member domain : Option Nat) (checkedAt : Nat) (q : QualificationRow) :
    Bool :=
  q.status = .active && (q.validUntil.any fun until_ => until_ ≤ checkedAt) &&
    (member.all fun m => q.member = m) && domain.all fun d => q.domain = d

/-- `expire_elapsed_professional_qualifications(...)`. -/
def expireElapsedProfessionalQualifications (s : QualificationState) (member domain : Option Nat)
    (checkedAt : Nat) : QualificationState :=
  let expired : QualificationRow → QualificationRow := fun q => { q with status := .expired }
  { s with
    qualifications := s.qualifications.update (QualificationRow.elapsed member domain checkedAt)
      expired (fun _ => rfl) fun _ => rfl }

/-- The arguments of `record_external_professional_qualification`. -/
structure RecordQualificationArgs where
  member : Nat
  domain : Nat
  confirmedBy : Nat
  externalConfirmationSource : String
  confirmedAt : Option Nat
  validFrom : Option Nat
  validUntil : Option Nat
  notes : String

/-- The row that is recorded. -/
def RecordQualificationArgs.row (args : RecordQualificationArgs) (now pk : Nat) :
    QualificationRow where
  pk := pk
  member := args.member
  domain := args.domain
  status := .active
  validFrom := args.validFrom.getD now
  validUntil := args.validUntil
  externalConfirmationSource := strip args.externalConfirmationSource
  confirmedBy := args.confirmedBy
  confirmedAt := args.confirmedAt.getD now
  revokedAt := none
  revokedBy := none
  notes := strip args.notes

/-- `record_external_professional_qualification(...)`. -/
def recordExternalProfessionalQualification (now : Nat) (s : QualificationState)
    (args : RecordQualificationArgs) : Except Error (QualificationState × QualificationRow) :=
  match s.db.members.get? args.member, s.db.domains.get? args.domain,
    s.db.members.get? args.confirmedBy with
  | some member, some domain, some confirmedBy => do
    let startsAt := args.validFrom.getD now
    rejectIf (domain.status ≠ .active) (.domain "专业领域未启用，不能录入资格。")
    requireQualificationSubject s.db now member startsAt
    requireQualificationAdministrator s.db now confirmedBy "确认"
    rejectIf (strip args.externalConfirmationSource = "") (.domain "必须记录外部确认来源。")
    rejectIf (args.validUntil.any fun until_ => until_ ≤ startsAt)
      (.domain "专业资格失效时间必须晚于生效时间。")
    let s := expireElapsedProfessionalQualifications s (some member.pk) (some domain.pk) startsAt
    rejectIf (hasCurrentProfessionalQualification s.db now member domain (some startsAt))
      (.domain "该成员在此专业领域已有当前有效资格。")
    let row := args.row now (nextPk (s.qualifications.rows.map fun q => q.pk))
    row.clean
    let qualifications ← s.qualifications.insert row Error.integrity
    return ({ s with qualifications := qualifications }, row)
  | none, _, _ => .error (.doesNotExist "Member")
  | some _, none, _ => .error (.doesNotExist "ProfessionalDomain")
  | some _, some _, none => .error (.doesNotExist "Member")

/-- `revoke_professional_qualification(...)`. -/
def revokeProfessionalQualification (now : Nat) (s : QualificationState) (qualificationPk : Nat)
    (revokedBy : Nat) (atTime : Option Nat) : Except Error (QualificationState × QualificationRow) :=
  match s.qualifications.get? qualificationPk, s.db.members.get? revokedBy with
  | some qualification, some revoker => do
    requireQualificationAdministrator s.db now revoker "撤销"
    let fields : QualificationRow → QualificationRow := fun q =>
      { q with status := .revoked, revokedBy := some revokedBy, revokedAt := some (atTime.getD now) }
    (fields qualification).clean
    return ({ s with qualifications :=
      s.qualifications.modify qualificationPk fields (fun _ => rfl) fun _ => rfl },
      fields qualification)
  | none, _ => .error (.doesNotExist "MemberProfessionalQualification")
  | some _, none => .error (.doesNotExist "Member")

/-! ## Histories -/

/-- One change of a history: a service, or any change of what it reads besides the
qualifications. -/
inductive QualificationChange where
  | record (args : RecordQualificationArgs)
  | expire (member domain : Option Nat)
  | revoke (qualification revokedBy : Nat) (atTime : Option Nat)
  | surroundings (directory : Directory)

/-- A change at its time, as a step of the state. -/
def qualificationStep (s : QualificationState) (c : Nat × QualificationChange) :
    Except Error QualificationState :=
  match c.2 with
  | .record args => do
    let (s, _) ← recordExternalProfessionalQualification c.1 s args
    return s
  | .expire member domain => .ok (expireElapsedProfessionalQualifications s member domain c.1)
  | .revoke qualification revokedBy atTime => do
    let (s, _) ← revokeProfessionalQualification c.1 s qualification revokedBy atTime
    return s
  | .surroundings directory => .ok { s with directory := directory }

end LiveOs.Roles
