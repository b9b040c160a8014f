import LiveOs.Lib.Waves
import Mathlib.Data.List.Basic

/-!
# The recruitment scenario

The applicants and partners of `simulation/zero_start_strategy.py`: the fixed ones, the waves that
follow them, and the screening decision.
-/

namespace LiveOs.ZeroStart

open Lib

/-- The statuses a screening gives an applicant, with the one before it. -/
inductive ApplicationStatus where
  | registered | candidate | standby | rejected | withdrew
  deriving DecidableEq, Repr

/-- `PartnerApplication.Status`. -/
inductive PartnerStatus where
  | submitted | underReview | qualified | standby | rejected | withdrew
  deriving DecidableEq, Repr

structure ApplicantSpec where
  index : Nat
  applyHour : Nat
  screenHour : Nat
  displayName : String
  motivation : String
  capabilityScores : List (String × Nat)
  availabilityHoursPerWeek : Nat
  documentAuthorityDomains : List String := []
  withdrawHour : Option Nat := none
  deriving DecidableEq

structure PartnerSpec where
  index : Nat
  applyHour : Nat
  screenHour : Nat
  organizationName : String
  contactName : String
  serviceDomains : List String
  canIssueResponsibilityDocuments : Bool
  responsibilityDocumentDomains : List String
  qualificationSummary : String
  quoteSummary : String
  serviceArea : String
  deliveryCycleDays : Option Nat := none
  constraints : String := ""
  reviewStatus : PartnerStatus := .standby
  deriving DecidableEq

/-! ## The fixed applicants -/

def memberApplicants : List ApplicantSpec := [
  { index := 1, applyHour := 7, screenHour := 14, displayName := "报名者 001"
    motivation := "想参与真实社区建设，能做线上资料整理。"
    capabilityScores := [("文档", 72), ("社群沟通", 66)], availabilityHoursPerWeek := 10 },
  { index := 2, applyHour := 18, screenHour := 25, displayName := "报名者 002"
    motivation := "有工地经验，愿意短期到场。"
    capabilityScores := [("搬运", 76), ("现场协助", 64), ("安全意识", 58)]
    availabilityHoursPerWeek := 30 },
  { index := 3, applyHour := 31, screenHour := 40, displayName := "报名者 003"
    motivation := "自称懂光伏，希望远程帮忙看方案。"
    capabilityScores := [("光伏经验线索", 61), ("电气常识", 48)], availabilityHoursPerWeek := 6 },
  { index := 4, applyHour := 46, screenHour := 58, displayName := "报名者 004"
    motivation := "可以负责采购询价和记录。"
    capabilityScores := [("采购", 70), ("表格", 68), ("沟通", 62)]
    availabilityHoursPerWeek := 12 },
  { index := 5, applyHour := 68, screenHour := 82, displayName := "报名者 005"
    motivation := "结构专业学生，愿意学习，但不能签字或盖章。"
    capabilityScores := [("结构知识线索", 55), ("学习能力", 74)], availabilityHoursPerWeek := 8
    withdrawHour := some 80 },
  { index := 6, applyHour := 72, screenHour := 90, displayName := "报名者 006"
    motivation := "被自媒体内容吸引，但目前只能偶尔线上围观。"
    capabilityScores := [("兴趣", 60)], availabilityHoursPerWeek := 2 }]

def partnerApplicants : List PartnerSpec := [
  { index := 1, applyHour := 36, screenHour := 52, organizationName := "本地综合施工队线索 001"
    contactName := "合作方联系人 001", serviceDomains := ["搬运", "低风险辅助施工", "现场协调"]
    canIssueResponsibilityDocuments := false, responsibilityDocumentDomains := []
    qualificationSummary := "可组织人工和常规施工协助，但不能对结构、电气或并网文件签字盖章。"
    quoteSummary := "按天报价，需明确工作边界。", serviceArea := "本地及周边"
    deliveryCycleDays := some 7, constraints := "只能承担低风险辅助，不承担专业工程责任文件。" },
  { index := 2, applyHour := 84, screenHour := 110, organizationName := "光伏设备渠道商线索 002"
    contactName := "合作方联系人 002", serviceDomains := ["组件报价", "逆变器报价", "设备清单建议"]
    canIssueResponsibilityDocuments := false, responsibilityDocumentDomains := []
    qualificationSummary := "可以提供设备报价和清单建议，但不承担系统设计和并网责任。"
    quoteSummary := "设备报价有效期 7 天，需另行确认运输和安装。", serviceArea := "省内"
    deliveryCycleDays := some 14, constraints := "只卖设备，不出设计文件。" }]

/-! ## The profiles of the waves -/

/-- A motivation, the capabilities and the hours for each week. -/
structure CapabilityProfile where
  motivation : String
  capabilities : List (String × Nat)
  availability : Nat

def capabilityProfiles : List CapabilityProfile := [
  ⟨"会做饭和基础后勤，愿意长期参与。", [("做饭", 78), ("后勤", 68), ("餐食", 70)], 18⟩,
  ⟨"能做现场协助和搬运，接受低风险辅助工作。", [("现场协助", 70), ("搬运", 72), ("安全意识", 61)], 24⟩,
  ⟨"擅长资料整理和表格归档。", [("文档", 74), ("表格", 72), ("资料整理", 70)], 10⟩,
  ⟨"愿意负责社群沟通和报名答疑。", [("社群沟通", 75), ("沟通", 70), ("自媒体", 64)], 12⟩,
  ⟨"可以做采购询价和记录。", [("采购", 72), ("记录", 68), ("表格", 66)], 8⟩,
  ⟨"只是被内容吸引，暂时不能稳定参与。", [("兴趣", 55)], 2⟩]

structure PartnerProfile where
  name : String
  serviceDomains : List String
  canIssueResponsibilityDocuments : Bool
  responsibilityDocumentDomains : List String
  qualificationSummary : String
  quoteSummary : String
  serviceArea : String
  deliveryCycleDays : Nat
  constraints : String
  reviewStatus : PartnerStatus

def partnerGrowthProfiles : List PartnerProfile := [
  ⟨"材料运输与仓储合作方", ["运输", "仓储", "装卸协调"], false, [],
    "可提供运输、短期仓储和装卸组织，不能承担工程责任文件。", "按车次、仓储天数和装卸人次报价。",
    "省内", 10, "仅覆盖物流协作，不覆盖设计、施工和验收责任。", .standby⟩,
  ⟨"结构安全评估机构", ["结构复核", "屋顶荷载评估", "房屋安全鉴定"], true,
    ["structural_safety_document"],
    "具备结构复核或房屋安全鉴定能力，可对具体场地出具书面结论。", "按场地踏勘、资料审查和报告深度报价。",
    "本地及周边", 21, "需要产权资料、原始图纸或现场踏勘条件。", .qualified⟩,
  ⟨"光伏系统设计顾问", ["光伏方案设计", "组件布置", "设备清单", "发电量测算"], true,
    ["pv_system_design_document"],
    "可承担光伏系统方案设计文件责任，能输出组件布置和设备清单。", "按装机规模和设计深度报价。",
    "全国远程加本地踏勘", 14, "正式施工图需要在结构和并网预筛后锁定。", .qualified⟩,
  ⟨"电气并网设计单位", ["电气接入", "一次系统图", "保护配置", "防雷接地", "并网材料"], true,
    ["electrical_grid_document"],
    "可承担电气接入和并网材料责任，熟悉低压/高压接入流程。", "按接入电压等级、资料深度和现场次数报价。",
    "省内", 28, "需要电网接入点、容量和业主资料配合。", .qualified⟩,
  ⟨"施工安全与质量承包方", ["施工组织", "安全施工方案", "高处作业", "隐蔽工程记录"], true,
    ["construction_safety_quality_document"],
    "可承担施工组织、安全质量和现场记录责任。", "按工期、人员、保险、安全措施和验收资料报价。",
    "本地及周边", 30, "社区成员只能做低风险辅助，不能替代施工责任主体。", .qualified⟩,
  ⟨"验收调试与运维交接顾问", ["调试记录", "并网验收资料", "竣工资料", "运维交接"], true,
    ["acceptance_archive_document"],
    "可协助形成调试、验收、竣工和运维交接资料闭环。", "按资料清单、现场配合和交接范围报价。",
    "省内", 14, "需要设计、施工和并网流程资料完整。", .qualified⟩,
  ⟨"设备材料报价合作方", ["组件报价", "逆变器报价", "支架报价", "辅材报价"], false, [],
    "可提供多轮设备和材料报价，但不承担设计、施工和验收责任。", "按清单报价，价格有效期 7 至 14 天。",
    "全国", 12, "报价只能作为采购参考，不能替代专业设计文件。", .standby⟩]

/-- The profile of an entry: the profiles are taken in turn. -/
def profileOf {α : Type} (profiles : List α) (h : 0 < profiles.length) (slot : Nat × Nat) : α :=
  profiles.get ⟨(slot.1 + slot.2) % profiles.length, Nat.mod_lt _ h⟩

/-! ## The specs of a window -/

/-- `f"{index:03d}"`. -/
def threeDigits (index : Nat) : String :=
  String.ofList (List.replicate (3 - index.repr.length) '0') ++ index.repr

theorem memberPeriod_pos : 0 < 12 := by decide

theorem partnerPeriod_pos : 0 < 48 := by decide

/-- The waves of applicants: `range(96, hours, 12)` with one to five of them an hour apart. -/
def memberWaves : Waves where
  first := 96
  period := 12
  stride := 1
  size k := 1 + min (k / 2) 4
  periodPos := memberPeriod_pos
  spread k := by omega

/-- The waves of partners: `range(132, hours, 48)` with one to four of them three hours apart. -/
def partnerWaves : Waves where
  first := 132
  period := 48
  stride := 3
  size k := 1 + min (k / 3) 3
  periodPos := partnerPeriod_pos
  spread k := by omega

/-- The screening hour without the window: `apply_hour + 10 + (offset % 4)`. -/
def memberDue (slot : Nat × Nat) : Nat := memberWaves.hourOf slot + 10 + slot.2 % 4

/-- The screening hour without the window: `apply_hour + screen_delay`. -/
def partnerDue (slot : Nat × Nat) : Nat :=
  partnerWaves.hourOf slot + (18 + slot.2 % 4 * 4 + min slot.1 5)

/-- `min(due, max(hours - 1, apply_hour))`. -/
def clippedTo (hours applyHour due : Nat) : Nat := min due (max (hours - 1) applyHour)

def grownApplicant (hours : Nat) (slot : Nat × Nat) (index : Nat) : ApplicantSpec :=
  let applyHour := memberWaves.hourOf slot
  let profile := profileOf capabilityProfiles (by decide) slot
  { index := index
    applyHour := applyHour
    screenHour := clippedTo hours applyHour (memberDue slot)
    displayName := "报名者 " ++ threeDigits index
    motivation := profile.motivation
    capabilityScores := profile.capabilities
    availabilityHoursPerWeek := profile.availability }

def grownPartner (hours : Nat) (slot : Nat × Nat) (index : Nat) : PartnerSpec :=
  let applyHour := partnerWaves.hourOf slot
  let profile := profileOf partnerGrowthProfiles (by decide) slot
  { index := index
    applyHour := applyHour
    screenHour := clippedTo hours applyHour (partnerDue slot)
    organizationName := profile.name ++ "线索 " ++ threeDigits index
    contactName := "合作方联系人 " ++ threeDigits index
    serviceDomains := profile.serviceDomains
    canIssueResponsibilityDocuments := profile.canIssueResponsibilityDocuments
    responsibilityDocumentDomains := profile.responsibilityDocumentDomains
    qualificationSummary := profile.qualificationSummary
    quoteSummary := profile.quoteSummary
    serviceArea := profile.serviceArea
    deliveryCycleDays := some profile.deliveryCycleDays
    constraints := profile.constraints
    reviewStatus := profile.reviewStatus }

/-- `applicant_specs_for_hours(hours)`. -/
def applicantSpecsForHours (hours : Nat) : List ApplicantSpec :=
  memberWaves.grow (grownApplicant hours) hours memberApplicants 7

/-- `partner_specs_for_hours(hours)`. -/
def partnerSpecsForHours (hours : Nat) : List PartnerSpec :=
  partnerWaves.grow (grownPartner hours) hours partnerApplicants 3

/-! ## The screening decision -/

/-- A capability that the start of the project needs, with the skills that cover it. -/
structure CapabilityRequirement where
  code : String
  skillAliases : List String

def startupCapabilityRequirements : List CapabilityRequirement := [
  ⟨"project_coordination", ["发起", "组织", "沟通"]⟩,
  ⟨"documentation_archive", ["文档", "表格", "资料整理"]⟩,
  ⟨"community_operations", ["社群沟通", "沟通", "自媒体"]⟩,
  ⟨"onsite_logistics", ["搬运", "现场协助", "安全意识"]⟩,
  ⟨"procurement_records", ["采购", "表格", "记录"]⟩,
  ⟨"meal_support", ["做饭", "后勤", "餐食"]⟩]

/-- `skills_match_requirement(skills, requirement)`. -/
def skillsMatchRequirement (skills : List (String × Nat)) (requirement : CapabilityRequirement) :
    Bool :=
  requirement.skillAliases.any fun skill => 50 ≤ (skills.lookup skill).getD 0

/-- `screening_decision(spec=spec, screened_hour=screened_hour)`. -/
def screeningDecision (spec : ApplicantSpec) (screenedHour : Nat) : ApplicationStatus :=
  if spec.withdrawHour.any (· ≤ screenedHour) then .withdrew
  else
    let matchesStartupCapability :=
      startupCapabilityRequirements.any (skillsMatchRequirement spec.capabilityScores)
    if 8 ≤ spec.availabilityHoursPerWeek && matchesStartupCapability then .candidate
    else if 4 ≤ spec.availabilityHoursPerWeek || matchesStartupCapability then .standby
    else .rejected

end LiveOs.ZeroStart
