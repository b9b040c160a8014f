import LiveOs.Lib.Joins
import LiveOs.Planning.Values
import LiveOs.Roles.Model
import Mathlib.Data.List.Infix
import Mathlib.Data.List.Sort

/-!
# The startup gate

The part of `simulation/projections.py` that decides whether a zero-start run may begin: who
contributes to the run, and which requirements they and the partners cover. The members are read
through a join with their applications.
-/

namespace LiveOs.Simulation

open Lib Planning Roles

/-! ## Rows and requirements -/

/-- What the gate reads of a `MemberApplication`. -/
structure CandidateApplication where
  applicationId : String
  linkedMember : Option Nat
  metadata : Json

/-- What the gate reads of a `PartnerApplication`. -/
structure PartnerApplication where
  applicationId : String
  organizationName : String
  status : String
  canIssueResponsibilityDocuments : Bool
  responsibilityDocumentDomains : Json
  metadata : Json

structure GateDb where
  members : MemberTable
  applications : List CandidateApplication
  partners : List PartnerApplication

structure CapabilityRequirement where
  code : String
  name : String
  minCount : Int
  skillAliases : List String

structure DocumentRequirement where
  code : String
  name : String
  documentExamples : List String
  acceptableSigners : List String

/-! ## Contributors and partners -/

/-- `metadata__<key>=<text>`. -/
def metadataIs (metadata : Json) (key text : String) : Bool :=
  match metadata with
  | .obj es => match Json.get? es key with
    | some (.str t) => t = text
    | _ => false
  | _ => false

/-- The candidate applications of the run that are linked to the member. -/
def candidateApplications (db : GateDb) (runId : String) (m : Member) :
    List CandidateApplication :=
  db.applications.filter fun a => a.linkedMember = some m.pk &&
    metadataIs a.metadata "simulation_run_id" runId &&
    metadataIs a.metadata "screening_status" "candidate"

/-- `Member.objects.filter(member_no=founder_member_no).first() if founder_member_no else None`. -/
def founderOf (db : GateDb) (founderMemberNo : String) : Option Member :=
  if founderMemberNo = "" then none
  else db.members.rows.find? fun m => m.memberNo = founderMemberNo

/-- `contributors_for_run(run, founder_member_no=...)`. -/
def contributorsForRun (db : GateDb) (runId founderMemberNo : String) : List Member :=
  let applicantQs := (joinRows (candidateApplications db runId) db.members.rows).insertionSort
    fun a b => a.memberNo ≤ b.memberNo
  (founderOf db founderMemberNo).toList ++ applicantQs

/-- `qualified_document_signer_partners_for_run(run)`. -/
def qualifiedDocumentSignerPartnersForRun (db : GateDb) (runId : String) :
    List PartnerApplication :=
  (db.partners.filter fun a => metadataIs a.metadata "simulation_run_id" runId &&
    a.status = "qualified" && a.canIssueResponsibilityDocuments).insertionSort
      fun a b => a.applicationId ≤ b.applicationId

/-! ## Skills and documents -/

variable (py : Python)

/-- `profile.get(key) or {}`, with the empty object for every false value. -/
def profileOr (m : Member) (key : String) : Json :=
  if truthy (getKey m.profile key) then getKey m.profile key else .obj []

/-- `int(v or 0)`. -/
def intOrZero (v : Json) : Except PyError Int :=
  if truthy v then intOf py v else .ok 0

/-- `member_skills(member)`. -/
def memberSkills (m : Member) : Except PyError (List (String × Int)) :=
  match profileOr m "skills" with
  | .obj es => es.mapM fun e => (intOrZero py e.2).map fun score => (e.1, score)
  | _ => .error .attribute

/-- `skills_match_requirement(skills, requirement)`. -/
def skillsMatchRequirement (skills : List (String × Int)) (aliases : List String) : Bool :=
  aliases.any fun a => 50 ≤ (skills.lookup a).getD 0

/-- `code in (v or [])`. -/
def inDomains (code : String) (v : Json) : Except PyError Bool :=
  if truthy v then
    match v with
    | .arr xs => .ok (xs.any fun x => match x with
      | .str t => t = code
      | _ => false)
    | .obj es => .ok (es.any fun e => e.1 = code)
    | .str t => .ok (decide (code.toList <:+: t.toList))
    | .scalar _ => .error .type
  else .ok false

/-! ## Coverage -/

/-- `member_snapshot(member)` and `partner_snapshot(application)`. -/
inductive Snapshot where
  | member (memberNo displayName : String) (skills : Json)
  | partner (applicationId organizationName : String) (domains : Json)

def memberSnapshot (m : Member) : Snapshot :=
  .member m.memberNo (if m.displayName = "" then m.memberNo else m.displayName)
    (profileOr m "skills")

def partnerSnapshot (a : PartnerApplication) : Snapshot :=
  .partner a.applicationId a.organizationName a.responsibilityDocumentDomains

/-- A coverage row; the document texts are those of a document requirement. -/
structure CoverageRow where
  code : String
  name : String
  requiredCount : Int
  coveredCount : Nat
  missingCount : Int
  needWrittenDocument : Bool
  documentTexts : Option (List String × List String)
  coveredBy : List Snapshot

/-- A coverage row for what covers a requirement. -/
def coverageRow (code name : String) (required : Int) (needWrittenDocument : Bool)
    (documentTexts : Option (List String × List String)) (covered : List Snapshot) :
    CoverageRow where
  code := code
  name := name
  requiredCount := required
  coveredCount := covered.length
  missingCount := max (required - covered.length) 0
  needWrittenDocument := needWrittenDocument
  documentTexts := documentTexts
  coveredBy := covered

/-- `capability_coverage_for_members(members, capability_requirements)`. -/
def capabilityCoverageForMembers (members : List Member)
    (requirements : List CapabilityRequirement) : Except PyError (List CoverageRow) :=
  requirements.mapM fun r => do
    let covered ← selectRows (fun m => do
      let skills ← memberSkills py m
      return skillsMatchRequirement skills r.skillAliases) members
    return coverageRow r.code r.name r.minCount false none (covered.map memberSnapshot)

/-- `document_signer_coverage_for_partners(members, partner_applications, requirements)`. -/
def documentSignerCoverageForPartners (members : List Member) (partners : List PartnerApplication)
    (requirements : List DocumentRequirement) : Except PyError (List CoverageRow) :=
  requirements.mapM fun r => do
    let covered ← selectRows
      (fun m => inDomains r.code (getKey m.profile "document_authority_domains")) members
    let signers ← selectRows (fun a => inDomains r.code a.responsibilityDocumentDomains) partners
    return coverageRow r.code r.name 1 true (some (r.documentExamples, r.acceptableSigners))
      (covered.map memberSnapshot ++ signers.map partnerSnapshot)

structure GateSummary where
  projectPhase : String
  startupGateSatisfied : Bool
  capabilityCoverage : List CoverageRow
  documentSignerCoverage : List CoverageRow
  missingCapabilities : List CoverageRow
  missingDocumentSigners : List CoverageRow

/-- `startup_gate_summary_for_run(...)`. -/
def startupGateSummaryForRun (db : GateDb) (runId founderMemberNo : String)
    (capabilities : List CapabilityRequirement) (documents : List DocumentRequirement) :
    Except PyError GateSummary := do
  let members := contributorsForRun db runId founderMemberNo
  let partners := qualifiedDocumentSignerPartnersForRun db runId
  let capabilityCoverage ← capabilityCoverageForMembers py members capabilities
  let documentCoverage ← documentSignerCoverageForPartners members partners documents
  let missingCapabilities := capabilityCoverage.filter fun r => 0 < r.missingCount
  let missingDocuments := documentCoverage.filter fun r => 0 < r.missingCount
  let satisfied := missingCapabilities.isEmpty && missingDocuments.isEmpty
  return {
    projectPhase := if satisfied then "ready_to_start" else "preparation"
    startupGateSatisfied := satisfied
    capabilityCoverage := capabilityCoverage
    documentSignerCoverage := documentCoverage
    missingCapabilities := missingCapabilities
    missingDocumentSigners := missingDocuments }

end LiveOs.Simulation
