import LiveOs.Lib.PyValue
import LiveOs.Lib.PyJson
import LiveOs.Lib.JsonText
import LiveOs.Lib.JsonCanonical
import LiveOs.Lib.Runs
import LiveOs.Lib.Outcomes
import LiveOs.Lib.HashChain
import LiveOs.Lib.RevisionLog
import LiveOs.Runtime
import LiveOs.EventLedger.Validator
import LiveOs.EventLedger.Chain
import LiveOs.EventLedger.Verify.PublicSafety
import LiveOs.EventLedger.Verify.Payloads
import LiveOs.EventLedger.Verify.Binding
import LiveOs.EventLedger.Verify.Append
import LiveOs.EventLedger.Journal
import LiveOs.EventLedger.Verify.Journal
import LiveOs.Lib.Table
import LiveOs.Lib.Window
import LiveOs.Lib.Posting
import LiveOs.Credit.Model
import LiveOs.Credit.Posting
import LiveOs.Credit.Services
import LiveOs.Credit.Redemption
import LiveOs.Credit.Verify.Posting
import LiveOs.Credit.Verify.Services
import LiveOs.Credit.Verify.Redemption
import LiveOs.Credit.Verify.Effects
import LiveOs.Credit.Verify.Runs
import LiveOs.Credit.Verify.Balances
import LiveOs.Credit.Verify.BudgetReversals
import LiveOs.Credit.Verify.Orders
import LiveOs.Credit.Verify.Reversals
import LiveOs.Credit.Verify.Keys
import LiveOs.Credit.Verify.Retries
import LiveOs.Roles.Model
import LiveOs.Roles.Queries
import LiveOs.Roles.Verify.Permissions
import LiveOs.Electorate.Selectors
import LiveOs.Electorate.Verify.Selectors
import LiveOs.Roles.Assignments
import LiveOs.Roles.Verify.Assignments
import LiveOs.Roles.Verify.Grants
import LiveOs.Roles.Qualifications
import LiveOs.Roles.Catalog
import LiveOs.Roles.Verify.Catalog
import LiveOs.Roles.Credentials
import LiveOs.Tasks.Payloads
import LiveOs.Proposals.Model
import LiveOs.Proposals.Admission
import LiveOs.Proposals.Payloads
import LiveOs.Proposals.Voting
import LiveOs.Proposals.Execution
import LiveOs.Proposals.Verify.Moves
import LiveOs.Proposals.Verify.Services
import LiveOs.Proposals.Verify.Lifecycle
import LiveOs.Proposals.Verify.Tally
import LiveOs.Proposals.Verify.Admission
import LiveOs.Proposals.Verify.Closing
import LiveOs.Proposals.Verify.Relabelling
import LiveOs.Finance.Services
import LiveOs.Finance.Verify.Services
import LiveOs.Finance.Verify.Interleavings
import LiveOs.Exams.Attempts
import LiveOs.Lib.Transactions
import LiveOs.Lib.RelationTuples
import LiveOs.Authorization.Model
import LiveOs.Authorization.Rebuild
import LiveOs.Authorization.Verify.Rebuild
import LiveOs.Authorization.Projection
import LiveOs.Authorization.Verify.Projection
import LiveOs.Authorization.Verify.ObjectNames
import LiveOs.Credit.Halves
import LiveOs.Tasks.Review
import LiveOs.Tasks.Verify.Budgets
import LiveOs.Tasks.Lifecycle
import LiveOs.Tasks.Verify.Services
import LiveOs.Tasks.Verify.Rewards
import LiveOs.Tasks.Verify.Funding
import LiveOs.Procurement.Model
import LiveOs.Proposals.Slots
import LiveOs.Procurement.Services
import LiveOs.Procurement.Verify.Rejections
import LiveOs.Lib.RunningBalance
import LiveOs.Procurement.Verify.Stock
import LiveOs.Risk.Alerts
import LiveOs.Risk.Verify.Tracking
import LiveOs.Observer.Model
import LiveOs.Observer.MemberProfiles
import LiveOs.Observer.Projections
import LiveOs.Observer.Verify.ChainCheck
import LiveOs.Observer.Verify.Readings
import LiveOs.Observer.Verify.Pages
import LiveOs.Observer.Verify.Twins
import LiveOs.Observer.Verify.Projections
import LiveOs.PublicLedger.Builders
import LiveOs.PublicLedger.Verify.Privacy
import LiveOs.Roles.Verify.Qualifications
import LiveOs.Roles.Verify.Revocation
import LiveOs.Exams.Verify.QuestionBank
import LiveOs.Exams.Verify.Terms
import LiveOs.Roles.Baseline
import LiveOs.Roles.Verify.Baseline
import LiveOs.Lib.Atomic
import LiveOs.Files.Storage
import LiveOs.Files.Processing
import LiveOs.Files.Attachments
import LiveOs.Files.Avatars
import LiveOs.Finance.Evidence
import LiveOs.Files.Verify.Attachments
import LiveOs.Finance.Verify.Evidence
import LiveOs.Files.Verify.Avatars
import LiveOs.Files.Verify.Maintenance
import LiveOs.Lib.Rollback
import LiveOs.Lib.PyNumbers
import LiveOs.Planning.Values
import LiveOs.Planning.Model
import LiveOs.Planning.Application
import LiveOs.Planning.Operations
import LiveOs.Planning.Verify.Copy
import LiveOs.Planning.Verify.Operations
import LiveOs.Planning.Verify.Application
import LiveOs.Planning.Verify.Baseline
import LiveOs.Planning.Verify.Isomorphism
import LiveOs.Lib.Acyclic
import LiveOs.Planning.Verify.Shape
import LiveOs.Planning.Verify.Order
import LiveOs.Lib.Raises
import LiveOs.Planning.Verify.Preflight
import LiveOs.Lib.DecimalTexts
import LiveOs.Simulation.Model
import LiveOs.Simulation.Feasibility
import LiveOs.Simulation.Feedback
import LiveOs.Simulation.Engine
import LiveOs.Simulation.Verify.Numbers
import LiveOs.Simulation.Verify.Steps
import LiveOs.Simulation.Verify.Progress
import LiveOs.Simulation.Verify.Checks
import LiveOs.Simulation.Verify.Accounts
import LiveOs.Simulation.Verify.Runs
import LiveOs.Simulation.Verify.Generated
import LiveOs.Simulation.Verify.Ordering
import LiveOs.Simulation.Verify.Outcomes
import LiveOs.Lib.Ranges
import LiveOs.Archive.Model
import LiveOs.Archive.Services
import LiveOs.Archive.Verification
import LiveOs.Archive.Verify.Dispositions
import LiveOs.Archive.Verify.Tampering
import LiveOs.Archive.Verify.Index
import LiveOs.Archive.Verify.RoundTrip
import LiveOs.Lib.Waves
import LiveOs.ZeroStart.Strategy
import LiveOs.ZeroStart.Recruitment
import LiveOs.ZeroStart.Verify.Log
import LiveOs.ZeroStart.Verify.Timetable
import LiveOs.ZeroStart.Verify.Composition
import LiveOs.Feedback.Services
import LiveOs.Feedback.Verify.LifeCycle
import LiveOs.Tasks.Reversals
import LiveOs.Tasks.Verify.Reversals
import LiveOs.Lib.Joins
import LiveOs.Simulation.StartupGate
import LiveOs.Simulation.Verify.StartupGate
import LiveOs.Roles.Verify.Covenanters
import LiveOs.Lib.JsNumber
import LiveOs.Lib.Sha256
import LiveOs.Observer.Sha256
import LiveOs.Observer.Verify.Sha256
import LiveOs.Lib.Rounding
import LiveOs.Finance.Amounts
import LiveOs.Finance.Verify.Amounts
import LiveOs.Workspace.WorkItems
import LiveOs.Workspace.Verify.Actionable
import LiveOs.Workspace.Verify.Matters
import LiveOs.Simulation.StoredChecks
import LiveOs.Simulation.Verify.StoredChecks
import LiveOs.Proposals.Applications
import LiveOs.Proposals.Verify.CaseFiles
import LiveOs.Proposals.Verify.Submissions
import LiveOs.Proposals.Verify.AdmissionLinks
import LiveOs.Proposals.Verify.Reapplying
import LiveOs.Proposals.Verify.ApplicationLives
import LiveOs.Proposals.Verify.Policies
import LiveOs.ZeroStart.Feedback
import LiveOs.ZeroStart.Verify.Coverage
import LiveOs.ZeroStart.Verify.Feedback
import LiveOs.Worlds.Lifecycle
import LiveOs.Worlds.Reset
import LiveOs.Worlds.Verify.Isolation
import LiveOs.Worlds.Routing
import LiveOs.Worlds.Verify.Routing
import LiveOs.Authorization.Verify.Boundary
