import LiveOs.Proposals.Voting

/-!
# Executing an approved proposal

`execute_electorate_proposal` runs the executor of the adapter in a nested transaction. A
`DomainError` of the executor undoes what the executor wrote and is recorded as a failed attempt;
any other exception ends the call.
-/

namespace LiveOs.Proposals

open Lib EventLedger Roles

variable {rt : Runtime}

/-- The execution record of a proposal. -/
def executionOf (s : ProposalState rt) (proposalId : String) : Option ProposalExecutionRecord :=
  s.executions.rows.find? fun e => e.proposal = proposalId

/-- `existing.save(update_fields=[...])`. -/
def saveExecution (s : ProposalState rt) (e : ProposalExecutionRecord) : ProposalState rt :=
  { s with executions := s.executions.modify e.executionId (fun r => { r with
      executedBy := e.executedBy
      status := e.status
      publicErrorCode := e.publicErrorCode
      resultData := e.resultData
      completedAt := e.completedAt }) (fun _ => rfl) fun _ => rfl }

/-- The record of the attempt that starts: a new one, or the one of an earlier attempt. -/
def startExecution (env : ProposalEnv) (s : ProposalState rt) (p : ApprovalProposal) (actor : Nat) :
    Except Error (ProposalState rt × ProposalExecutionRecord) :=
  match executionOf s p.proposalId with
  | none => do
    let e : ProposalExecutionRecord := {
      executionId := "execution-" ++ env.uuid
      proposal := p.proposalId
      idempotencyKey := "proposal:" ++ p.proposalId
      executedBy := actor
      status := .running
      startedAt := env.now }
    let executions ← s.executions.insert e Error.integrity
    return ({ s with executions := executions }, e)
  | some existing =>
    let e := { existing with
      executedBy := actor, status := .running, publicErrorCode := "", completedAt := none }
    .ok (saveExecution s e, e)

/-- What the service writes after a `DomainError` of the executor. -/
def recordFailure (env : ProposalEnv) (s : ProposalState rt) (p : ApprovalProposal)
    (e : ProposalExecutionRecord) (message : String) (actor : Member) :
    Except Error (ProposalState rt × ProposalExecutionRecord) := do
  let e := { e with
    status := .failed
    publicErrorCode := "domain_precondition_failed"
    resultData := [("message", .str message)]
    completedAt := some env.now }
  let p := { p with status := .executionFailed }
  let s := saveProposal (saveExecution s e) p
  let s ← appendProposalEvent s env.now p "proposal_execution_failed" "execution_failed" actor
  return (s, e)

/-- What the service writes after the executor has returned. -/
def recordSuccess (env : ProposalEnv) (s : ProposalState rt) (p : ApprovalProposal)
    (e : ProposalExecutionRecord) (result : List (String × Json)) (actor : Member) :
    Except Error (ProposalState rt × ProposalExecutionRecord) := do
  let e := { e with status := .succeeded, resultData := result, completedAt := some env.now }
  let p := { p with status := .executed, executedAt := some env.now }
  let s := saveProposal (saveExecution s e) p
  let s ← appendProposalEvent s env.now p "approval_proposal_executed" "executed" actor
  return (s, e)

/-- An attempt to execute the proposal. -/
def attemptExecution (env : ProposalEnv) (s : ProposalState rt) (p : ApprovalProposal)
    (adapter : ProposalTypeAdapter rt) (actor : Member) :
    Except Error (ProposalState rt × ProposalExecutionRecord) := do
  rejectIf (p.status ≠ .approved ∧ p.status ≠ .executionFailed)
    (.domain "只能执行已通过或等待重试的提案。")
  let (s, e) ← startExecution env s p actor.pk
  match adapter.executor env s p actor.pk with
  | .error (.domain message) => recordFailure env s p e message actor
  | .error err => .error err
  | .ok (s, result) => recordSuccess env s p e result actor

/-- `execute_electorate_proposal(...)`. -/
def executeElectorateProposal (env : ProposalEnv) (s : ProposalState rt) (proposalId : String)
    (actor : Member) : Except Error (ProposalState rt × ProposalExecutionRecord) := do
  let locked ← lockProposal s proposalId
  rejectIf (locked.strategyType ≠ .electorate) (.domain "该提案不属于统一选民表决生命周期。")
  let adapter ← (proposalAdapterFor locked.proposalType : Except Error (ProposalTypeAdapter rt))
  requirePermission s env.now actor adapter.executionPermission "你无权执行该提案。"
  rejectIf (!((s.resolutions.get? locked.proposalId).any fun r => r.outcome = .approved))
    (.domain "该提案缺少已通过的确定性判定证据，不能执行。")
  match (executionOf s locked.proposalId).filter fun e => e.status = .succeeded with
  | some existing => return (s, existing)
  | none => attemptExecution env s locked adapter actor

/-! ## Runs -/

/-- A call of a proposal service, or a change of something it reads. -/
inductive ProposalCall where
  | create (args : CreateElectorateArgs)
  | attach (proposalId : String) (rule : ElectorateRuleVersion)
  | activate (rule : ElectorateRuleVersion)
  | start (proposalId : String)
  | cast (proposalId : String) (voter : Member) (choice reason : String)
  | finalize (proposalId : String) (actor : Member)
  | execute (proposalId : String) (actor : Member)
  | publish (rule : ElectorateRuleVersion)
  | submitApplication (application : MemberApplication)

/-- Members are referred to from elsewhere, so their rows are never deleted. -/
def keepsMembers (db db' : Directory) : Bool :=
  db.members.rows.all fun m => db'.members.rows.any fun m' => m'.pk = m.pk

/-- A step of a run: a call, or any change of members, roles, qualifications, domains, credentials
and the ledger. -/
inductive ProposalStep (rt : Runtime) where
  | call (env : ProposalEnv) (c : ProposalCall)
  | change (roles : RoleState rt)

/-- The state after a call. -/
def proposalCall (env : ProposalEnv) (s : ProposalState rt) : ProposalCall →
    Except Error (ProposalState rt)
  | .create args => do
    let (s, _) ← createElectorateProposal env s args
    return s
  | .attach proposalId rule => do
    let (s, _) ← attachRuleVersion s proposalId rule
    return s
  | .activate rule => activateWaitingProposalsForRule env s rule
  | .start proposalId => do
    let (s, _) ← startElectorateVoting env s proposalId
    return s
  | .cast proposalId voter choice reason => do
    let (s, _) ← castElectorateBallot env s proposalId voter choice reason
    return s
  | .finalize proposalId actor => do
    let (s, _) ← finalizeElectorateProposal env s proposalId actor
    return s
  | .execute proposalId actor => do
    let (s, _) ← executeElectorateProposal env s proposalId actor
    return s
  | .publish rule => do
    let rules ← s.rules.insert rule Error.integrity
    return { s with rules := rules }
  | .submitApplication application => do
    rejectIf (application.linkedMember.any fun m => (s.roles.db.members.get? m).isNone) .integrity
    let applications ← s.applications.insert application Error.integrity
    return { s with applications := applications }

def proposalStep (s : ProposalState rt) : ProposalStep rt → Except Error (ProposalState rt)
  | .call env c => proposalCall env s c
  | .change roles =>
    if keepsMembers s.roles.db roles.db then .ok { s with roles := roles } else .error .integrity

end LiveOs.Proposals
