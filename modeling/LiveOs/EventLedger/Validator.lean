import LiveOs.Runtime

/-!
# The public-ledger validator

`validate_public_ledger_payload` of `core/event_ledger.py`: required fields first, then the walk
`_validate_node` that refuses denylisted keys.
-/

namespace LiveOs.EventLedger

open Lib

/-- `PUBLIC_LEDGER_SCHEMA`. -/
def publicLedgerSchema : String := "liveos.system-event.public.v1"

/-- `PUBLIC_LEDGER_DENYLIST_KEYS`. -/
def publicLedgerDenylistKeys : List String := [
  -- PII / credentials
  "contact", "contact_name", "contact_info", "email", "phone", "wechat", "username",
  "account_username", "account_user_id", "password", "password1", "password2",
  -- internal member identity
  "user_id", "member_id", "member_no", "target_member_id", "target_member_no",
  "voter_member_id", "voter_member_no", "actor_member_id", "assignee_member_id",
  "assignee_member_no", "claimant_member_id", "claimant_member_no", "respondent_member_id",
  "respondent_member_no", "proposer_member_id", "proposer_member_no",
  -- internal DB primary keys
  "proposal_id", "role_id", "organization_id", "role_assignment_id",
  "proposer_role_assignment_id", "voter_role_assignment_id", "granted_by_id", "revoked_by_id",
  "ledger_entry_id", "system_event_id", "related_event_id", "related_ledger_entry_id",
  "related_task_id",
  -- raw personal / operational details
  "applicant_name", "applicant_name_raw", "requested_member_no", "linked_member_id",
  "display_name", "display_name_raw", "assigned_member_display_name",
  -- operational actors / notes
  "actor", "operator", "handler", "reviewer", "created_by", "reviewed_by", "decided_by",
  -- opaque blobs
  "metadata", "payload", "result", "execution_result", "facts", "evidence_refs",
  -- raw internal reasons
  "reason_raw", "resolution_raw"]

/-- The keys a `private_commitments` item may have. -/
def commitmentKeys : List String := ["name", "present", "reason"]

/-- `f"{path}.{key}" if path else key`. -/
def childPath (path : String) (key : PyKey) : String :=
  if path = "" then key.pyStr else path ++ "." ++ key.pyStr

/-- `f"{path}[{idx}]"`. -/
def itemPath (path : String) (idx : Nat) : String := path ++ "[" ++ toString idx ++ "]"

/-- `isinstance(key, str) and key in names`: a key of another type equals no name. -/
def keyIn (key : PyKey) (names : List String) : Bool :=
  match key with
  | .str s => names.contains s
  | _ => false

/-- `_validate_node(node, path, inside_commitments=...)`. -/
def validateNode (insideCommitments : Bool) (path : String) : PyVal → Except Error Unit
  | .dict es => entries insideCommitments path es
  | .list xs => items false path 0 xs
  | _ => .ok ()
where
  /-- The loop over `node.items()`. -/
  entries (insideCommitments : Bool) (path : String) : List (PyKey × PyVal) → Except Error Unit
    | [] => .ok ()
    | (key, value) :: es =>
      let child := childPath path key
      if insideCommitments then do
        rejectIf (keyIn key commitmentKeys = false)
          (.value ("SystemEvent." ++ child ++ ": unsupported key in private_commitments item"))
        rejectIf (value.isDictOrList = true)
          (.value ("SystemEvent." ++ child ++
            ": nested structure not allowed in private_commitments"))
        entries insideCommitments path es
      else if key = .str "private_commitments" then do
        (match value with
          | .list xs => items true child 0 xs
          | _ => .ok ())
        entries insideCommitments path es
      else do
        rejectIf (keyIn key publicLedgerDenylistKeys = true)
          (.value ("SystemEvent." ++ child ++ " is not public-safe (denylist key: " ++
            key.pyStr ++ ")"))
        (if value.isDictOrList then validateNode false child value else .ok ())
        entries insideCommitments path es
  /-- The loop over `enumerate(node)`, with the flag handed to every item. -/
  items (insideCommitments : Bool) (path : String) (idx : Nat) : List PyVal → Except Error Unit
    | [] => .ok ()
    | x :: xs => do
      validateNode insideCommitments (itemPath path idx) x
      items insideCommitments path (idx + 1) xs

/-- `not str(d.get(req, "")).strip()`. -/
def blankField (rt : Runtime) (es : List (PyKey × PyVal)) (req : String) : Bool :=
  strip (rt.str ((PyVal.get? es req).getD (.str ""))) = ""

/-- `for req in (...): if blank: raise ValueError(...)`. -/
def requireFields (rt : Runtime) (es : List (PyKey × PyVal)) (path : String) :
    List String → Except Error Unit
  | [] => .ok ()
  | req :: reqs => do
    rejectIf (blankField rt es req = true)
      (.value ("SystemEvent." ++ path ++ "." ++ req ++ " is required and must be non-empty"))
    requireFields rt es path reqs

/-- `validate_public_ledger_payload(payload)`. -/
def validatePublicLedgerPayload (rt : Runtime) (payload : PyVal) : Except Error Unit :=
  match payload with
  | .dict es => do
    let schema := (PyVal.get? es "schema").getD (.str "")
    rejectIf (schema.isStr publicLedgerSchema = false)
      (.value ("SystemEvent.payload_json schema must be '" ++ publicLedgerSchema ++ "'"))
    (match PyVal.get? es "subject" with
      | some (.dict subject) =>
        requireFields rt subject "payload_json.subject" ["type", "ref", "label"]
      | _ => .error (.value "SystemEvent.payload_json.subject must be a dict"))
    requireFields rt es "payload_json" ["action", "stage", "summary"]
    (match PyVal.get? es "public_facts" with
      | some (.dict _) => .ok ()
      | _ => .error (.value "SystemEvent.payload_json.public_facts must be a dict"))
    (match PyVal.get? es "private_commitments" with
      | some (.list _) => .ok ()
      | _ => .error (.value "SystemEvent.payload_json.private_commitments must be a list"))
    validateNode false "payload_json" payload
  | _ => .error (.value "SystemEvent.payload_json must be a dict")

end LiveOs.EventLedger
