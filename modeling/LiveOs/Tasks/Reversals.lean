import LiveOs.Tasks.Review

/-!
# The point ledger

`core/ledger_services.py` with all fields of a row: appending an entry, reversing one, and the
balance of a member. `reverse_ledger_entry` names `uuid4`, which its module does not import, so a
call that needs a drawn id raises `NameError`.
-/

namespace LiveOs.Tasks

open Lib EventLedger Roles
open Procurement (actorMemberFromRef)

/-- A row of `LedgerEntry`; `systemEvent` is the place of its event among the accepted ones. -/
structure PointEntry where
  entry : LedgerEntry
  relatedTask : Option String
  relatedEventId : String
  createdAt : Nat
  createdBy : List (String × Json)
  reviewer : List (String × Json)
  reversesEntry : Option String
  systemEvent : Option Nat
  metadata : List (String × Json)

def PointEntry.id (r : PointEntry) : String := r.entry.ledgerEntryId

abbrev PointTable := Table PointEntry String Unit PointEntry.id fun _ => none

structure PointState (rt : Runtime) where
  directory : Directory
  entries : PointTable
  events : Journal rt

variable {rt : Runtime}

/-- `ledger_entry_event_type(entry)`. -/
def pointEventType (r : PointEntry) : String :=
  if r.reversesEntry.getD "" ≠ "" then "credit_reversed" else ledgerEntryEventType r.entry

/-- The arguments of `create_ledger_entry`; `none` for `created_at` means now. -/
structure EntryArgs where
  entry : LedgerEntry
  createdBy : List (String × Json)
  relatedTask : Option String
  relatedEventId : String
  reviewer : List (String × Json)
  reversesEntry : Option String
  metadata : List (String × Json)
  createdAt : Option Nat

/-- The row that `create_ledger_entry` leaves: its event is saved in the same transaction. -/
def entryRow (s : PointState rt) (now : Nat) (args : EntryArgs) : PointEntry where
  entry := args.entry
  relatedTask := args.relatedTask
  relatedEventId := args.relatedEventId
  createdAt := args.createdAt.getD now
  createdBy := args.createdBy
  reviewer := args.reviewer
  reversesEntry := args.reversesEntry
  systemEvent := some s.events.calls.length
  metadata := args.metadata

/-- `create_ledger_entry(...)`. -/
def appendLedgerEntry (now : Nat) (s : PointState rt) (args : EntryArgs) :
    Except Error (PointState rt) := do
  let row := entryRow s now args
  let entries ← s.entries.insert row .integrity
  let payload ← ledgerEntryPayload rt s.directory row.entry
  let events ← s.events.append {
    eventType := pointEventType row
    aggregateType := "LedgerEntry"
    aggregateId := row.id
    actorMember := (actorMemberFromRef s.directory args.createdBy).orElse fun _ =>
      actorMemberFromRef s.directory args.reviewer
    payloadJson := payload
    occurredAt := some row.createdAt
    now := now }
  return { s with entries := entries, events := events }

/-- A call of `reverse_ledger_entry`; `entry` is the caller's copy. -/
structure ReverseCall where
  entry : PointEntry
  reason : String
  createdBy : List (String × Json)
  ledgerEntryId : Option String
  createdAt : Option Nat
  now : Nat

/-- What `reverse_ledger_entry` appends for the row it has locked. -/
def reversalArgs (c : ReverseCall) (row : PointEntry) (reversalId : String) : EntryArgs where
  entry := {
    ledgerEntryId := reversalId
    member := row.entry.member
    amount := -row.entry.amount
    entryType := .reversal
    reason := c.reason
    ruleVersion := row.entry.ruleVersion
    status := .posted }
  createdBy := c.createdBy
  relatedTask := row.relatedTask
  relatedEventId := row.relatedEventId
  reviewer := c.createdBy
  reversesEntry := some row.id
  metadata := [("reverses_entry_id", .str row.id)]
  createdAt := c.createdAt

/-- `ledger_entry_id or f"ledger-reversal-{uuid4().hex[:12]}"` where `uuid4` is not defined. -/
def reversalId (c : ReverseCall) : Except Error String :=
  if c.ledgerEntryId.getD "" ≠ "" then .ok (c.ledgerEntryId.getD "")
  else .error (.runtime "name 'uuid4' is not defined")

/-- `reverse_ledger_entry(...)`. -/
def reverseLedgerEntry (s : PointState rt) (c : ReverseCall) : Except Error (PointState rt) := do
  let row ← related s.entries c.entry.id "LedgerEntry"
  let id ← reversalId c
  appendLedgerEntry c.now s (reversalArgs c row id)

/-- A posted entry of the member. -/
def PointEntry.countsFor (member : Nat) (r : PointEntry) : Bool :=
  r.entry.member = member && r.entry.status = .posted

/-- `ledger_balance_for_member(member)`. -/
def ledgerBalanceForMember (s : PointState rt) (member : Nat) : Int :=
  sumWhere (fun r => r.entry.amount) (PointEntry.countsFor member) s.entries.rows

end LiveOs.Tasks
