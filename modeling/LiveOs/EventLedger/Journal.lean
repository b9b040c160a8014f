import LiveOs.EventLedger.Chain

/-!
# The event ledger as the services see it

A service calls `append_event` and never reads the table. Its state keeps the list of calls that
passed every check on the request; what remains of `append_event` is numbering and hashing, which
can refuse a call only when two digests collide (`Verify/Journal.lean`).
-/

namespace LiveOs.EventLedger

open Lib

/-- The checks of `append_event` on its arguments, in the order they are made. -/
def checkRequest (rt : Runtime) (req : AppendRequest) : Except Error Unit := do
  let payload := orEmptyDict req.payloadJson
  let schema ← dictGet payload "schema" (.str "")
  rejectIf (schema.isStr publicLedgerSchema = false)
    (.value ("SystemEvent.payload_json must use schema '" ++ publicLedgerSchema ++ "', got '" ++
      rt.str schema ++ "'. Use core.event_payloads helpers to build compliant payloads."))
  validatePublicLedgerPayload rt payload
  let _ ← subjectRef rt payload req.aggregateId
  rejectIf (payload.canonical = false) .type
  rejectIf (payload.dumpable = false) .type

/-- The calls of `append_event` that passed their checks, in order. -/
structure Journal (rt : Runtime) where
  calls : List AppendRequest
  admitted : ∀ req ∈ calls, checkRequest rt req = .ok ()

namespace Journal

variable {rt : Runtime}

def empty : Journal rt := ⟨[], fun _ h => absurd h List.not_mem_nil⟩

/-- `append_event(...)`. -/
def append (j : Journal rt) (req : AppendRequest) : Except Error (Journal rt) :=
  match h : checkRequest rt req with
  | .ok () => .ok ⟨j.calls ++ [req], by
      intro r hr
      rcases List.mem_append.1 hr with hr | hr
      · exact j.admitted r hr
      · rw [List.mem_singleton.1 hr, h]⟩
  | .error e => .error e

theorem append_eq_ok {j j' : Journal rt} {req : AppendRequest} (h : j.append req = .ok j') :
    checkRequest rt req = .ok () ∧ j'.calls = j.calls ++ [req] := by
  unfold append at h
  split at h
  · rename_i hok
    obtain rfl := Except.ok.inj h
    exact ⟨hok, rfl⟩
  · cases h

/-- An admitted call is recorded. -/
theorem append_of_checkRequest (j : Journal rt) {req : AppendRequest} (h : checkRequest rt req = .ok ()) :
    ∃ j', j.append req = .ok j' ∧ j'.calls = j.calls ++ [req] := by
  unfold append
  split
  · exact ⟨_, rfl, rfl⟩
  · rename_i herr
    rw [h] at herr
    cases herr

end Journal

/-! ## Public payloads

The builder `_public_event_payload` of `core/event_payloads.py`. Its payloads are JSON documents,
so they are stored as they are built. -/

/-- `_public_ref(*parts)`. -/
def publicRef (parts : List String) : String :=
  let cleaned := (parts.filter fun p => strip p ≠ "").map fun p =>
    String.ofList ((strip p).toList.map fun c => if c = ' ' then '-' else c)
  let ref := join ":" cleaned
  if ref = "" then "unknown" else ref

/-- `n` with at least `width` digits. -/
def padded (width n : Nat) : String :=
  let digits := toString n
  String.ofList (List.replicate (width - digits.length) '0') ++ digits

/-- Year, month and day of a day counted from 1970-01-01, by the years of 400-year eras that start
in March. -/
def civilDate (day : Nat) : Nat × Nat × Nat :=
  let z := day + 719468
  let doe := z % 146097
  let yoe := (doe - doe / 1460 + doe / 36524 - doe / 146096) / 365
  let doy := doe - (365 * yoe + yoe / 4 - yoe / 100)
  let mp := (5 * doy + 2) / 153
  let month := if mp < 10 then mp + 3 else mp - 9
  let year := z / 146097 * 400 + yoe + if month ≤ 2 then 1 else 0
  (year, month, doy - (153 * mp + 2) / 5 + 1)

/-- `value.isoformat()` of an instant in microseconds since the epoch, in UTC. -/
def isoFormat (value : Nat) : String :=
  let (year, month, day) := civilDate (value / 86400000000)
  let second := value / 1000000 % 86400
  let micro := value % 1000000
  padded 4 year ++ "-" ++ padded 2 month ++ "-" ++ padded 2 day ++ "T" ++
    padded 2 (second / 3600) ++ ":" ++ padded 2 (second / 60 % 60) ++ ":" ++
    padded 2 (second % 60) ++ (if micro = 0 then "" else "." ++ padded 6 micro) ++ "+00:00"

example : isoFormat 951827696000001 = "2000-02-29T12:34:56.000001+00:00" := by decide +kernel

/-- An item of `private_commitments`. -/
def commitment (name : String) (present : Bool) (reason : String) : Json :=
  .obj [("name", .str name), ("present", .scalar (.bool present)), ("reason", .str reason)]

/-- `_public_event_payload(...)`. -/
def publicEventPayload (subjectType subjectRef subjectLabel action stage summary : String)
    (publicFacts : List (String × Json)) (privateCommitments : List Json) : PyVal :=
  (Json.obj [("schema", .str publicLedgerSchema),
    ("subject", .obj [("type", .str subjectType), ("ref", .str subjectRef),
      ("label", .str subjectLabel)]),
    ("action", .str action), ("stage", .str stage), ("summary", .str summary),
    ("public_facts", .obj publicFacts), ("private_commitments", .arr privateCommitments)]).toPy

end LiveOs.EventLedger
