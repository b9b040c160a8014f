import LiveOs.Lib.PyNumbers
import LiveOs.Lib.Rollback
import LiveOs.Procurement.Model

/-!
# Values of plan operations

The columns of `core/models/planning.py` take texts up to a length, positive integers and decimals
of a scale; a column is a type here, and storing a value outside of it raises what the database or
Django raises. The payload of an operation is JSON, and the converters of
`simulation/plan_application.py` turn its values into what the columns take.
-/

namespace LiveOs.Planning

open Lib
open Procurement (PyDecimal)

/-- The exceptions that the planning services meet. -/
inductive PyError where
  | domain (message : String)
  | value
  | type
  | attribute
  | key
  | overflow
  /-- `decimal.InvalidOperation` -/
  | invalidOperation
  /-- `django.core.exceptions.ValidationError` -/
  | validation
  /-- `django.db.IntegrityError` -/
  | integrity
  /-- `django.db.DataError` -/
  | data
  | doesNotExist
deriving DecidableEq

/-- The language as the services use it. -/
structure Python where
  rt : Runtime
  digits : DecimalDigits

/-- `str(v)` of a JSON value. -/
def Python.str (py : Python) (v : Json) : String := py.rt.str v.toPy

/-! ## Columns -/

/-- `CharField(max_length=n)`. -/
structure VarChar (n : Nat) where
  text : String
  fits : text.length ≤ n
deriving DecidableEq

/-- A primary key, which is never the empty text. -/
structure Key (n : Nat) where
  text : String
  nonempty : text ≠ ""
  fits : text.length ≤ n
deriving DecidableEq

/-- `PositiveIntegerField`, an unsigned column of 32 bits. -/
structure PositiveInt where
  val : Nat
  fits : val ≤ 4294967295
deriving DecidableEq

/-- `DecimalField(max_digits=digits, decimal_places=places)`, by its coefficient. -/
structure DecimalColumn (digits places : Nat) where
  coefficient : Int
  fits : coefficient.natAbs < 10 ^ digits
deriving DecidableEq

/-- A `Decimal`. -/
abbrev Number := DecimalText

def VarChar.store {n : Nat} (s : String) : Except PyError (VarChar n) :=
  if h : s.length ≤ n then .ok ⟨s, h⟩ else .error .data

def PositiveInt.store (i : Int) : Except PyError PositiveInt :=
  if h : 0 ≤ i ∧ i ≤ 4294967295 then .ok ⟨i.toNat, by omega⟩ else .error .data

/-- The stored value as a `Decimal`. -/
def DecimalColumn.value {digits places : Nat} (d : DecimalColumn digits places) : PyDecimal :=
  ⟨d.coefficient, -places⟩

def DecimalColumn.store {digits places : Nat} : Number → Except PyError (DecimalColumn digits places)
  | .nonFinite => .error .validation
  | .finite c e =>
    let q := PyDecimal.quantize ⟨c, e⟩ places
    if h : q.coefficient.natAbs < 10 ^ digits then .ok ⟨q.coefficient, h⟩
    else .error .invalidOperation

theorem length_cut_le (n : Nat) (s : String) : (String.ofList (s.toList.take n)).length ≤ n := by
  rw [String.length_ofList]
  exact List.length_take_le n _

/-- A text cut to the length of its column. -/
def VarChar.cut {n : Nat} (s : String) : VarChar n :=
  ⟨String.ofList (s.toList.take n), length_cut_le n s⟩

/-! ## JSON values -/

/-- `payload.get(key)`. -/
def getKey (payload : List (String × Json)) (key : String) : Json :=
  (Json.get? payload key).getD (.scalar .none)

/-- `payload.get(key, default)`. -/
def getKeyOr (payload : List (String × Json)) (key : String) (default : Json) : Json :=
  (Json.get? payload key).getD default

theorem get?_upsert (es : List (String × Json)) (e : String × Json) (key : String) :
    Json.get? (Json.upsert es e) key = if key = e.1 then some e.2 else Json.get? es key := by
  induction es with
  | nil =>
    by_cases h : key = e.1
    · simp [Json.upsert, Json.get?, h]
    · simp [Json.upsert, Json.get?, h, Ne.symm h]
  | cons f fs ih =>
    unfold Json.get? at ih ⊢
    by_cases hf : f.1 = e.1
    · rw [Json.upsert, if_pos hf]
      by_cases h : key = e.1
      · simp [h, hf]
      · simp [h, hf, Ne.symm h]
    · rw [Json.upsert, if_neg hf]
      by_cases h : key = e.1
      · rw [if_pos h] at ih
        simp [h, hf, ← ih]
      · rw [if_neg h] at ih
        by_cases hk : f.1 = key
        · simp [hk, h]
        · simp [hk, h, ih]

/-- `bool(v)`. -/
def truthy (v : Json) : Bool := v.toPy.truthy

/-- `v in (None, "")`. -/
def isBlank : Json → Bool
  | .scalar .none => true
  | .str s => s = ""
  | _ => false

/-- `str(v or default)`. -/
def strOr (py : Python) (v : Json) (default : String) : String :=
  if truthy v then py.str v else default

/-- `{**(v or {})}`. -/
def spread (v : Json) : Except PyError (List (String × Json)) :=
  if truthy v then
    match v with
    | .obj es => .ok es
    | _ => .error .type
  else .ok []

/-- `{**es, **fs}`. -/
def merged (es fs : List (String × Json)) : List (String × Json) := fs.foldl Json.upsert es

/-- `metadata = v or {}` with `metadata.update(fs)`. -/
def updated (v : Json) (fs : List (String × Json)) : Except PyError Json :=
  if truthy v then
    match v with
    | .obj es => .ok (.obj (merged es fs))
    | _ => .error .attribute
  else .ok (.obj (merged [] fs))

/-- `metadata = v or {}` with `metadata[key] = value`. -/
def assigned (v : Json) (key : String) (value : Json) : Except PyError Json :=
  (spread v).map fun es => .obj (Json.upsert es (key, value))

/-- `v or []`. -/
def orEmptyList (v : Json) : Json := if truthy v then v else .arr []

/-! ## Converters -/

/-- `int(v)`. -/
def intOf (py : Python) : Json → Except PyError Int
  | .scalar (.bool b) => .ok (if b then 1 else 0)
  | .scalar (.int i) => .ok i
  | .scalar (.float f) =>
    match f.value with
    | .finite q => .ok (if q < 0 then -(-q).floor else q.floor)
    | .nan => .error .value
    | _ => .error .overflow
  | .str s =>
    match intOfText py.digits s with
    | some i => .ok i
    | none => .error .value
  | _ => .error .type

/-- `Decimal(text)`. -/
def decimalOf (py : Python) (text : String) : Except PyError Number :=
  match decimalOfText py.digits text with
  | some d => .ok d
  | none => .error .invalidOperation

/-- `list_value(value)`. -/
def listValue : Json → List Json
  | .scalar .none => []
  | .arr xs => xs
  | v => [v]

/-- `decimal_value(value, default=default)`. -/
def decimalValue (py : Python) (v : Json) (default : Number) : Except PyError Number :=
  if isBlank v then .ok default else decimalOf py (py.str v)

/-- `int_value(value, default=default)`. -/
def intValue (py : Python) (v : Json) (default : Int) : Except PyError Int :=
  if isBlank v then .ok default else intOf py v

/-- `optional_int_value(value)`. -/
def optionalIntValue (py : Python) (v : Json) : Except PyError (Option Int) :=
  if isBlank v then .ok none else (intOf py v).map some

/-- `bool_value(value, default=default)`. -/
def boolValue (py : Python) (v : Json) (default : Bool) : Bool :=
  if isBlank v then default
  else match v with
    | .scalar (.bool b) => b
    | v => ["1", "true", "yes", "on"].contains
        (String.ofList ((strip (py.str v)).toList.map Char.toLower))

/-- The value of an optional integer column. -/
def storeOptional : Option Int → Except PyError (Option PositiveInt)
  | none => .ok none
  | some i => (PositiveInt.store i).map some

end LiveOs.Planning
