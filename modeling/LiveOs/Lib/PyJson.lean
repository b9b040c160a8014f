import LiveOs.Lib.PyValue

/-!
# `json.dumps` and `json.loads`

A JSON document is read back by `json.loads` as a tree with string keys. `json.dumps` is modelled
in two parts: the tree it walks (`PyVal.dumpTree`, or `PyVal.canonicalTree` with `sort_keys=True`
and `default=str`) and the text it writes for a tree (`Json.text`, compact separators and
`ensure_ascii=False`). Storing a value and reading it back is `jsonStore`.

`sort_keys` sorts a dict by its Python keys before they are turned into text: strings by code
point, numbers by value; keys that do not compare raise `TypeError`.
-/

namespace LiveOs.Lib

/-- A JSON document. -/
inductive Json where
  | scalar (s : Scalar)
  | str (s : String)
  | arr (xs : List Json)
  | obj (es : List (String × Json))

namespace Json

/-- Induction over documents, with the hypothesis for the members of a container. -/
@[induction_eliminator]
theorem induct {P : Json → Prop} (scalar : ∀ s, P (.scalar s)) (str : ∀ s, P (.str s))
    (arr : ∀ xs, (∀ x ∈ xs, P x) → P (.arr xs))
    (obj : ∀ es : List (String × Json), (∀ e ∈ es, P e.2) → P (.obj es)) (j : Json) : P j :=
  @Json.rec P (fun xs => ∀ x ∈ xs, P x) (fun es => ∀ e ∈ es, P e.2) (fun e => P e.2)
    scalar str arr obj
    (fun _ h => absurd h List.not_mem_nil)
    (fun _ _ hx hxs y hy => (List.mem_cons.1 hy).elim (fun e => e ▸ hx) (hxs y))
    (fun _ h => absurd h List.not_mem_nil)
    (fun _ _ he hes f hf => (List.mem_cons.1 hf).elim (fun e => e ▸ he) (hes f))
    (fun _ _ h => h) j

/-- The Python value `json.loads` returns for a document. -/
def toPy : Json → PyVal
  | .scalar s => .scalar s
  | .str s => .str s
  | .arr xs => .list (items xs)
  | .obj es => .dict (entries es)
where
  items : List Json → List PyVal
    | [] => []
    | x :: xs => x.toPy :: items xs
  entries : List (String × Json) → List (PyKey × PyVal)
    | [] => []
    | (k, v) :: es => (.str k, v.toPy) :: entries es

/-- The value under a key of an object. -/
def get? (es : List (String × Json)) (key : String) : Option Json :=
  (es.find? (fun e => e.1 = key)).map Prod.snd

/-- `d[key] = value` on an insertion-ordered dict. -/
def upsert (es : List (String × Json)) (e : String × Json) : List (String × Json) :=
  match es with
  | [] => [e]
  | f :: fs => if f.1 = e.1 then (f.1, e.2) :: fs else f :: upsert fs e

/-- The dict `json.loads` builds from the members of an object: a repeated key keeps its first
place and its last value. -/
def ofPairs (es : List (String × Json)) : List (String × Json) := es.foldl upsert []

/-- What `json.loads` reads for a written tree. -/
def loads : Json → Json
  | .scalar s => .scalar s
  | .str s => .str s
  | .arr xs => .arr (items xs)
  | .obj es => .obj (ofPairs (entries es))
where
  items : List Json → List Json
    | [] => []
    | x :: xs => x.loads :: items xs
  entries : List (String × Json) → List (String × Json)
    | [] => []
    | (k, v) :: es => (k, v.loads) :: entries es

/-- Two documents are equal as Python values read from JSON: arrays item by item, objects as
finite maps, that is, up to the order of their members. -/
inductive Same : Json → Json → Prop
  | scalar (s : Scalar) : Same (.scalar s) (.scalar s)
  | str (s : String) : Same (.str s) (.str s)
  | arr {xs ys : List Json} (h : List.Forall₂ Same xs ys) : Same (.arr xs) (.arr ys)
  | obj {es es' fs fs' : List (String × Json)} (he : es.Perm es') (hf : fs.Perm fs')
      (hk : es'.map Prod.fst = fs'.map Prod.fst)
      (hv : List.Forall₂ Same (es'.map Prod.snd) (fs'.map Prod.snd)) : Same (.obj es) (.obj fs)

/-- The escape sequence of one character inside a JSON string. -/
def escapeChar (c : Char) : List Char :=
  if c = '"' then ['\\', '"']
  else if c = '\\' then ['\\', '\\']
  else if c.toNat = 8 then ['\\', 'b']
  else if c.toNat = 12 then ['\\', 'f']
  else if c = '\n' then ['\\', 'n']
  else if c = '\r' then ['\\', 'r']
  else if c = '\t' then ['\\', 't']
  else if c.toNat < 0x20 then '\\' :: 'u' :: hexDigits 4 c.toNat
  else [c]

/-- The text of a JSON string. -/
def strText (s : String) : List Char := '"' :: s.toList.flatMap escapeChar ++ ['"']

/-- The text of a document, members in the order they stand; a separator goes before every member
but the first. -/
def text : Json → List Char
  | .scalar s => s.jsonText.toList
  | .str s => strText s
  | .arr [] => ['[', ']']
  | .arr (x :: xs) => '[' :: x.text ++ items xs ++ [']']
  | .obj [] => ['\x7b', '\x7d']
  | .obj ((k, v) :: es) => '\x7b' :: strText k ++ ':' :: v.text ++ members es ++ ['\x7d']
where
  items : List Json → List Char
    | [] => []
    | x :: xs => ',' :: x.text ++ items xs
  members : List (String × Json) → List Char
    | [] => []
    | (k, v) :: es => ',' :: strText k ++ ':' :: v.text ++ members es

end Json

/-! ## Sorting the items of a dict -/

/-- All keys are strings. -/
def allStrKeys {α : Type} (es : List (PyKey × α)) : Bool :=
  es.all fun e => match e.1 with
    | .str _ => true
    | _ => false

/-- All keys are numbers: integers, floats and Booleans. -/
def allNumKeys {α : Type} (es : List (PyKey × α)) : Bool :=
  es.all fun e => match e.1 with
    | .scalar s => s.number?.isSome
    | _ => false

/-- `sorted(d.items())` does not raise: at most one item, or keys of one comparable kind. -/
def sortableKeys {α : Type} (es : List (PyKey × α)) : Bool :=
  es.length ≤ 1 || allStrKeys es || allNumKeys es

/-- `a <= b` on keys of one comparable kind, as the sort asks it: not `b < a`. -/
def keyLe (a b : PyKey) : Bool :=
  match a, b with
  | .str s, .str t => decide (s ≤ t)
  | .scalar s, .scalar t =>
    match s.number?, t.number? with
    | some x, some y => !y.lt x
    | _, _ => true
  | _, _ => true

/-- `sorted(d.items())` on keys that do not repeat. -/
def sortItems {α : Type} (es : List (PyKey × α)) : List (PyKey × α) :=
  es.insertionSort fun a b => keyLe a.1 b.1

namespace PyVal

/-- `json.dumps` can write the value: every dict has keys of the accepted types, and without a
`default` there is no foreign object inside. -/
def dumpable : PyVal → Bool
  | .scalar _ => true
  | .str _ => true
  | .list xs => items xs
  | .tuple xs => items xs
  | .dict es => entries es
  | .other _ => false
where
  items : List PyVal → Bool
    | [] => true
    | x :: xs => x.dumpable && items xs
  entries : List (PyKey × PyVal) → Bool
    | [] => true
    | (k, v) :: es => k.encodable && v.dumpable && entries es

/-- The tree `json.dumps(v)` writes. -/
def dumpTree : PyVal → Json
  | .scalar s => .scalar s
  | .str s => .str s
  | .list xs => .arr (items xs)
  | .tuple xs => .arr (items xs)
  | .dict es => .obj (entries es)
  | .other t => .str t
where
  items : List PyVal → List Json
    | [] => []
    | x :: xs => x.dumpTree :: items xs
  entries : List (PyKey × PyVal) → List (String × Json)
    | [] => []
    | (k, v) :: es => (k.jsonText, v.dumpTree) :: entries es

/-- `json.dumps(v, sort_keys=True, default=str)` does not raise. -/
def canonical : PyVal → Bool
  | .scalar _ => true
  | .str _ => true
  | .list xs => items xs
  | .tuple xs => items xs
  | .dict es => sortableKeys es && entries es
  | .other _ => true
where
  items : List PyVal → Bool
    | [] => true
    | x :: xs => x.canonical && items xs
  entries : List (PyKey × PyVal) → Bool
    | [] => true
    | (k, v) :: es => k.encodable && v.canonical && entries es

/-- The tree `json.dumps(v, sort_keys=True, default=str)` writes. -/
def canonicalTree : PyVal → Json
  | .scalar s => .scalar s
  | .str s => .str s
  | .list xs => .arr (items xs)
  | .tuple xs => .arr (items xs)
  | .dict es => .obj ((sortItems (entries es)).map fun e => (e.1.jsonText, e.2))
  | .other t => .str t
where
  items : List PyVal → List Json
    | [] => []
    | x :: xs => x.canonicalTree :: items xs
  entries : List (PyKey × PyVal) → List (PyKey × Json)
    | [] => []
    | (k, v) :: es => (k, v.canonicalTree) :: entries es

end PyVal

/-- `json.dumps(v, ensure_ascii=False, sort_keys=True, separators=(",", ":"), default=str)`;
`none` where it raises `TypeError`. -/
def canonicalText (v : PyVal) : Option String :=
  if v.canonical then some (String.ofList v.canonicalTree.text) else none

/-- The document `json.loads` reads from the text `json.dumps(v)` writes. -/
def PyVal.stored (v : PyVal) : Json := v.dumpTree.loads

/-- `json.loads(json.dumps(v))`; `none` where `json.dumps` raises `TypeError`. -/
def jsonStore (v : PyVal) : Option Json :=
  if v.dumpable then some v.stored else none

/-! ## Containers item by item -/

@[simp] theorem Json.toPy_items (xs : List Json) : Json.toPy.items xs = xs.map Json.toPy := by
  induction xs with
  | nil => rfl
  | cons x xs ih => simp [Json.toPy.items, ih]

@[simp] theorem Json.toPy_entries (es : List (String × Json)) :
    Json.toPy.entries es = es.map fun e => (PyKey.str e.1, e.2.toPy) := by
  induction es with
  | nil => rfl
  | cons e es ih => simp [Json.toPy.entries, ih]

@[simp] theorem Json.loads_items (xs : List Json) : Json.loads.items xs = xs.map Json.loads := by
  induction xs with
  | nil => rfl
  | cons x xs ih => simp [Json.loads.items, ih]

@[simp] theorem Json.loads_entries (es : List (String × Json)) :
    Json.loads.entries es = es.map fun e => (e.1, e.2.loads) := by
  induction es with
  | nil => rfl
  | cons e es ih => simp [Json.loads.entries, ih]

@[simp] theorem PyVal.dumpable_items (xs : List PyVal) :
    PyVal.dumpable.items xs = xs.all PyVal.dumpable := by
  induction xs with
  | nil => rfl
  | cons x xs ih => simp [PyVal.dumpable.items, ih]

@[simp] theorem PyVal.dumpable_entries (es : List (PyKey × PyVal)) :
    PyVal.dumpable.entries es = es.all fun e => e.1.encodable && e.2.dumpable := by
  induction es with
  | nil => rfl
  | cons e es ih => simp [PyVal.dumpable.entries, ih]

@[simp] theorem PyVal.dumpTree_items (xs : List PyVal) :
    PyVal.dumpTree.items xs = xs.map PyVal.dumpTree := by
  induction xs with
  | nil => rfl
  | cons x xs ih => simp [PyVal.dumpTree.items, ih]

@[simp] theorem PyVal.dumpTree_entries (es : List (PyKey × PyVal)) :
    PyVal.dumpTree.entries es = es.map fun e => (e.1.jsonText, e.2.dumpTree) := by
  induction es with
  | nil => rfl
  | cons e es ih => simp [PyVal.dumpTree.entries, ih]

@[simp] theorem PyVal.canonical_items (xs : List PyVal) :
    PyVal.canonical.items xs = xs.all PyVal.canonical := by
  induction xs with
  | nil => rfl
  | cons x xs ih => simp [PyVal.canonical.items, ih]

@[simp] theorem PyVal.canonical_entries (es : List (PyKey × PyVal)) :
    PyVal.canonical.entries es = es.all fun e => e.1.encodable && e.2.canonical := by
  induction es with
  | nil => rfl
  | cons e es ih => simp [PyVal.canonical.entries, ih]

@[simp] theorem PyVal.canonicalTree_items (xs : List PyVal) :
    PyVal.canonicalTree.items xs = xs.map PyVal.canonicalTree := by
  induction xs with
  | nil => rfl
  | cons x xs ih => simp [PyVal.canonicalTree.items, ih]

@[simp] theorem PyVal.canonicalTree_entries (es : List (PyKey × PyVal)) :
    PyVal.canonicalTree.entries es = es.map fun e => (e.1, e.2.canonicalTree) := by
  induction es with
  | nil => rfl
  | cons e es ih => simp [PyVal.canonicalTree.entries, ih]

namespace PyVal

theorem stored_list (xs : List PyVal) : (PyVal.list xs).stored = .arr (xs.map stored) := by
  simp [stored, dumpTree, Json.loads, Function.comp_def]

theorem stored_tuple (xs : List PyVal) : (PyVal.tuple xs).stored = .arr (xs.map stored) := by
  simp [stored, dumpTree, Json.loads, Function.comp_def]

theorem stored_dict (es : List (PyKey × PyVal)) : (PyVal.dict es).stored =
    .obj (Json.ofPairs (es.map fun e => (e.1.jsonText, e.2.stored))) := by
  simp [stored, dumpTree, Json.loads, Function.comp_def]

end PyVal

theorem jsonStore_eq_some {v : PyVal} {j : Json} :
    jsonStore v = some j ↔ v.dumpable = true ∧ v.stored = j := by
  unfold jsonStore
  split <;> simp_all

end LiveOs.Lib
