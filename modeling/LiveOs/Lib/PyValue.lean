import Mathlib.Data.List.DropRight
import Mathlib.Data.List.Sort
import Mathlib.Data.String.Basic

/-!
# Python values

The values a Python program hands to `json` or `str`: scalars, strings, lists, tuples, dicts and
opaque objects. A float is named by the text `json` writes for it, which is its shortest
round-trip `repr`; its numeric value is computed from that text when an order or an equality
needs it. Dicts are insertion-ordered association lists.

The functions here are the language's own: `str`, `repr`, truth value, `==`, `str.strip`.
-/

namespace LiveOs.Lib

/-! ## Text -/

/-- `str.isspace` on one character: the characters that `str.strip()` removes. -/
def isSpace (c : Char) : Bool :=
  let n := c.toNat
  (9 ≤ n && n ≤ 13) || (28 ≤ n && n ≤ 32) || n == 0x85 || n == 0xa0 || n == 0x1680 ||
    (0x2000 ≤ n && n ≤ 0x200a) || n == 0x2028 || n == 0x2029 || n == 0x202f || n == 0x205f ||
    n == 0x3000

/-- `text.strip()`. -/
def strip (s : String) : String :=
  String.ofList (((s.toList.dropWhile isSpace).reverse.dropWhile isSpace).reverse)

/-- Stripping twice is stripping once. -/
theorem strip_strip (s : String) : strip (strip s) = strip s := by
  have hstrip : ∀ cs : List Char, (((cs.dropWhile isSpace).rdropWhile isSpace).dropWhile
      isSpace).rdropWhile isSpace = (cs.dropWhile isSpace).rdropWhile isSpace := by
    intro cs
    -- what is left starts as `cs.dropWhile isSpace` does, so nothing more goes in front
    have hfront : ((cs.dropWhile isSpace).rdropWhile isSpace).dropWhile isSpace =
        (cs.dropWhile isSpace).rdropWhile isSpace := by
      rw [List.dropWhile_eq_self_iff]
      intro hlen
      have hpre := List.rdropWhile_prefix isSpace (cs.dropWhile isSpace)
      have hlen' : 0 < (cs.dropWhile isSpace).length := lt_of_lt_of_le hlen hpre.length_le
      rw [hpre.getElem hlen]
      exact List.dropWhile_get_zero_not isSpace cs hlen'
    rw [hfront, List.rdropWhile_idempotent]
  simp only [strip, String.toList_ofList]
  exact congrArg String.ofList (hstrip s.toList)

/-- A text with a character that is no space is not stripped to nothing. -/
theorem strip_ne_empty {s : String} {c : Char} (hc : c ∈ s.toList) (hspace : isSpace c = false) :
    strip s ≠ "" := by
  intro h
  have hlist : ((s.toList.dropWhile isSpace).reverse.dropWhile isSpace).reverse = [] :=
    String.ofList_eq_empty_iff.1 h
  have hall : ∀ x ∈ s.toList.dropWhile isSpace, isSpace x = true := by
    have hdrop := List.dropWhile_eq_nil_iff.1 (List.reverse_eq_nil_iff.1 hlist)
    exact fun x hx => hdrop x (List.mem_reverse.2 hx)
  cases hcs : s.toList.dropWhile isSpace with
  | nil =>
    have hspaces := List.dropWhile_eq_nil_iff.1 hcs c hc
    rw [hspace] at hspaces
    cases hspaces
  | cons x xs =>
    -- what is left begins with a character that is no space
    have hx : isSpace x = true := hall x (hcs ▸ List.mem_cons_self)
    have hhead := List.head?_dropWhile_not isSpace s.toList
    simp [hcs, hx] at hhead

/-- `sep.join(parts)`. -/
def join (sep : String) : List String → String
  | [] => ""
  | [p] => p
  | p :: q :: ps => p ++ sep ++ join sep (q :: ps)

theorem mem_join_head (sep : String) {p : String} {c : Char} (hc : c ∈ p.toList) :
    ∀ ps, c ∈ (join sep (p :: ps)).toList
  | [] => hc
  | q :: qs => by
    rw [join, String.toList_append, String.toList_append, List.mem_append, List.mem_append]
    exact .inl (.inl hc)

/-- The lower-case hexadecimal digits of `n`, most significant first, exactly `width` of them. -/
def hexDigits : Nat → Nat → List Char
  | 0, _ => []
  | width + 1, n => hexDigits width (n / 16) ++ [Nat.digitChar (n % 16)]

/-! ## Floats -/

/-- Characters that occur in the text of a float. -/
def isFloatChar (c : Char) : Bool := "0123456789+-.eNaInfity".toList.contains c

/-- Characters that occur in the text of an integer. -/
def isIntChar (c : Char) : Bool := c.isDigit || c == '-'

/-- A float, named by its JSON text: `1.5`, `1e+16`, `NaN`, `-Infinity`. The text never reads
as an integer literal. -/
structure PyFloat where
  text : String
  chars : text.toList.all isFloatChar = true
  notInt : text.toList.any (fun c => !isIntChar c) = true
deriving DecidableEq

/-- The value of a float as an extended rational. -/
inductive FloatValue where
  | nan
  | negInf
  | posInf
  | finite (q : Rat)
deriving DecidableEq

/-- The natural number a digit string denotes. -/
def natOfDigits (cs : List Char) : Nat :=
  cs.foldl (fun n c => 10 * n + (c.toNat - '0'.toNat)) 0

/-- `10 ^ e` for an integer exponent. -/
def pow10 (e : Int) : Rat :=
  if 0 ≤ e then ((10 ^ e.toNat : Nat) : Rat) else 1 / ((10 ^ (-e).toNat : Nat) : Rat)

/-- The nearest double to `q`, ties to an even significand; overflow is left unrounded, since the
text of a finite float never overflows. -/
def nearestDouble (q : Rat) : Rat :=
  if q.num = 0 then 0 else
    let a := if q < 0 then -q else q
    let e : Int := max ((Nat.log2 a.num.natAbs : Int) - (Nat.log2 a.den : Int) - 1) (-1022) - 52
    let ulp : Int → Rat := fun k =>
      if 0 ≤ k then ((2 ^ k.toNat : Nat) : Rat) else 1 / ((2 ^ (-k).toNat : Nat) : Rat)
    let u := if 9007199254740992 ≤ a / ulp e then ulp (e + 1) else ulp e
    let n := (a / u).floor
    let r := a / u - n
    let m : Int := if r < 1 / 2 then n else if 1 / 2 < r then n + 1 else n + n % 2
    if q < 0 then -(m * u) else m * u

/-- The value of an unsigned decimal literal `int[.frac][e[±]exp]`. -/
def decimalValue (cs : List Char) : Rat :=
  let mant := cs.takeWhile (· != 'e')
  let expo := (cs.dropWhile (· != 'e')).drop 1
  let int := mant.takeWhile (· != '.')
  let frac := (mant.dropWhile (· != '.')).drop 1
  let e : Int := match expo with
    | '-' :: ds => -(natOfDigits ds : Int)
    | '+' :: ds => natOfDigits ds
    | ds => natOfDigits ds
  (natOfDigits (int ++ frac) : Rat) * pow10 (e - frac.length)

namespace PyFloat

/-- The value of a float. -/
def value (f : PyFloat) : FloatValue :=
  if f.text = "NaN" then .nan
  else if f.text = "Infinity" then .posInf
  else if f.text = "-Infinity" then .negInf
  else match f.text.toList with
    | '-' :: cs => .finite (-(nearestDouble (decimalValue cs)))
    | cs => .finite (nearestDouble (decimalValue cs))

/-- `str(f)`, which names the non-finite values differently from `json`. -/
def pyStr (f : PyFloat) : String :=
  if f.text = "NaN" then "nan"
  else if f.text = "Infinity" then "inf"
  else if f.text = "-Infinity" then "-inf"
  else f.text

end PyFloat

namespace FloatValue

/-- `a < b` on numbers; every comparison with NaN is false. -/
def lt : FloatValue → FloatValue → Bool
  | .nan, _ => false
  | _, .nan => false
  | .negInf, .negInf => false
  | .negInf, _ => true
  | .finite a, .finite b => decide (a < b)
  | .finite _, .posInf => true
  | _, _ => false

/-- `a == b` on numbers; NaN equals nothing. -/
def eq : FloatValue → FloatValue → Bool
  | .nan, _ => false
  | a, b => decide (a = b)

end FloatValue

/-! ## Scalars and keys -/

/-- `None`, a Boolean, an integer or a float. -/
inductive Scalar where
  | none
  | bool (b : Bool)
  | int (i : Int)
  | float (f : PyFloat)
deriving DecidableEq

namespace Scalar

/-- The token `json` writes for a scalar. -/
def jsonText : Scalar → String
  | .none => "null"
  | .bool true => "true"
  | .bool false => "false"
  | .int i => toString i
  | .float f => f.text

/-- `str(x)` and `repr(x)`. -/
def pyStr : Scalar → String
  | .none => "None"
  | .bool true => "True"
  | .bool false => "False"
  | .int i => toString i
  | .float f => f.pyStr

/-- The number a scalar compares as: Booleans are 0 and 1, `None` is not a number. -/
def number? : Scalar → Option FloatValue
  | .none => Option.none
  | .bool b => some (.finite (if b then 1 else 0))
  | .int i => some (.finite i)
  | .float f => some f.value

/-- `x == y` on scalars. -/
def pyEq (x y : Scalar) : Bool :=
  match x.number?, y.number? with
  | some a, some b => a.eq b
  | Option.none, Option.none => true
  | _, _ => false

/-- The truth value of a scalar. -/
def truthy : Scalar → Bool
  | .none => false
  | .bool b => b
  | .int i => i != 0
  | .float f => f.value != .finite 0

end Scalar

/-- A dict key: a string, a scalar, or another hashable object known by its `str`. -/
inductive PyKey where
  | str (s : String)
  | scalar (s : Scalar)
  | other (text : String)
deriving DecidableEq

namespace PyKey

/-- The object key `json` writes for a dict key; keys of other types raise `TypeError`. -/
def jsonText : PyKey → String
  | .str s => s
  | .scalar s => s.jsonText
  | .other t => t

/-- `json` accepts the key. -/
def encodable : PyKey → Bool
  | .other _ => false
  | _ => true

/-- `str(key)`. -/
def pyStr : PyKey → String
  | .str s => s
  | .scalar s => s.pyStr
  | .other t => t

/-- `a == b` on keys. -/
def pyEq : PyKey → PyKey → Bool
  | .str s, .str t => s == t
  | .scalar s, .scalar t => s.pyEq t
  | .other s, .other t => s == t
  | _, _ => false

end PyKey

/-! ## Values -/

/-- A Python value. `other` is an object that `json` cannot encode, known by its `str`. -/
inductive PyVal where
  | scalar (s : Scalar)
  | str (s : String)
  | list (xs : List PyVal)
  | tuple (xs : List PyVal)
  | dict (es : List (PyKey × PyVal))
  | other (text : String)

namespace PyVal

/-- Induction over values, with the hypothesis for the members of a container. -/
@[induction_eliminator]
theorem induct {P : PyVal → Prop} (scalar : ∀ s, P (.scalar s)) (str : ∀ s, P (.str s))
    (list : ∀ xs, (∀ x ∈ xs, P x) → P (.list xs))
    (tuple : ∀ xs, (∀ x ∈ xs, P x) → P (.tuple xs))
    (dict : ∀ es : List (PyKey × PyVal), (∀ e ∈ es, P e.2) → P (.dict es))
    (other : ∀ t, P (.other t)) (v : PyVal) : P v :=
  @PyVal.rec P (fun xs => ∀ x ∈ xs, P x) (fun es => ∀ e ∈ es, P e.2) (fun e => P e.2)
    scalar str list tuple dict other
    (fun _ h => absurd h List.not_mem_nil)
    (fun _ _ hx hxs y hy => (List.mem_cons.1 hy).elim (fun e => e ▸ hx) (hxs y))
    (fun _ h => absurd h List.not_mem_nil)
    (fun _ _ he hes f hf => (List.mem_cons.1 hf).elim (fun e => e ▸ he) (hes f))
    (fun _ _ h => h) v

/-- The value stored in a dict under a string key. -/
def get? (es : List (PyKey × PyVal)) (key : String) : Option PyVal :=
  (es.find? (fun e => e.1 = .str key)).map Prod.snd

/-- `bool(v)`. -/
def truthy : PyVal → Bool
  | .scalar s => s.truthy
  | .str s => s != ""
  | .list xs => !xs.isEmpty
  | .tuple xs => !xs.isEmpty
  | .dict es => !es.isEmpty
  | .other _ => true

/-- `isinstance(v, (dict, list))`. -/
def isDictOrList : PyVal → Bool
  | .dict _ => true
  | .list _ => true
  | _ => false

/-- The value is the given string. -/
def isStr : PyVal → String → Bool
  | .str s, t => s == t
  | _, _ => false

/-- The character after escaping in `repr` of a string quoted by `quote`. -/
def reprChar (printable : Char → Bool) (quote c : Char) : List Char :=
  if c = quote ∨ c = '\\' then ['\\', c]
  else if c = '\t' then ['\\', 't']
  else if c = '\n' then ['\\', 'n']
  else if c = '\r' then ['\\', 'r']
  else if c.toNat < 0x20 ∨ c.toNat = 0x7f then '\\' :: 'x' :: hexDigits 2 c.toNat
  else if c.toNat < 0x7f then [c]
  else if printable c then [c]
  else if c.toNat < 0x100 then '\\' :: 'x' :: hexDigits 2 c.toNat
  else if c.toNat < 0x10000 then '\\' :: 'u' :: hexDigits 4 c.toNat
  else '\\' :: 'U' :: hexDigits 8 c.toNat

/-- `repr` of a string: single quotes unless the text has a single quote and no double quote. -/
def reprStr (printable : Char → Bool) (s : String) : String :=
  let quote := if s.toList.contains '\'' && !s.toList.contains '"' then '"' else '\''
  String.ofList (quote :: s.toList.flatMap (reprChar printable quote) ++ [quote])

/-- `repr` of a dict key. -/
def reprKey (printable : Char → Bool) : PyKey → String
  | .str s => reprStr printable s
  | .scalar s => s.pyStr
  | .other t => t

/-- `repr(v)`. -/
def repr (printable : Char → Bool) : PyVal → String
  | .scalar s => s.pyStr
  | .str s => reprStr printable s
  | .list xs => "[" ++ join ", " (items xs) ++ "]"
  | .tuple [x] => "(" ++ x.repr printable ++ ",)"
  | .tuple xs => "(" ++ join ", " (items xs) ++ ")"
  | .dict es => "\x7b" ++ join ", " (entries es) ++ "\x7d"
  | .other t => t
where
  items : List PyVal → List String
    | [] => []
    | x :: xs => x.repr printable :: items xs
  entries : List (PyKey × PyVal) → List String
    | [] => []
    | (k, v) :: es => (reprKey printable k ++ ": " ++ v.repr printable) :: entries es

/-- `str(v)`. -/
def pyStr (printable : Char → Bool) : PyVal → String
  | .str s => s
  | v => v.repr printable

/-- `a == b`: numbers by value, lists and tuples item by item, dicts as finite maps. -/
def pyEq : PyVal → PyVal → Bool
  | .scalar s, .scalar t => s.pyEq t
  | .str s, .str t => s == t
  | .list xs, .list ys => items xs ys
  | .tuple xs, .tuple ys => items xs ys
  | .dict es, .dict fs => es.length == fs.length && entries es fs
  | .other s, .other t => s == t
  | _, _ => false
where
  items : List PyVal → List PyVal → Bool
    | [], [] => true
    | x :: xs, y :: ys => x.pyEq y && items xs ys
    | _, _ => false
  entries : List (PyKey × PyVal) → List (PyKey × PyVal) → Bool
    | [], _ => true
    | (k, v) :: es, fs =>
      (match fs.find? (fun f => k.pyEq f.1) with
        | some f => v.pyEq f.2
        | none => false) && entries es fs

end PyVal

end LiveOs.Lib
