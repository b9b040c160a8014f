import LiveOs.Lib.PyValue

/-!
# Numbers from text

The language's own readings of a text as a number: `int(text)` and `decimal.Decimal(text)`. Decimal
digits of other scripts count as the digits they stand for, so the readings take the map from
characters to digits; on ASCII it is fixed.
-/

namespace LiveOs.Lib

/-- `unicodedata.decimal`, which agrees with ASCII there. -/
structure DecimalDigits where
  digit? : Char → Option Nat
  ascii : ∀ c : Char, c.toNat < 128 →
    digit? c = if c.isDigit then some (c.toNat - '0'.toNat) else none

namespace DecimalDigits

/-- The ASCII digits alone. -/
def asciiOnly : DecimalDigits where
  digit? c := if c.isDigit then some (c.toNat - '0'.toNat) else none
  ascii _ _ := rfl

/-- The character with digits of other scripts replaced by ASCII ones. -/
def toAscii (u : DecimalDigits) (c : Char) : Char := (u.digit? c).elim c Nat.digitChar

end DecimalDigits

/-- An optional sign in front: whether it is a minus, and the rest. -/
def readSign : List Char → Bool × List Char
  | '-' :: cs => (true, cs)
  | '+' :: cs => (false, cs)
  | cs => (false, cs)

/-- A natural number with the sign. -/
def signed (negative : Bool) (n : Nat) : Int := if negative then -n else n

/-- A non-empty text of ASCII digits. -/
def allDigits (cs : List Char) : Bool := !cs.isEmpty && cs.all Char.isDigit

/-- `int(text)`: digits with single underscores between them, at most 4300 of them; `none` where it
raises `ValueError`. -/
def intOfText (u : DecimalDigits) (text : String) : Option Int :=
  let (negative, cs) := readSign ((strip text).toList.map u.toAscii)
  let groups := cs.splitOn '_'
  if groups.all allDigits ∧ groups.flatten.length ≤ 4300 then
    some (signed negative (natOfDigits groups.flatten))
  else none

/-- What `Decimal(text)` reads: a finite value `coefficient * 10 ** exponent`, or an infinity or
a NaN. -/
inductive DecimalText where
  | finite (coefficient exponent : Int)
  | nonFinite
deriving DecidableEq

/-- The name of an infinity or of a NaN with its digits. -/
def isNonFinite (cs : List Char) : Bool :=
  let lower := cs.map Char.toLower
  lower = "inf".toList || lower = "infinity".toList ||
    ("nan".toList.isPrefixOf lower && (lower.drop 3).all Char.isDigit) ||
    ("snan".toList.isPrefixOf lower && (lower.drop 4).all Char.isDigit)

/-- The exponent part: nothing, or `e` with an optional sign and digits. -/
def readExponent : List Char → Option Int
  | [] => some 0
  | c :: cs =>
    let (negative, ds) := readSign cs
    if (c = 'e' ∨ c = 'E') ∧ allDigits ds then some (signed negative (natOfDigits ds)) else none

/-- The digits after a point, and the rest. -/
def readFraction : List Char → List Char × List Char
  | '.' :: cs => cs.span Char.isDigit
  | cs => ([], cs)

/-- `Decimal(text)`; `none` where it raises `InvalidOperation`. -/
def decimalOfText (u : DecimalDigits) (text : String) : Option DecimalText :=
  let (negative, cs) := readSign (((strip text).toList.filter (· ≠ '_')).map u.toAscii)
  if isNonFinite cs then some .nonFinite
  else
    let (int, rest) := cs.span Char.isDigit
    let (frac, rest) := readFraction rest
    if int ++ frac = [] then none
    else (readExponent rest).map fun e =>
      .finite (signed negative (natOfDigits (int ++ frac))) (e - frac.length)

example : intOfText .asciiOnly " -1_000 " = some (-1000) ∧ intOfText .asciiOnly "1__0" = none ∧
    decimalOfText .asciiOnly "-12.50e2" = some (.finite (-1250) 0) ∧
    decimalOfText .asciiOnly "NaN" = some .nonFinite ∧ decimalOfText .asciiOnly "" = none := by
  decide +kernel

end LiveOs.Lib
