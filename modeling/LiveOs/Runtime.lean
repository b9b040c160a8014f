import LiveOs.Lib.PyJson
import LiveOs.Lib.Runs

/-!
# The Python runtime and its exceptions

What the services take from outside the repository: the SHA-256 digest in hexadecimal and
`str.isprintable`, on which `repr` of a string depends. Exceptions the services raise themselves
carry their text.
-/

namespace LiveOs

open Lib

structure Runtime where
  /-- `hashlib.sha256(text.encode("utf-8")).hexdigest()` -/
  sha256 : String → String
  /-- `c.isprintable()` -/
  printable : Char → Bool

/-- The exceptions of the services. -/
inductive Error where
  | domain (message : String)
  | value (message : String)
  | permission (message : String)
  | doesNotExist (message : String)
  | integrity
  | multipleObjects
  | type
  | attribute
  | runtime (message : String)
  | validation (message : String)
deriving DecidableEq

/-- A runtime that can be evaluated: the digest is the text itself. -/
def textRuntime : Runtime := ⟨id, fun _ => true⟩

/-- `str(v)`. -/
def Runtime.str (rt : Runtime) (v : PyVal) : String := v.pyStr rt.printable

end LiveOs
