import Mathlib.Algebra.Group.Nat.Defs
import Mathlib.Data.List.GetD
import Mathlib.Data.Nat.NthRoot.Defs

/-!
# SHA-256

The hash function of FIPS 180-4 on messages of whole bytes: its functions and constants (section 4),
padding and parsing (section 5) and the computation of the digest (section 6.2).
-/

namespace LiveOs.Lib.Sha256

/-- Eight things in order: the working variables, or the words of a hash value. -/
structure Eight (α : Type) where
  a : α
  b : α
  c : α
  d : α
  e : α
  f : α
  g : α
  h : α
deriving DecidableEq

def Eight.map {α β : Type} (f : α → β) (v : Eight α) : Eight β :=
  ⟨f v.a, f v.b, f v.c, f v.d, f v.e, f v.f, f v.g, f v.h⟩

def Eight.zip {α β γ : Type} (f : α → β → γ) (v : Eight α) (w : Eight β) : Eight γ :=
  ⟨f v.a w.a, f v.b w.b, f v.c w.c, f v.d w.d, f v.e w.e, f v.f w.f, f v.g w.g, f v.h w.h⟩

def Eight.toList {α : Type} (v : Eight α) : List α := [v.a, v.b, v.c, v.d, v.e, v.f, v.g, v.h]

abbrev Word := BitVec 32

/-! ## Functions and constants -/

def ch (x y z : Word) : Word := (x &&& y) ^^^ (~~~x &&& z)

def maj (x y z : Word) : Word := (x &&& y) ^^^ (x &&& z) ^^^ (y &&& z)

def bigSigma0 (x : Word) : Word := x.rotateRight 2 ^^^ x.rotateRight 13 ^^^ x.rotateRight 22

def bigSigma1 (x : Word) : Word := x.rotateRight 6 ^^^ x.rotateRight 11 ^^^ x.rotateRight 25

def smallSigma0 (x : Word) : Word := x.rotateRight 7 ^^^ x.rotateRight 18 ^^^ x >>> 3

def smallSigma1 (x : Word) : Word := x.rotateRight 17 ^^^ x.rotateRight 19 ^^^ x >>> 10

/-- The first sixty-four primes. -/
def primes : List Nat := [
  2, 3, 5, 7, 11, 13, 17, 19, 23, 29, 31, 37, 41, 43, 47, 53, 59, 61, 67, 71, 73, 79, 83, 89, 97,
  101, 103, 107, 109, 113, 127, 131, 137, 139, 149, 151, 157, 163, 167, 173, 179, 181, 191, 193,
  197, 199, 211, 223, 227, 229, 233, 239, 241, 251, 257, 263, 269, 271, 277, 281, 283, 293, 307,
  311]

/-- The first 32 bits of the fractional part of the cube root. -/
def cubeRootBits (p : Nat) : Word := BitVec.ofNat 32 (Nat.nthRoot 3 (p * 2 ^ 96))

/-- The first 32 bits of the fractional part of the square root. -/
def squareRootBits (p : Nat) : Word := BitVec.ofNat 32 (Nat.nthRoot 2 (p * 2 ^ 64))

/-- The constant of a round. -/
def roundConstant (t : Nat) : Word := cubeRootBits (primes.getD t 0)

/-- The initial hash value. -/
def initialHash : Eight Word := (⟨2, 3, 5, 7, 11, 13, 17, 19⟩ : Eight Nat).map squareRootBits

/-! ## Padding and parsing -/

abbrev Message := List UInt8

/-- The bytes of a word, the most significant first. -/
def wordBytes (w : Word) : List UInt8 :=
  [⟨w.extractLsb' 24 8⟩, ⟨w.extractLsb' 16 8⟩, ⟨w.extractLsb' 8 8⟩, ⟨w.extractLsb' 0 8⟩]

/-- The word of four bytes, the most significant first. -/
def ofBytes (b₀ b₁ b₂ b₃ : UInt8) : Word := b₀.toBitVec ++ b₁.toBitVec ++ b₂.toBitVec ++ b₃.toBitVec

/-- The fewest zero bytes that fill the last block. -/
def zeroBytes (length : Nat) : Nat := (119 - length % 64) % 64

/-- The length in bits as a number of 64 bits. -/
def lengthBytes (length : Nat) : List UInt8 :=
  wordBytes (BitVec.ofNat 32 (8 * length / 2 ^ 32)) ++ wordBytes (BitVec.ofNat 32 (8 * length))

def pad (m : Message) : Message :=
  m ++ 0x80 :: (List.replicate (zeroBytes m.length) 0 ++ lengthBytes m.length)

/-- The `j`-th word of the `i`-th block. -/
def blockWord (padded : Message) (i j : Nat) : Word :=
  let at' := fun k => padded.getD (64 * i + 4 * j + k) 0
  ofBytes (at' 0) (at' 1) (at' 2) (at' 3)

/-! ## The digest -/

/-- The message schedule of a block. -/
def schedule (block : Nat → Word) (t : Nat) : Word :=
  if t < 16 then block t
  else smallSigma1 (schedule block (t - 2)) + schedule block (t - 7) +
    smallSigma0 (schedule block (t - 15)) + schedule block (t - 16)
termination_by t
decreasing_by all_goals omega

/-- One round on the working variables. -/
def round (block : Nat → Word) (v : Eight Word) (t : Nat) : Eight Word :=
  let t₁ := v.h + bigSigma1 v.e + ch v.e v.f v.g + roundConstant t + schedule block t
  let t₂ := bigSigma0 v.a + maj v.a v.b v.c
  ⟨t₁ + t₂, v.a, v.b, v.c, v.d + t₁, v.e, v.f, v.g⟩

/-- The hash value after a block. -/
def compress (hash : Eight Word) (block : Nat → Word) : Eight Word :=
  Eight.zip (· + ·) ((List.range 64).foldl (round block) hash) hash

/-- The digest of a message, in bytes. -/
def digest (m : Message) : List UInt8 :=
  ((List.range ((pad m).length / 64)).foldl (fun hash i => compress hash (blockWord (pad m) i))
    initialHash).toList.flatMap wordBytes

/-- The digest in hexadecimal, with lower-case letters. -/
def hexDigest (m : Message) : String :=
  String.ofList ((digest m).flatMap fun b =>
    [Nat.digitChar (b.toNat / 16), Nat.digitChar (b.toNat % 16)])

theorem schedule_of_lt {block : Nat → Word} {t : Nat} (h : t < 16) :
    schedule block t = block t := by
  rw [schedule, if_pos h]

theorem schedule_of_ge {block : Nat → Word} {t : Nat} (h : 16 ≤ t) :
    schedule block t = smallSigma1 (schedule block (t - 2)) + schedule block (t - 7) +
      smallSigma0 (schedule block (t - 15)) + schedule block (t - 16) := by
  rw [schedule, if_neg (by omega)]

/-- A padded message fills its blocks. -/
theorem length_pad (m : Message) : (pad m).length = (m.length + 72) / 64 * 64 := by
  simp only [pad, lengthBytes, wordBytes, zeroBytes, List.length_append, List.length_cons,
    List.length_replicate, List.length_nil]
  omega

end LiveOs.Lib.Sha256
