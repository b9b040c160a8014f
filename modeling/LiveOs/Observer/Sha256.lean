import LiveOs.Lib.JsNumber
import LiveOs.Lib.PyValue
import LiveOs.Lib.Sha256

/-!
# Hashing in the browser

`_sha256Raw` and `bytesToHex` of `observer/static/observer/audit_verify.js`, by which the audit page
hashes where `SubtleCrypto` is missing. The functions that the source writes inline have names here,
and the eight variables and the eight hash words are records.
-/

namespace LiveOs.Observer

open Lib
open Lib.Sha256 (Eight)

/-- `K`. -/
def roundTable : List Int := [
  0x428a2f98, 0x71374491, 0xb5c0fbcf, 0xe9b5dba5, 0x3956c25b, 0x59f111f1, 0x923f82a4, 0xab1c5ed5,
  0xd807aa98, 0x12835b01, 0x243185be, 0x550c7dc3, 0x72be5d74, 0x80deb1fe, 0x9bdc06a7, 0xc19bf174,
  0xe49b69c1, 0xefbe4786, 0x0fc19dc6, 0x240ca1cc, 0x2de92c6f, 0x4a7484aa, 0x5cb0a9dc, 0x76f988da,
  0x983e5152, 0xa831c66d, 0xb00327c8, 0xbf597fc7, 0xc6e00bf3, 0xd5a79147, 0x06ca6351, 0x14292967,
  0x27b70a85, 0x2e1b2138, 0x4d2c6dfc, 0x53380d13, 0x650a7354, 0x766a0abb, 0x81c2c92e, 0x92722c85,
  0xa2bfe8a1, 0xa81a664b, 0xc24b8b70, 0xc76c51a3, 0xd192e819, 0xd6990624, 0xf40e3585, 0x106aa070,
  0x19a4c116, 0x1e376c08, 0x2748774c, 0x34b0bcb5, 0x391c0cb3, 0x4ed8aa4a, 0x5b9cca4f, 0x682e6ff3,
  0x748f82ee, 0x78a5636f, 0x84c87814, 0x8cc70208, 0x90befffa, 0xa4506ceb, 0xbef9a3f7, 0xc67178f2]

/-- `H`, before the first block. -/
def initialWords : Eight Int :=
  ⟨0x6a09e667, 0xbb67ae85, 0x3c6ef372, 0xa54ff53a, 0x510e527f, 0x9b05688c, 0x1f83d9ab, 0x5be0cd19⟩

/-- `new DataView(buffer).setUint32(offset, value, false)`. -/
def setUint32 (buffer : List UInt8) (offset : Nat) (value : Int) : List UInt8 :=
  (List.range 4).foldl
    (fun bytes k => bytes.set (offset + k) ⟨(Js.word value).extractLsb' (24 - 8 * k) 8⟩) buffer

/-- `padLen`. -/
def padLen (length : Nat) : Nat :=
  (Js.and (Js.add (Js.add length 9) 63) (Js.not 63)).toNat

/-- `padded`. -/
def paddedMessage (msg : List UInt8) : List UInt8 :=
  let bitLen := Js.mul msg.length 8
  let empty := List.replicate (padLen msg.length) 0
  let filled := (msg ++ empty.drop msg.length).set msg.length 0x80
  setUint32 filled (padLen msg.length - 4) bitLen

/-- `W[t]` of one of the first sixteen words. -/
def readWord (padded : List UInt8) (at' : Nat) : Int :=
  let byte := fun k => ((padded.getD (at' + k) 0).toNat : Int)
  Js.or (Js.or (Js.or (Js.shl (byte 0) 24) (Js.shl (byte 1) 16)) (Js.shl (byte 2) 8)) (byte 3)

/-- `(x >>> k) | (x << 32 - k)`. -/
def rotated (x : Int) (k : Nat) : Int := Js.or (Js.ushr x k) (Js.shl x (32 - k))

/-- The inline functions of the rounds. -/
def rotations (x : Int) (j k l : Nat) : Int :=
  Js.xor (Js.xor (rotated x j) (rotated x k)) (rotated x l)

/-- The inline functions of the schedule. -/
def shiftedRotations (x : Int) (j k l : Nat) : Int :=
  Js.xor (Js.xor (rotated x j) (rotated x k)) (Js.ushr x l)

/-- The loop over the first sixteen words of `W`. -/
def readWords (padded : List UInt8) (b : Nat) (W : List Int) : List Int :=
  (List.range 16).foldl (fun W t => W.set t (Js.toUint32 (readWord padded (b + t * 4)))) W

/-- The loop over the other words of `W`. -/
def extendWords (W : List Int) : List Int :=
  (List.range' 16 48).foldl
    (fun W t =>
      let get := fun k => W.getD (t - k) 0
      let sum := Js.add (Js.add (Js.add (shiftedRotations (get 2) 17 19 10) (get 7))
        (shiftedRotations (get 15) 7 18 3)) (get 16)
      W.set t (Js.toUint32 (Js.ushr sum 0))) W

/-- One pass of the loop over the rounds. -/
def roundPass (W : List Int) (v : Eight Int) (t : Nat) : Eight Int :=
  let choice := Js.xor (Js.and v.e v.f) (Js.and (Js.not v.e) v.g)
  let T1 := Js.ushr (Js.add (Js.add (Js.add (Js.add v.h (rotations v.e 6 11 25)) choice)
    (roundTable.getD t 0)) (W.getD t 0)) 0
  let majority := Js.xor (Js.xor (Js.and v.a v.b) (Js.and v.a v.c)) (Js.and v.b v.c)
  let T2 := Js.ushr (Js.add (rotations v.a 2 13 22) majority) 0
  ⟨Js.ushr (Js.add T1 T2) 0, v.a, v.b, v.c, Js.ushr (Js.add v.d T1) 0, v.e, v.f, v.g⟩

/-- One pass of the loop over the blocks, on `H` and `W`. -/
def blockPass (padded : List UInt8) (s : Eight Int × List Int) (b : Nat) : Eight Int × List Int :=
  let W := extendWords (readWords padded b s.2)
  let v := (List.range 64).foldl (roundPass W) s.1
  (Eight.zip (fun x y => Js.ushr (Js.add x y) 0) s.1 v, W)

/-- `_sha256Raw(data)`. -/
def sha256Raw (data : List UInt8) : List UInt8 :=
  let padded := paddedMessage data
  let (H, _) := (List.range' 0 (padLen data.length / 64) 64).foldl (blockPass padded)
    (initialWords, List.replicate 64 0)
  (List.range 8).foldl (fun result i => setUint32 result (i * 4) (H.toList.getD i 0))
    (List.replicate 32 0)

/-- `s.padStart(width, '0')`. -/
def padStart (width : Nat) (s : List Char) : List Char :=
  List.replicate (width - s.length) '0' ++ s

/-- `bytesToHex(buf)`. -/
def bytesToHex (bytes : List UInt8) : String :=
  String.ofList (bytes.flatMap fun b => padStart 2 (Nat.toDigits 16 b.toNat))

end LiveOs.Observer
