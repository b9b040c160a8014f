import LiveOs.EventLedger.Chain
import LiveOs.Observer.Sha256

/-!
# The browser hashes with SHA-256

The numbers of `_sha256Raw` stand for the words of FIPS 180-4: what one expression, one pass of a
loop and one block compute is carried from words to numbers, and the loops follow by induction. The
padding agrees as long as the length in bits fits the last four bytes.
-/

namespace LiveOs.Observer

open Lib Lib.Sha256
open Lib.Js (Rep)

variable {n : Int} {w : Word} {bound : Nat} {W : List Int} {block : Nat → Word} {t : Nat}

/-- A word as an unsigned number. -/
def number (w : Word) : Int := w.toNat

/-! ## Constants -/

theorem roundTable_getD (h : t < 64) : roundTable.getD t 0 = number (roundConstant t) := by
  have htable : ∀ t ∈ List.range 64, roundTable.getD t 0 = number (roundConstant t) := by
    decide +kernel
  exact htable t (List.mem_range.2 h)

theorem initialWords_eq : initialWords = initialHash.map number := by
  decide +kernel

/-! ## Expressions -/

theorem rotations_rep (h : Rep bound n w) {j k l : Nat} (hj : 0 < j ∧ j < 32) (hk : 0 < k ∧ k < 32)
    (hl : 0 < l ∧ l < 32) : Rep (2 ^ 32) (rotations n j k l)
      (w.rotateRight j ^^^ w.rotateRight k ^^^ w.rotateRight l) :=
  ((h.rotate hj.1 hj.2).xor (h.rotate hk.1 hk.2)).xor (h.rotate hl.1 hl.2)

theorem shiftedRotations_rep (h : Rep bound n w) {j k l : Nat} (hj : 0 < j ∧ j < 32)
    (hk : 0 < k ∧ k < 32) (hl : l < 32) : Rep (2 ^ 32) (shiftedRotations n j k l)
      (w.rotateRight j ^^^ w.rotateRight k ^^^ w >>> l) := by
  have hshift := h.ushr l
  rw [Nat.mod_eq_of_lt hl] at hshift
  exact ((h.rotate hj.1 hj.2).xor (h.rotate hk.1 hk.2)).xor hshift

theorem byte_rep (b : UInt8) : Rep (2 ^ 32) (b.toNat : Int) (b.toBitVec.setWidth 32) := by
  have hlt := b.toNat_lt
  constructor
  · rw [Js.word, BitVec.ofInt_natCast]
    exact BitVec.ofNat_toNat 32 b.toBitVec
  · omega

theorem ofBytes_eq (b₀ b₁ b₂ b₃ : UInt8) : ofBytes b₀ b₁ b₂ b₃ =
    b₀.toBitVec.setWidth 32 <<< 24 ||| b₁.toBitVec.setWidth 32 <<< 16 |||
      b₂.toBitVec.setWidth 32 <<< 8 ||| b₃.toBitVec.setWidth 32 := by
  unfold ofBytes
  apply BitVec.eq_of_getLsbD_eq
  intro i hi
  have hout : ∀ b : UInt8, ∀ k, 8 ≤ k → b.toBitVec.getLsbD k = false :=
    fun b k hk => BitVec.getLsbD_of_ge b.toBitVec k hk
  simp only [BitVec.getLsbD_append, BitVec.getLsbD_or, BitVec.getLsbD_shiftLeft,
    BitVec.getLsbD_setWidth]
  -- the byte of the bit
  by_cases h₃ : i < 8
  · have h₂ : i < 16 := by omega
    have h₁ : i < 24 := by omega
    simp [h₃, h₂, h₁, hi]
  · by_cases h₂ : i < 16
    · have h₁ : i < 24 := by omega
      have hi₂ : i - 8 < 8 := by omega
      have hi₃ : i - 8 < 32 := by omega
      simp [h₃, h₂, h₁, hi, hi₂, hi₃, hout b₃ i (by omega)]
    · by_cases h₁ : i < 24
      · have hi₂ : ¬ i - 8 < 8 := by omega
        have hi₁ : i - 16 < 8 := by omega
        have hi₀ : i - 16 < 32 := by omega
        have hsub : i - 8 - 8 = i - 16 := by omega
        simp [h₃, h₂, h₁, hi, hi₂, hi₁, hi₀, hsub, hout b₃ i (by omega), hout b₂ (i - 8) (by omega)]
      · have hi₂ : ¬ i - 8 < 8 := by omega
        have hi₁ : ¬ i - 8 - 8 < 8 := by omega
        have hsub : i - 8 - 8 - 8 = i - 24 := by omega
        simp [h₃, h₂, h₁, hi, hi₂, hi₁, hsub, hout b₃ i (by omega), hout b₂ (i - 8) (by omega),
          hout b₁ (i - 16) (by omega)]
        omega

/-- A word is read from its bytes. -/
theorem readWord_rep (padded : List UInt8) (at' : Nat) : Rep (2 ^ 32) (readWord padded at')
    (ofBytes (padded.getD at' 0) (padded.getD (at' + 1) 0) (padded.getD (at' + 2) 0)
      (padded.getD (at' + 3) 0)) := by
  rw [ofBytes_eq]
  exact ((((byte_rep _).shl 24).or ((byte_rep _).shl 16)).or ((byte_rep _).shl 8)).or (byte_rep _)

/-! ## One round -/

theorem choice_rep {e f g : Int} {x y z : Word} {a b c : Nat} (he : Rep a e x) (hf : Rep b f y)
    (hg : Rep c g z) :
    Rep (2 ^ 32) (Js.xor (Js.and e f) (Js.and (Js.not e) g)) (ch x y z) :=
  (he.and hf).xor (he.not.and hg)

theorem majority_rep {a b c : Int} {x y z : Word} {i j k : Nat} (ha : Rep i a x) (hb : Rep j b y)
    (hc : Rep k c z) :
    Rep (2 ^ 32) (Js.xor (Js.xor (Js.and a b) (Js.and a c)) (Js.and b c)) (maj x y z) :=
  ((ha.and hb).xor (ha.and hc)).xor (hb.and hc)

/-- The first `n` words of `W` are those of the message schedule. -/
structure Scheduled (W : List Int) (block : Nat → Word) (n : Nat) : Prop where
  length : W.length = 64
  word : ∀ t < n, W.getD t 0 = number (schedule block t)

/-- **A round of numbers is a round of words.** -/
theorem roundPass_map (hW : Scheduled W block 64) (v : Eight Word) (ht : t < 64) :
    roundPass W (v.map number) t = (round block v t).map number := by
  have h1 := (((((Js.rep_toNat v.h).add (rotations_rep (Js.rep_toNat v.e) (j := 6) (k := 11)
    (l := 25) (by decide) (by decide) (by decide)) (by decide)).add
      (choice_rep (Js.rep_toNat v.e) (Js.rep_toNat v.f) (Js.rep_toNat v.g)) (by decide)).add
        (Js.rep_toNat (roundConstant t)) (by decide)).add (Js.rep_toNat (schedule block t))
          (by decide)).ushr_zero
  have h2 := ((rotations_rep (Js.rep_toNat v.a) (j := 2) (k := 13) (l := 22) (by decide) (by decide)
    (by decide)).add (majority_rep (Js.rep_toNat v.a) (Js.rep_toNat v.b) (Js.rep_toNat v.c))
      (by decide)).ushr_zero
  unfold roundPass
  simp only [Eight.map, roundTable_getD ht, hW.word t ht, number]
  rw [h1, h2, ((Js.rep_toNat _).add (Js.rep_toNat _) (by decide)).ushr_zero,
    ((Js.rep_toNat v.d).add (Js.rep_toNat _) (by decide)).ushr_zero]
  rfl

/-! ## The loops of a block -/

theorem getD_set {l : List Int} {i j : Nat} {x : Int} (h : i < l.length) :
    (l.set i x).getD j 0 = if i = j then x else l.getD j 0 := by
  rw [List.getD_eq_getElem?_getD, List.getD_eq_getElem?_getD, List.getElem?_set]
  by_cases hij : i = j
  · subst hij
    simp [h]
  · simp [hij]

/-- Writing the next word. -/
theorem Scheduled.set (h : Scheduled W block t) (ht : t < 64)
    (hn : n = number (schedule block t)) : Scheduled (W.set t n) block (t + 1) := by
  refine ⟨by rw [List.length_set, h.length], fun u hu => ?_⟩
  rw [getD_set (by rw [h.length]; exact ht)]
  by_cases hut : t = u
  · rw [if_pos hut, hn, hut]
  · rw [if_neg hut]
    exact h.word u (by omega)

theorem readWords_scheduled {padded : List UInt8} {i : Nat} (hlen : W.length = 64) :
    Scheduled (readWords padded (64 * i) W) (blockWord padded i) 16 := by
  have hloop : ∀ k ≤ 16, Scheduled ((List.range k).foldl
      (fun W t => W.set t (Js.toUint32 (readWord padded (64 * i + t * 4)))) W)
      (blockWord padded i) k := by
    intro k
    induction k with
    | zero => exact fun _ => ⟨hlen, fun u hu => by omega⟩
    | succ k ih =>
      intro hk
      rw [List.range_succ, List.foldl_append]
      refine (ih (by omega)).set (by omega) ?_
      rw [(readWord_rep padded (64 * i + k * 4)).toUint32, schedule_of_lt (by omega), number,
        blockWord, Nat.mul_comm k 4]
      rfl
  exact hloop 16 (le_refl 16)

theorem extendWords_scheduled (h : Scheduled W block 16) :
    Scheduled (extendWords W) block 64 := by
  have hloop : ∀ k ≤ 48, Scheduled ((List.range' 16 k).foldl
      (fun W t =>
        let get := fun k => W.getD (t - k) 0
        let sum := Js.add (Js.add (Js.add (shiftedRotations (get 2) 17 19 10) (get 7))
          (shiftedRotations (get 15) 7 18 3)) (get 16)
        W.set t (Js.toUint32 (Js.ushr sum 0))) W) block (16 + k) := by
    intro k
    induction k with
    | zero => exact fun _ => h
    | succ k ih =>
      intro hk
      rw [List.range'_concat, List.foldl_append, Nat.one_mul]
      have hk' := ih (by omega)
      refine hk'.set (by omega) ?_
      simp only [hk'.word (16 + k - 2) (by omega), hk'.word (16 + k - 7) (by omega),
        hk'.word (16 + k - 15) (by omega), hk'.word (16 + k - 16) (by omega), number]
      have hsum := ((((shiftedRotations_rep (Js.rep_toNat (schedule block (16 + k - 2))) (j := 17)
        (k := 19) (l := 10) (by decide) (by decide) (by decide)).add
          (Js.rep_toNat (schedule block (16 + k - 7))) (by decide)).add
            (shiftedRotations_rep (Js.rep_toNat (schedule block (16 + k - 15))) (j := 7) (k := 18)
              (l := 3) (by decide) (by decide) (by decide)) (by decide)).add
                (Js.rep_toNat (schedule block (16 + k - 16))) (by decide))
      rw [hsum.ushr_zero, (Js.rep_toNat _).toUint32,
        schedule_of_ge (t := 16 + k) (by omega)]
      rfl
  exact hloop 48 (le_refl 48)

/-- The rounds of a block. -/
theorem rounds_map (hW : Scheduled W block 64) (hash : Eight Word) : ∀ k ≤ 64,
    (List.range k).foldl (roundPass W) (hash.map number) =
      ((List.range k).foldl (round block) hash).map number := by
  intro k
  induction k with
  | zero => exact fun _ => rfl
  | succ k ih =>
    intro hk
    rw [List.range_succ, List.foldl_append, List.foldl_append, ih (by omega)]
    simp only [List.foldl_cons, List.foldl_nil]
    exact roundPass_map hW _ (by omega)

theorem sum_number (x y : Word) : Js.ushr (Js.add (number x) (number y)) 0 = number (y + x) := by
  rw [number, number, ((Js.rep_toNat x).add (Js.rep_toNat y) (by decide)).ushr_zero,
    BitVec.add_comm]
  rfl

/-- **A block of numbers is a block of words.** -/
theorem blockPass_map {padded : List UInt8} (hash : Eight Word) {i : Nat} (hlen : W.length = 64) :
    (blockPass padded (hash.map number, W) (64 * i)).1 =
        (compress hash (blockWord padded i)).map number ∧
      (blockPass padded (hash.map number, W) (64 * i)).2.length = 64 := by
  have hread : Scheduled (readWords padded (64 * i) W) (blockWord padded i) 16 :=
    readWords_scheduled hlen
  have hW := extendWords_scheduled hread
  unfold blockPass
  simp only
  refine ⟨?_, hW.length⟩
  rw [rounds_map hW hash 64 (le_refl 64)]
  simp only [compress, Eight.zip, Eight.map, sum_number]

theorem blocks_map {padded : List UInt8} (k : Nat) :
    ((List.range' 0 k 64).foldl (blockPass padded)
        (initialWords, List.replicate 64 0)).1 =
        ((List.range k).foldl (fun hash i => compress hash (blockWord padded i))
          initialHash).map number ∧
      ((List.range' 0 k 64).foldl (blockPass padded)
        (initialWords, List.replicate 64 0)).2.length = 64 := by
  induction k with
  | zero => exact ⟨initialWords_eq, List.length_replicate⟩
  | succ k ih =>
    rw [List.range'_concat, List.range_succ, List.foldl_append, List.foldl_append, Nat.zero_add]
    simp only [List.foldl_cons, List.foldl_nil]
    generalize (List.range' 0 k 64).foldl (blockPass padded) (initialWords, List.replicate 64 0) = s
      at ih ⊢
    obtain ⟨H, W⟩ := s
    obtain ⟨rfl, hlen⟩ := ih
    exact blockPass_map _ hlen

/-! ## Padding -/

theorem and_not_63 (w : Word) : w &&& ~~~63#32 = (w >>> 6) <<< 6 := by
  apply BitVec.eq_of_getLsbD_eq
  intro i hi
  have hmask : ∀ i < 32, (63#32).getLsbD i = decide (i < 6) := by decide
  simp only [BitVec.getLsbD_and, BitVec.getLsbD_not, BitVec.getLsbD_shiftLeft,
    BitVec.getLsbD_ushiftRight, hmask i hi, hi, decide_true, Bool.true_and]
  by_cases h : i < 6
  · simp [h]
  · have hadd : 6 + (i - 6) = i := by omega
    simp [h, hadd]

theorem padLen_eq {length : Nat} (h : length < 2 ^ 29) :
    padLen length = (length + 72) / 64 * 64 := by
  have hadd : Js.add (Js.add length 9) 63 = ((length + 72 : Nat) : Int) := by
    rw [Js.add_of_small (m := (length : Int)) (n := 9) (by omega), Js.add_of_small (by omega)]
    push_cast
    ring
  have hnot : Js.word (Js.not 63) = ~~~63#32 := Js.word_toInt _
  rw [padLen, Js.and, hadd, hnot, Js.word, BitVec.ofInt_natCast, and_not_63]
  have hnat : ((BitVec.ofNat 32 (length + 72) >>> 6) <<< 6 : Word).toNat =
      (length + 72) / 64 * 64 := by
    rw [BitVec.toNat_shiftLeft, BitVec.toNat_ushiftRight, BitVec.toNat_ofNat, Nat.shiftLeft_eq,
      Nat.shiftRight_eq_div_pow]
    omega
  rw [BitVec.toInt_eq_toNat_of_lt (by rw [hnat]; omega), hnat]
  rfl

/-- Four bytes are overwritten. -/
theorem setUint32_append (pre post : List UInt8) (x₀ x₁ x₂ x₃ : UInt8) {offset : Nat}
    (hoffset : pre.length = offset) (value : Int) :
    setUint32 (pre ++ x₀ :: x₁ :: x₂ :: x₃ :: post) offset value =
      pre ++ wordBytes (Js.word value) ++ post := by
  subst hoffset
  simp [setUint32, List.range_succ, wordBytes]

theorem paddedMessage_eq {msg : List UInt8} (h : msg.length < 2 ^ 29) :
    paddedMessage msg = pad msg := by
  have hlen := padLen_eq h
  have hzero : padLen msg.length - msg.length = zeroBytes msg.length + 9 := by
    rw [hlen, zeroBytes]
    omega
  have hsplit : List.replicate (zeroBytes msg.length + 8) (0 : UInt8) =
      List.replicate (zeroBytes msg.length) 0 ++ [0, 0, 0, 0, 0, 0, 0, 0] := by
    rw [List.replicate_add]
    rfl
  have hfilled :
      (msg ++ (List.replicate (padLen msg.length) 0).drop msg.length).set msg.length 0x80 =
      (msg ++ 0x80 :: (List.replicate (zeroBytes msg.length) 0 ++ [0, 0, 0, 0])) ++
        0 :: 0 :: 0 :: 0 :: [] := by
    rw [List.drop_replicate, hzero, List.set_append_right _ _ (le_refl _), Nat.sub_self,
      List.replicate_succ, List.set_cons_zero, hsplit]
    simp
  have hbits : Js.word (Js.mul msg.length 8) = BitVec.ofNat 32 (8 * msg.length) := by
    rw [Js.mul_of_small (by omega), Js.word, ← BitVec.ofInt_natCast]
    push_cast
    rw [Int.mul_comm]
  have hhigh : 8 * msg.length / 2 ^ 32 = 0 := by omega
  have hword : wordBytes (BitVec.ofNat 32 0) = [0, 0, 0, 0] := by decide
  unfold paddedMessage
  simp only
  rw [hfilled, setUint32_append _ [] 0 0 0 0 ?_ _, hbits, pad, lengthBytes, hhigh, hword]
  · simp
  · simp only [List.length_append, List.length_cons, List.length_replicate, List.length_nil]
    omega

/-! ## The digest -/

/-- The words that are written so far, before the bytes that are still zero. -/
theorem writeWords (ws : List Word) : ∀ k ≤ ws.length, (List.range k).foldl
    (fun result i => setUint32 result (i * 4) ((ws.map number).getD i 0))
      (List.replicate (4 * ws.length) 0) =
    (ws.take k).flatMap wordBytes ++ List.replicate (4 * (ws.length - k)) 0 := by
  intro k
  induction k with
  | zero =>
    intro _
    simp
  | succ k ih =>
    intro hk
    have hlen : ((ws.take k).flatMap wordBytes).length = k * 4 := by
      have hfour : ∀ l : List Word, (l.flatMap wordBytes).length = l.length * 4 := by
        intro l
        induction l with
        | nil => rfl
        | cons w l ihl =>
          rw [List.flatMap_cons, List.length_append, ihl, List.length_cons]
          simp only [wordBytes, List.length_cons, List.length_nil]
          omega
      rw [hfour, List.length_take_of_le (by omega)]
    have hrest : List.replicate (4 * (ws.length - k)) (0 : UInt8) =
        0 :: 0 :: 0 :: 0 :: List.replicate (4 * (ws.length - (k + 1))) 0 := by
      have hsplit : 4 * (ws.length - k) = 4 * (ws.length - (k + 1)) + 4 := by omega
      rw [hsplit]
      rfl
    have hget : (ws.map number).getD k 0 = number ws[k] := by
      rw [List.getD_eq_getElem?_getD, List.getElem?_map, List.getElem?_eq_getElem hk]
      rfl
    rw [List.range_succ, List.foldl_append, ih (by omega), List.foldl_cons, List.foldl_nil, hrest,
      setUint32_append _ _ 0 0 0 0 hlen, hget, List.take_succ_eq_append_getElem hk,
      List.flatMap_append, number, Js.word_toNat]
    simp

theorem writeHash (H : Eight Word) : (List.range 8).foldl
    (fun result i => setUint32 result (i * 4) ((H.map number).toList.getD i 0))
      (List.replicate 32 0) = H.toList.flatMap wordBytes := by
  have hlist : (H.map number).toList = H.toList.map number := rfl
  have hwrite := writeWords H.toList 8 (le_refl 8)
  rw [hlist]
  refine hwrite.trans ?_
  simp [Eight.toList]

/-- **The bytes that the page computes are the digest.** -/
theorem sha256Raw_eq {data : List UInt8} (h : data.length < 2 ^ 29) :
    sha256Raw data = digest data := by
  have hblocks : padLen data.length / 64 = (pad data).length / 64 := by
    rw [padLen_eq h, length_pad]
  unfold sha256Raw digest
  simp only [paddedMessage_eq h, hblocks, blocks_map]
  exact writeHash _

/-- A byte has two digits. -/
theorem padStart_toDigits (b : UInt8) : padStart 2 (Nat.toDigits 16 b.toNat) =
    [Nat.digitChar (b.toNat / 16), Nat.digitChar (b.toNat % 16)] := by
  have hall : ∀ n < 256, padStart 2 (Nat.toDigits 16 n) =
      [Nat.digitChar (n / 16), Nat.digitChar (n % 16)] := by
    decide +kernel
  exact hall b.toNat b.toNat_lt

theorem bytesToHex_sha256Raw {data : List UInt8} (h : data.length < 2 ^ 29) :
    bytesToHex (sha256Raw data) = hexDigest data := by
  rw [bytesToHex, sha256Raw_eq h, hexDigest]
  simp only [padStart_toDigits]

/-- `new TextEncoder().encode(text)` and `text.encode("utf-8")`. -/
def encode (text : String) : List UInt8 := text.toUTF8.data.toList

/-- **The browser's hash is SHA-256**, and where `hashlib` computes the same digest, the page and
`hash_json` agree on a canonical text. -/
theorem sha256Raw_isSha256 (data : List UInt8) (h : data.length < 2 ^ 29) :
    bytesToHex (sha256Raw data) = hexDigest data ∧
      ∀ (rt : Runtime) (value : PyVal) (text : String),
        (∀ t, rt.sha256 t = hexDigest (encode t)) → canonicalText value = some text →
          encode text = data →
            EventLedger.hashJson rt value = .ok (bytesToHex (sha256Raw data)) := by
  refine ⟨bytesToHex_sha256Raw h, fun rt value text hhash htext hdata => ?_⟩
  rw [EventLedger.hashJson, htext]
  simp only
  rw [hhash, hdata, bytesToHex_sha256Raw h]

/-- A runtime with the digest itself. -/
def digestRuntime : Runtime := ⟨fun text => hexDigest (encode text), fun _ => true⟩

theorem sha256Raw_isSha256_number :
    EventLedger.hashJson digestRuntime (.scalar (.int 12)) =
      .ok (bytesToHex (sha256Raw [49, 50])) :=
  (sha256Raw_isSha256 [49, 50] (by decide)).2 digestRuntime (.scalar (.int 12)) "12"
    (fun _ => rfl) (by decide +kernel) (by decide +kernel)

end LiveOs.Observer
