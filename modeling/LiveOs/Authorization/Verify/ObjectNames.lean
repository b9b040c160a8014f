import LiveOs.Authorization.Model
import Mathlib.Data.List.DropRight

/-!
# Object names do not collide

An id part is URL-safe base64 without its padding. The digits of a byte sequence determine it, the
alphabet has no dot, and what is left over in a last digit is zero, so that `global` is the encoding
of no text. The name of an object is read back from these three facts.
-/

namespace LiveOs.Authorization

open Lib Roles

/-! ## The alphabet -/

def base64Alphabet : List Char :=
  "ABCDEFGHIJKLMNOPQRSTUVWXYZabcdefghijklmnopqrstuvwxyz0123456789-_".toList

theorem base64Alphabet_length : base64Alphabet.length = 64 := by decide

theorem base64Alphabet_nodup : base64Alphabet.Nodup := by decide +kernel

theorem base64Digit_eq_getElem {n : Nat} (h : n < base64Alphabet.length) :
    base64Digit n = base64Alphabet[n] := by
  change (base64Alphabet[n]?).getD 'A' = base64Alphabet[n]
  rw [List.getElem?_eq_getElem h, Option.getD_some]

/-- A digit stands for one value of six bits. -/
theorem base64Digit_inj {m n : Nat} (hm : m < 64) (hn : n < 64)
    (h : base64Digit m = base64Digit n) : m = n := by
  have hm' : m < base64Alphabet.length := by rw [base64Alphabet_length]; exact hm
  have hn' : n < base64Alphabet.length := by rw [base64Alphabet_length]; exact hn
  rw [base64Digit_eq_getElem hm', base64Digit_eq_getElem hn'] at h
  exact (base64Alphabet_nodup.getElem_inj_iff).1 h

theorem base64Digit_mem (n : Nat) : base64Digit n ∈ base64Alphabet := by
  change (base64Alphabet[n]?).getD 'A' ∈ base64Alphabet
  cases h : base64Alphabet[n]? with
  | none =>
    rw [Option.getD_none]
    decide
  | some c =>
    rw [Option.getD_some]
    exact List.mem_of_getElem? h

/-! ## The digits of a byte sequence -/

theorem mem_base64Digits {c : Char} {bytes : List Nat} (h : c ∈ base64Digits bytes) :
    c ∈ base64Alphabet := by
  induction bytes using base64Digits.induct with
  | case1 => exact absurd h (List.not_mem_nil)
  | case2 a =>
    simp only [base64Digits, List.mem_cons, List.not_mem_nil, or_false] at h
    rcases h with rfl | rfl <;> apply base64Digit_mem
  | case3 a b =>
    simp only [base64Digits, List.mem_cons, List.not_mem_nil, or_false] at h
    rcases h with rfl | rfl | rfl <;> apply base64Digit_mem
  | case4 a b c' bytes ih =>
    simp only [base64Digits, List.mem_cons] at h
    rcases h with rfl | rfl | rfl | rfl | h
    · apply base64Digit_mem
    · apply base64Digit_mem
    · apply base64Digit_mem
    · apply base64Digit_mem
    · exact ih h

theorem dot_notMem_base64Digits (bytes : List Nat) : '.' ∉ base64Digits bytes :=
  fun h => absurd (mem_base64Digits h) (by decide)

/-- The padding that `openfga_object_id_part` takes off. -/
def base64Padding (bytes : List Nat) : List Char :=
  List.replicate ((3 - bytes.length % 3) % 3) '='

/-- `rstrip("=")` takes the padding off a full encoding, and nothing else. -/
theorem rdropWhile_padding (bytes : List Nat) :
    (base64Digits bytes ++ base64Padding bytes).rdropWhile (· == '=') = base64Digits bytes := by
  have hpadding : ∀ n, (base64Digits bytes ++ List.replicate n '=').rdropWhile (· == '=') =
      (base64Digits bytes).rdropWhile (· == '=') := by
    intro n
    induction n with
    | zero => rw [List.replicate_zero, List.append_nil]
    | succ n ih =>
      rw [List.replicate_succ', ← List.append_assoc, List.rdropWhile_concat_pos _ _ _ rfl, ih]
  rw [base64Padding, hpadding]
  apply List.rdropWhile_eq_self_iff.2
  intro hne heq
  have hmem := mem_base64Digits (List.getLast_mem hne)
  rw [eq_of_beq heq] at hmem
  exact absurd hmem (by decide)

/-- The digits determine the bytes. -/
theorem base64Digits_inj {xs ys : List Nat} (hx : ∀ b ∈ xs, b < 256) (hy : ∀ b ∈ ys, b < 256)
    (h : base64Digits xs = base64Digits ys) : xs = ys := by
  induction xs using base64Digits.induct generalizing ys with
  | case1 =>
    rcases ys with _ | ⟨a', _ | ⟨b', _ | ⟨c', ys⟩⟩⟩ <;> simp [base64Digits] at h ⊢
  | case2 a =>
    rcases ys with _ | ⟨a', _ | ⟨b', _ | ⟨c', ys⟩⟩⟩ <;> simp [base64Digits] at h ⊢
    have ha := hx a (by simp)
    have ha' := hy a' (by simp)
    have h₁ := base64Digit_inj (by omega) (by omega) h.1
    have h₂ := base64Digit_inj (by omega) (by omega) h.2
    omega
  | case3 a b =>
    rcases ys with _ | ⟨a', _ | ⟨b', _ | ⟨c', ys⟩⟩⟩ <;> simp [base64Digits] at h ⊢
    have ha := hx a (by simp)
    have hb := hx b (by simp)
    have ha' := hy a' (by simp)
    have hb' := hy b' (by simp)
    have h₁ := base64Digit_inj (by omega) (by omega) h.1
    have h₂ := base64Digit_inj (by omega) (by omega) h.2.1
    have h₃ := base64Digit_inj (by omega) (by omega) h.2.2
    omega
  | case4 a b c xs ih =>
    rcases ys with _ | ⟨a', _ | ⟨b', _ | ⟨c', ys⟩⟩⟩ <;> simp [base64Digits] at h ⊢
    have ha := hx a (by simp)
    have hb := hx b (by simp)
    have hc := hx c (by simp)
    have ha' := hy a' (by simp)
    have hb' := hy b' (by simp)
    have hc' := hy c' (by simp)
    have h₁ := base64Digit_inj (by omega) (by omega) h.1
    have h₂ := base64Digit_inj (by omega) (by omega) h.2.1
    have h₃ := base64Digit_inj (by omega) (by omega) h.2.2.1
    have h₄ := base64Digit_inj (by omega) (by omega) h.2.2.2.1
    have hrest : xs = ys := by
      apply ih
      · intro d hd
        exact hx d (by simp [hd])
      · intro d hd
        exact hy d (by simp [hd])
      · exact h.2.2.2.2
    exact ⟨by omega, by omega, by omega, hrest⟩

/-- Six digits encode four bytes; the last digit has four bits left over, which are zero, and those
of the letter `l` are not. -/
theorem base64Digits_ne_global (bytes : List Nat) : base64Digits bytes ≠ "global".toList := by
  intro h
  rcases bytes with _ | ⟨a, _ | ⟨b, _ | ⟨c, bytes⟩⟩⟩ <;> simp [base64Digits] at h
  rcases bytes with _ | ⟨d, _ | ⟨e, _ | ⟨f, bytes⟩⟩⟩ <;> simp [base64Digits] at h
  have hl : base64Digit 37 = 'l' := by decide
  have hlast := base64Digit_inj (by omega) (by omega) (h.2.2.2.2.2.trans hl.symm)
  omega

/-! ## Parts of names -/

theorem openfgaObjectIdPart_toList (text : String) : (openfgaObjectIdPart text).toList =
    base64Digits (text.toUTF8.data.toList.map UInt8.toNat) := String.toList_ofList

/-- The encoding of a text determines the text. -/
theorem openfgaObjectIdPart_injective : Function.Injective openfgaObjectIdPart := by
  intro s t h
  have hdigits := congrArg String.toList h
  rw [openfgaObjectIdPart_toList, openfgaObjectIdPart_toList] at hdigits
  have hbyte : ∀ text : String, ∀ b ∈ text.toUTF8.data.toList.map UInt8.toNat, b < 256 := by
    intro text b hb
    obtain ⟨u, -, rfl⟩ := List.mem_map.1 hb
    exact u.toNat_lt
  have hbytes := base64Digits_inj (hbyte s) (hbyte t) hdigits
  have hdata : s.toUTF8.data.toList = t.toUTF8.data.toList :=
    List.map_injective_iff.2 (fun _ _ => UInt8.toNat_inj.1) hbytes
  apply String.toByteArray_inj.1
  exact ByteArray.ext (Array.toList_inj.1 hdata)

theorem dot_notMem_openfgaObjectIdPart (text : String) :
    '.' ∉ (openfgaObjectIdPart text).toList := by
  rw [openfgaObjectIdPart_toList]
  apply dot_notMem_base64Digits

/-- No text is encoded as the word of the global object. -/
theorem openfgaObjectIdPart_ne_global (text : String) : openfgaObjectIdPart text ≠ "global" := by
  intro h
  apply base64Digits_ne_global (text.toUTF8.data.toList.map UInt8.toNat)
  rw [← openfgaObjectIdPart_toList, h]

/-! ## Names as texts -/

/-- The text of an object, `type:id`. -/
def objectName (object : Entity) : String := object.kind ++ ":" ++ object.id

/-- The type in the text of an object, what stands before the first colon. -/
def objectType (name : String) : String := String.ofList (name.toList.takeWhile (· != ':'))

/-- Where the first separator is known, both parts are read back. -/
theorem separated_inj {sep : Char} {a b c d : List Char} (ha : sep ∉ a) (hc : sep ∉ c)
    (h : a ++ sep :: b = c ++ sep :: d) : a = c ∧ b = d := by
  induction a generalizing c with
  | nil =>
    cases c with
    | nil => exact ⟨rfl, (List.cons.inj h).2⟩
    | cons y c => exact absurd (List.mem_cons.2 (.inl (List.cons.inj h).1)) hc
  | cons x a ih =>
    cases c with
    | nil => exact absurd (List.mem_cons.2 (.inl (List.cons.inj h).1.symm)) ha
    | cons y c =>
      obtain ⟨rfl, htail⟩ := List.cons.inj h
      obtain ⟨rfl, hb⟩ := ih (fun hm => ha (List.mem_cons_of_mem _ hm))
        (fun hm => hc (List.mem_cons_of_mem _ hm)) htail
      exact ⟨rfl, hb⟩

theorem objectName_toList (object : Entity) :
    (objectName object).toList = object.kind.toList ++ ':' :: object.id.toList := by
  rw [objectName, String.toList_append, String.toList_append, List.append_assoc]
  rfl

theorem dotted_toList (a b : String) : (a ++ "." ++ b).toList = a.toList ++ '.' :: b.toList := by
  rw [String.toList_append, String.toList_append, List.append_assoc]
  rfl

theorem objectName_inj {e f : Entity} (he : ':' ∉ e.kind.toList) (hf : ':' ∉ f.kind.toList)
    (h : objectName e = objectName f) : e.kind = f.kind ∧ e.id = f.id := by
  have hlist := congrArg String.toList h
  rw [objectName_toList, objectName_toList] at hlist
  obtain ⟨hkind, hid⟩ := separated_inj he hf hlist
  exact ⟨String.toList_inj.1 hkind, String.toList_inj.1 hid⟩

theorem objectType_objectName {e : Entity} (he : ':' ∉ e.kind.toList) :
    objectType (objectName e) = e.kind := by
  have hkind : ∀ c ∈ e.kind.toList, (c != ':') = true := by
    intro c hc
    rw [bne_iff_ne]
    rintro rfl
    exact he hc
  rw [objectType, objectName_toList, List.takeWhile_append_of_pos hkind,
    List.takeWhile_cons_of_neg (by decide), List.append_nil, String.ofList_toList]

theorem dotted_inj {a b c d : String} (ha : '.' ∉ a.toList) (hc : '.' ∉ c.toList)
    (h : a ++ "." ++ b = c ++ "." ++ d) : a = c ∧ b = d := by
  have hlist := congrArg String.toList h
  rw [dotted_toList, dotted_toList] at hlist
  obtain ⟨hfirst, hsecond⟩ := separated_inj ha hc hlist
  exact ⟨String.toList_inj.1 hfirst, String.toList_inj.1 hsecond⟩

/-! ## The objects of a permission code -/

/-- The objects that stand for a permission code. -/
inductive ObjectOf (permissionCode : String) : Entity → Prop
  | permission : ObjectOf permissionCode (openfgaPermissionObject permissionCode)
  | globalResource : ObjectOf permissionCode (openfgaGlobalResourcePermissionObject permissionCode)
  | resource (resourceId : String) :
      ObjectOf permissionCode (openfgaResourcePermissionObject permissionCode resourceId)

variable {p q r s : String} {e f : Entity}

theorem colon_notMem_permissionObjectType (p : String) :
    ':' ∉ (permissionObjectType p).toList := by
  unfold permissionObjectType
  split <;> decide

theorem colon_notMem_resourcePermissionObjectType (p : String) :
    ':' ∉ (resourcePermissionObjectType p).toList := by
  unfold resourcePermissionObjectType
  split <;> decide

theorem ObjectOf.colon_notMem (h : ObjectOf p e) : ':' ∉ e.kind.toList := by
  cases h with
  | permission => apply colon_notMem_permissionObjectType
  | globalResource => apply colon_notMem_resourcePermissionObjectType
  | resource r => apply colon_notMem_resourcePermissionObjectType

/-- The text of an object of a code determines its type and its id. -/
theorem ObjectOf.inj (he : ObjectOf p e) (hf : ObjectOf q f) (h : objectName e = objectName f) :
    e.kind = f.kind ∧ e.id = f.id :=
  objectName_inj he.colon_notMem hf.colon_notMem h

theorem ObjectOf.kind_of_guarded (h : ObjectOf p e) (hp : permissionRequiresCovenanter p = true) :
    e.kind = "guarded_permission" ∨ e.kind = "guarded_resource_permission" := by
  cases h with
  | permission => exact .inl (if_pos hp)
  | globalResource => exact .inr (if_pos hp)
  | resource r => exact .inr (if_pos hp)

theorem ObjectOf.kind_of_open (h : ObjectOf p e) (hp : permissionRequiresCovenanter p = false) :
    e.kind = "permission" ∨ e.kind = "resource_permission" := by
  have hp' : ¬ permissionRequiresCovenanter p = true := by rw [hp]; decide
  cases h with
  | permission => exact .inl (if_neg hp')
  | globalResource => exact .inr (if_neg hp')
  | resource r => exact .inr (if_neg hp')

/-- The type of an object says whether its code asks for a covenanter. -/
theorem ObjectOf.type_ne (he : ObjectOf p e) (hf : ObjectOf q f)
    (hp : permissionRequiresCovenanter p = true) (hq : permissionRequiresCovenanter q = false) :
    objectType (objectName e) ≠ objectType (objectName f) := by
  rw [objectType_objectName he.colon_notMem, objectType_objectName hf.colon_notMem]
  rcases he.kind_of_guarded hp with h₁ | h₁ <;> rcases hf.kind_of_open hq with h₂ | h₂ <;>
    rw [h₁, h₂] <;> decide

theorem resourceObject_inj (h : objectName (openfgaResourcePermissionObject p r) =
    objectName (openfgaResourcePermissionObject q s)) : p = q ∧ r = s := by
  have hid := ((ObjectOf.resource r).inj (.resource s) h).2
  obtain ⟨hcode, hresource⟩ := dotted_inj (dot_notMem_openfgaObjectIdPart p)
    (dot_notMem_openfgaObjectIdPart q) hid
  exact ⟨openfgaObjectIdPart_injective hcode, openfgaObjectIdPart_injective hresource⟩

/-- A resource never has the name of all resources. -/
theorem resourceObject_ne_global (p q r : String) :
    objectName (openfgaResourcePermissionObject p r) ≠
      objectName (openfgaGlobalResourcePermissionObject q) := by
  intro h
  have hid := ((ObjectOf.resource r).inj .globalResource h).2
  have hglobal : openfgaObjectIdPart q ++ ".global" = openfgaObjectIdPart q ++ "." ++ "global" := by
    rw [String.append_assoc]
    rfl
  change openfgaObjectIdPart p ++ "." ++ openfgaObjectIdPart r =
    openfgaObjectIdPart q ++ ".global" at hid
  rw [hglobal] at hid
  exact openfgaObjectIdPart_ne_global r (dotted_inj (dot_notMem_openfgaObjectIdPart p)
    (dot_notMem_openfgaObjectIdPart q) hid).2

theorem permissionObject_inj (h : objectName (openfgaPermissionObject p) =
    objectName (openfgaPermissionObject q)) : p = q :=
  (ObjectOf.permission.inj .permission h).2

/-- Names of objects never collide: a resource object determines its code and its resource and is
no global object, a permission object determines its code, and the codes that ask for a covenanter
have types of their own. -/
theorem objectNames_never_collide (p q r s : String) :
    (objectName (openfgaResourcePermissionObject p r) =
        objectName (openfgaResourcePermissionObject q s) → p = q ∧ r = s) ∧
      objectName (openfgaResourcePermissionObject p r) ≠
        objectName (openfgaGlobalResourcePermissionObject q) ∧
      (objectName (openfgaPermissionObject p) = objectName (openfgaPermissionObject q) → p = q) ∧
      ∀ e f, ObjectOf p e → ObjectOf q f → permissionRequiresCovenanter p = true →
        permissionRequiresCovenanter q = false →
          objectType (objectName e) ≠ objectType (objectName f) := by
  refine ⟨resourceObject_inj, resourceObject_ne_global p q r, permissionObject_inj, ?_⟩
  intro e f he hf hp hq
  exact he.type_ne hf hp hq

theorem objectNames_never_collide_village :
    objectType (objectName (openfgaResourcePermissionObject "finance.approve" "7")) ≠
      objectType (objectName (openfgaPermissionObject "tasks.publish")) :=
  (objectNames_never_collide "finance.approve" "tasks.publish" "7" "7").2.2.2 _ _ (.resource "7")
    .permission (by decide) (by decide)

example : objectName (openfgaResourcePermissionObject "finance.approve" "7") =
    "guarded_resource_permission:ZmluYW5jZS5hcHByb3Zl.Nw" := by decide +kernel

end LiveOs.Authorization
