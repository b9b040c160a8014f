import LiveOs.Lib.Runs
import LiveOs.Runtime
import Mathlib.Data.List.Infix

/-!
# Object keys and object stores

`core/file_storage/keys.py` and what the gateways of `core/file_storage` do to a store.
-/

namespace LiveOs.Files

open Lib

abbrev Bytes := List UInt8

/-- `uuid4().hex`. -/
structure Uuid where
  hex : String
  digits : ∀ c ∈ hex.toList, c ∈ "0123456789abcdef".toList
  length : hex.toList.length = 32

/-! ## Keys -/

/-- `WORLD_ID_PATTERN.fullmatch(value)`. -/
def isWorldId (value : String) : Bool :=
  match value.toList with
  | [] => false
  | c :: cs => c.isAlphanum && cs.all (fun c => c.isAlphanum || c = '_' || c = '-') && cs.length ≤ 95

/-- `require_safe_world_id(world_id)`. -/
def requireSafeWorldId (worldId : String) : Except Error String := do
  rejectIf (!isWorldId worldId) (.domain "无效的 world 标识。")
  return worldId

/-- `avatar_prefix(world_id)`. -/
def avatarPrefix (worldId : String) : Except Error String := do
  let worldId ← requireSafeWorldId worldId
  return worldId ++ "/runtime/current-assets/avatars/"

/-- `business_attachment_prefix(world_id)`. -/
def businessAttachmentPrefix (worldId : String) : Except Error String := do
  let worldId ← requireSafeWorldId worldId
  return worldId ++ "/runtime/permanent-attachments/"

/-- `new_business_attachment_key(world_id)`. -/
def newBusinessAttachmentKey (worldId : String) (uuid : Uuid) : Except Error String := do
  let expected ← businessAttachmentPrefix worldId
  return expected ++ uuid.hex

/-- `new_avatar_key(world_id)`. -/
def newAvatarKey (worldId : String) (uuid : Uuid) : Except Error String := do
  let expected ← avatarPrefix worldId
  return expected ++ uuid.hex ++ ".webp"

/-- The checks that `require_business_attachment_key` and `require_deletable_avatar_key` share: a
plain name directly under the prefix. -/
def requireKeyUnder (expected key : String) (foreign invalid : Error) : Except Error String := do
  rejectIf (!expected.toList.isPrefixOf key.toList || decide (['.', '.'] <:+: key.toList) ||
    key.toList.contains '\\') foreign
  let suffix := key.toList.drop expected.toList.length
  rejectIf (suffix.isEmpty || suffix.contains '/') invalid
  return key

/-- `require_business_attachment_key(key, world_id=world_id)`. -/
def requireBusinessAttachmentKey (key worldId : String) : Except Error String := do
  let expected ← businessAttachmentPrefix worldId
  requireKeyUnder expected key (.domain "附件 key 不属于当前 world 的业务附件生命周期。")
    (.domain "无效的业务附件对象 key。")

/-- `require_deletable_avatar_key(key, world_id=world_id)`. -/
def requireDeletableAvatarKey (key worldId : String) : Except Error String := do
  let expected ← avatarPrefix worldId
  requireKeyUnder expected key (.domain "拒绝删除不属于当前 world 头像生命周期的对象。")
    (.domain "无效的头像对象 key。")

/-! ## Stores -/

/-- The objects of a storage, with their keys. -/
abbrev ObjectStore := List (String × Bytes)

def ObjectStore.keys (store : ObjectStore) : List String := store.map Prod.fst

/-- `storage.save(key, content)` with the gateways' check: a backend gives an object whose key is
taken another key, and the gateway deletes that object again. -/
def ObjectStore.save (store : ObjectStore) (key : String) (content : Bytes) (changed : Error) :
    Except Error ObjectStore := do
  rejectIf (key ∈ store.keys) changed
  return store ++ [(key, content)]

/-- `storage.delete(key)`. -/
def ObjectStore.delete (store : ObjectStore) (key : String) : ObjectStore :=
  store.filter fun o => o.1 ≠ key

/-! ## Generated keys -/

/-- Two dots behind a text without dots are two dots of what follows it. -/
theorem dots_infix_append {front rest : List Char} (hfront : ∀ c ∈ front, c ≠ '.')
    (h : ['.', '.'] <:+: front ++ rest) : ['.', '.'] <:+: rest := by
  induction front with
  | nil => exact h
  | cons c front ih =>
    rw [List.cons_append, List.infix_cons_iff] at h
    rcases h with h | h
    · exact absurd (List.cons_prefix_cons.1 h).1.symm (hfront c List.mem_cons_self)
    · exact ih (fun d hd => hfront d (List.mem_cons_of_mem _ hd)) h

/-- A plain name under a prefix without dots and backslashes passes. -/
theorem requireKeyUnder_append {expected name : String} {foreign invalid : Error}
    (hexpected : ∀ c ∈ expected.toList, c ≠ '.' ∧ c ≠ '\\') (hne : name ≠ "")
    (hname : ∀ c ∈ name.toList, c ≠ '\\' ∧ c ≠ '/') (hdots : ¬ ['.', '.'] <:+: name.toList) :
    requireKeyUnder expected (expected ++ name) foreign invalid = .ok (expected ++ name) := by
  have hlist : (expected ++ name).toList = expected.toList ++ name.toList := String.toList_append ..
  have hnodots : ¬ ['.', '.'] <:+: expected.toList ++ name.toList := fun h =>
    hdots (dots_infix_append (fun c hc => (hexpected c hc).1) h)
  have hslash : '\\' ∉ expected.toList ++ name.toList := by
    intro h
    rcases List.mem_append.1 h with h | h
    · exact (hexpected _ h).2 rfl
    · exact (hname _ h).1 rfl
  have hplain : '/' ∉ name.toList := fun h => (hname _ h).2 rfl
  unfold requireKeyUnder
  rw [hlist]
  refine rejectIf_bind_eq_ok.2 ⟨?_, rejectIf_bind_eq_ok.2 ⟨?_, rfl⟩⟩
  · simpa using ⟨hnodots, not_or.1 fun h => hslash (List.mem_append.2 h)⟩
  · simpa using ⟨hne, hplain⟩

theorem Uuid.plain (uuid : Uuid) : uuid.hex ≠ "" ∧
    ∀ c ∈ uuid.hex.toList, c ≠ '.' ∧ c ≠ '\\' ∧ c ≠ '/' := by
  constructor
  · intro h
    have hlength := uuid.length
    rw [h] at hlength
    exact absurd hlength (by decide)
  · intro c hc
    have hdigit := uuid.digits c hc
    refine ⟨?_, ?_, ?_⟩ <;> rintro rfl <;> exact absurd hdigit (by decide)

/-- A world id contains neither dots nor backslashes. -/
theorem isWorldId_plain {worldId : String} (h : isWorldId worldId = true) :
    ∀ c ∈ worldId.toList, c ≠ '.' ∧ c ≠ '\\' := by
  unfold isWorldId at h
  split at h
  · cases h
  · rename_i c cs hlist
    simp only [Bool.and_eq_true, List.all_eq_true] at h
    intro d hd
    rw [hlist] at hd
    rcases List.mem_cons.1 hd with rfl | hd
    · constructor <;> rintro rfl <;> exact absurd h.1.1 (by decide)
    · have hall := h.1.2 d hd
      constructor <;> rintro rfl <;> exact absurd hall (by decide)

/-- The keys of a world start with its id and a fixed path. -/
theorem worldPath_ok {worldId path expected : String}
    (hpath : ∀ c ∈ path.toList, c ≠ '.' ∧ c ≠ '\\')
    (h : (do return (← requireSafeWorldId worldId) ++ path) = Except.ok expected) :
    ∀ c ∈ expected.toList, c ≠ '.' ∧ c ≠ '\\' := by
  obtain ⟨w, hsafe, h⟩ := bind_eq_ok.1 h
  obtain rfl := pure_eq_ok.1 h
  obtain ⟨hworld, hw⟩ := rejectIf_bind_eq_ok.1 hsafe
  obtain rfl := pure_eq_ok.1 hw
  intro c hc
  rw [String.toList_append] at hc
  rcases List.mem_append.1 hc with hc | hc
  · exact isWorldId_plain (by simpa using hworld) c hc
  · exact hpath c hc

theorem businessAttachmentPrefix_ok {worldId expected : String}
    (h : businessAttachmentPrefix worldId = .ok expected) :
    ∀ c ∈ expected.toList, c ≠ '.' ∧ c ≠ '\\' := by
  refine worldPath_ok (fun c hc => ?_) h
  constructor <;> rintro rfl <;> exact absurd hc (by decide)

theorem avatarPrefix_ok {worldId expected : String} (h : avatarPrefix worldId = .ok expected) :
    ∀ c ∈ expected.toList, c ≠ '.' ∧ c ≠ '\\' := by
  refine worldPath_ok (fun c hc => ?_) h
  constructor <;> rintro rfl <;> exact absurd hc (by decide)

/-- A generated attachment key may be deleted in its world. -/
theorem newBusinessAttachmentKey_deletable {worldId key : String} {uuid : Uuid}
    (h : newBusinessAttachmentKey worldId uuid = .ok key) :
    requireBusinessAttachmentKey key worldId = .ok key := by
  obtain ⟨expected, hunder, h⟩ := bind_eq_ok.1 h
  obtain rfl := pure_eq_ok.1 h
  obtain ⟨hne, hplain⟩ := uuid.plain
  unfold requireBusinessAttachmentKey
  rw [hunder]
  refine requireKeyUnder_append (businessAttachmentPrefix_ok hunder) hne
    (fun c hc => (hplain c hc).2) fun h => ?_
  exact (hplain '.' (h.subset List.mem_cons_self)).1 rfl

/-- A generated avatar key may be deleted in its world, and is not empty. -/
theorem newAvatarKey_deletable {worldId key : String} {uuid : Uuid}
    (h : newAvatarKey worldId uuid = .ok key) :
    requireDeletableAvatarKey key worldId = .ok key ∧ key ≠ "" := by
  obtain ⟨expected, hunder, h⟩ := bind_eq_ok.1 h
  obtain rfl := pure_eq_ok.1 h
  obtain ⟨hne, hplain⟩ := uuid.plain
  have hname : (uuid.hex ++ ".webp").toList = uuid.hex.toList ++ ".webp".toList :=
    String.toList_append ..
  have hkey : requireDeletableAvatarKey (expected ++ (uuid.hex ++ ".webp")) worldId =
      .ok (expected ++ (uuid.hex ++ ".webp")) := by
    unfold requireDeletableAvatarKey
    rw [hunder]
    refine requireKeyUnder_append (avatarPrefix_ok hunder) (by simp [hne]) ?_ fun h => ?_
    · intro c hc
      rw [hname] at hc
      rcases List.mem_append.1 hc with hc | hc
      · exact (hplain c hc).2
      · constructor <;> rintro rfl <;> exact absurd hc (by decide)
    · rw [hname] at h
      exact absurd (dots_infix_append (fun c hc => (hplain c hc).1) h) (by decide)
  rw [String.append_assoc]
  refine ⟨hkey, fun hempty => hne ?_⟩
  simp only [String.append_eq_empty_iff] at hempty
  exact hempty.2.1

/-! ## The old layout of avatars -/

/-- `legacy_avatar_prefix(world_id)`. -/
def legacyAvatarPrefix (worldId : String) : Except Error String := do
  let worldId ← requireSafeWorldId worldId
  return "worlds/" ++ worldId ++ "/current-assets/avatars/"

/-- `migrate_legacy_avatar_key(key, world_id=world_id)`. -/
def migrateLegacyAvatarKey (key worldId : String) : Except Error String := do
  let legacyPrefix ← legacyAvatarPrefix worldId
  let value ← requireKeyUnder legacyPrefix key (.domain "头像 key 不属于指定 world 的旧布局。")
    (.domain "无效的旧头像对象 key。")
  let expected ← avatarPrefix worldId
  return expected ++ String.ofList (value.toList.drop legacyPrefix.toList.length)

/-- `storage.exists(key)`. -/
def ObjectStore.exists (store : ObjectStore) (key : String) : Bool := decide (key ∈ store.keys)

/-- The content of the object with the given key. -/
def ObjectStore.read? (store : ObjectStore) (key : String) : Option Bytes :=
  (store.find? fun o => o.1 = key).map Prod.snd

end LiveOs.Files
