import LiveOs.Files.Attachments

/-!
# Avatars

`core/avatar_services.py`: the new object is stored before the profile is changed and deleted again
when that fails; the old object is deleted after the commit. The command that moves avatars out of
the old layout goes the same way for one profile after another.
-/

namespace LiveOs.Files

open Lib EventLedger Roles Finance

variable {rt : Runtime} {files : FileRuntime}

/-- `MemberPublicProfile.objects.select_for_update().get_or_create(...)`. -/
def getOrCreateProfile (memberPk : Nat) (db : FilesDb rt) :
    Except Error (MemberPublicProfile × FilesDb rt) :=
  match db.profiles.get? memberPk with
  | some profile => .ok (profile, db)
  | none => do
    let profile : MemberPublicProfile := ⟨memberPk, "", "", none, none, true⟩
    let profiles ← db.profiles.insert profile .integrity
    return (profile, { db with profiles := profiles })

/-- `MemberPublicProfile.clean()`. -/
def MemberPublicProfile.clean (p : MemberPublicProfile) : Except Error Unit :=
  let values := [!decide (p.avatarKey = ""), !decide (p.avatarSha256 = ""), p.avatarSize.isSome]
  rejectIf (values.any id && !values.all id)
    (.validation "头像对象标识、SHA-256 和字节数必须同时存在或同时为空。")

/-- `profile.save(update_fields=[...])`. -/
def saveAvatarFields (p : MemberPublicProfile) (db : FilesDb rt) :
    Except Error (Unit × FilesDb rt) := do
  rejectIf (db.profiles.get? p.member).isNone
    (.runtime "Save with update_fields did not affect any rows.")
  return ((), { db with
    profiles := db.profiles.modify p.member (fun q => { q with
      avatarKey := p.avatarKey
      avatarSha256 := p.avatarSha256
      avatarSize := p.avatarSize
      avatarUpdatedAt := p.avatarUpdatedAt }) (fun _ => rfl) fun _ => rfl })

/-- `gateway.save_processed(world_id=world_id, content=content)`. -/
def saveProcessed (worldId : String) (uuid : Uuid) (content : Bytes) : FileService rt String :=
  Service.onOutside fun o => do
    let key ← newAvatarKey worldId uuid
    let avatars ← o.avatars.save key content
      (.runtime "Storage backend changed the non-colliding avatar key.")
    return (key, { o with avatars := avatars })

/-- `gateway.delete_current(key, world_id=world_id)`, where what it raises is logged: the handler of
`replace_own_avatar` and `_delete_after_commit`. -/
def deleteLogged (worldId key : String) (o : Outside) : Outside :=
  match requireDeletableAvatarKey key worldId with
  | .ok key => { o with avatars := o.avatars.delete key }
  | .error _ => o

/-- The block of `replace_own_avatar`. -/
def switchAvatar (env : FilesEnv) (member : Member) (worldId newKey : String)
    (processed : Sealed files) : FileService rt MemberPublicProfile := do
  let profile ← Service.onDb (getOrCreateProfile member.pk)
  let oldKey := profile.avatarKey
  let profile := { profile with
    avatarKey := newKey
    avatarSha256 := processed.sha256
    avatarSize := some processed.size
    avatarUpdatedAt := some env.now }
  Service.check profile.clean
  Service.onDb (saveAvatarFields profile)
  if oldKey ≠ "" ∧ oldKey ≠ newKey then Service.onCommit (deleteLogged worldId oldKey)
  return profile

/-- `replace_own_avatar(...)`. -/
def replaceOwnAvatar (env : FilesEnv) (files : FileRuntime) (member : Member) (worldId : String)
    (upload : Upload) : FileService rt MemberPublicProfile := do
  let processed ← Service.check (processAvatar files upload)
  let newKey ← Service.mapError (fun _ => .domain "头像存储失败，请稍后重试。")
    (saveProcessed worldId (env.uuid 0) processed.content)
  Service.onError (Service.atomic (switchAvatar env member worldId newKey processed))
    (Service.sure fun o => .ok (deleteLogged worldId newKey o))

/-- `_remove_avatar(...)`. -/
def removeAvatar (env : FilesEnv) (member : Member) (worldId : String) :
    FileService rt MemberPublicProfile :=
  Service.atomic do
    let profile ← Service.onDb (getOrCreateProfile member.pk)
    let oldKey := profile.avatarKey
    if oldKey = "" then return profile
    else
      let profile := { profile with
        avatarKey := ""
        avatarSha256 := ""
        avatarSize := none
        avatarUpdatedAt := some env.now }
      Service.check profile.clean
      Service.onDb (saveAvatarFields profile)
      Service.onCommit (deleteLogged worldId oldKey)
      return profile

/-- `remove_own_avatar(...)`. -/
def removeOwnAvatar (env : FilesEnv) (member : Member) (worldId : String) :
    FileService rt MemberPublicProfile :=
  removeAvatar env member worldId

def governanceManagePeoplePermission : String := "governance.manage_people"

/-- The event that `remove_avatar_as_administrator` creates. -/
def avatarRemovedEvent (env : FilesEnv) (actor target : Member) : InternalEvent where
  eventId := "evt-avatar-" ++ (env.uuid 0).hex
  title := "违规头像已移除"
  summary := "维护人员 " ++ actor.memberNo ++ " 已移除成员 " ++ target.memberNo ++ " 的当前头像。"
  involvedMemberIds := [actor.memberNo, target.memberNo]
  payload := [
    ("action", .str "member_avatar_removed"),
    ("actor_member_no", .str actor.memberNo),
    ("target_member_no", .str target.memberNo)]

/-- `Event.objects.create(...)`. -/
def createInternalEvent (event : InternalEvent) (db : FilesDb rt) :
    Except Error (Unit × FilesDb rt) := do
  let internalEvents ← db.internalEvents.insert event .integrity
  return ((), { db with internalEvents := internalEvents })

/-- `remove_avatar_as_administrator(...)`. -/
def removeAvatarAsAdministrator (env : FilesEnv) (actor target : Member) (worldId : String) :
    FileService rt MemberPublicProfile := do
  Service.check (rejectIf (!env.permits actor.pk governanceManagePeoplePermission)
    (.domain "你没有移除其他成员头像的权限。"))
  Service.atomic do
    let profile ← removeAvatar env target worldId
    Service.onDb (createInternalEvent (avatarRemovedEvent env actor target))
    return profile

/-! ## Leaving the old layout -/

/-- What a maintenance command raises. -/
inductive MaintenanceError where
  | command (message : String)
  | raised (e : Error)
deriving DecidableEq

/-- `storages["avatar_legacy_current"]` and `storages["avatars"]`. -/
structure AvatarStores where
  legacy : ObjectStore
  current : ObjectStore

abbrev LayoutService := Service MaintenanceError ProfileTable AvatarStores

/-- A check of the services beneath the command. -/
def raising {α : Type} (x : Except Error α) : LayoutService α :=
  Service.check (x.mapError .raised)

/-- `storage.open(key, "rb")` and `handle.read()`. -/
def openObject (storage : AvatarStores → ObjectStore) (key : String) : LayoutService Bytes :=
  Service.onOutside fun o =>
    match (storage o).read? key with
    | none => .error (.raised (.doesNotExist key))
    | some content => .ok (content, o)

/-- `storage.exists(key)`. -/
def objectExists (storage : AvatarStores → ObjectStore) (key : String) : LayoutService Bool :=
  Service.onOutside fun o => .ok ((storage o).exists key, o)

/-- The object of the old layout, once it agrees with the profile. -/
def readLegacy (sha256Hex : Bytes → String) (profile : MemberPublicProfile) :
    LayoutService Bytes := do
  let found ← objectExists AvatarStores.legacy profile.avatarKey
  Service.check (rejectIf (found = false) (.command "旧头像对象缺失，已停止迁移。"))
  let content ← openObject AvatarStores.legacy profile.avatarKey
  Service.check (rejectIf (profile.avatarSize.any fun size => size ≠ content.length)
    (.command "旧头像对象大小与数据库不一致，已停止迁移。"))
  Service.check (rejectIf
    (profile.avatarSha256 ≠ "" ∧ sha256Hex content ≠ profile.avatarSha256)
    (.command "旧头像对象哈希与数据库不一致，已停止迁移。"))
  return content

/-- `target_storage.save(new_key, ContentFile(content))` and the check of the key. -/
def saveTarget (newKey : String) (content : Bytes) : LayoutService Unit :=
  Service.onOutside fun o =>
    if newKey ∈ o.current.keys then .error (.command "存储后端改变了迁移目标 key。")
    else .ok ((), { o with current := o.current ++ [(newKey, content)] })

/-- The object under the new key, with whether it was created. -/
def ensureTarget (sha256Hex : Bytes → String) (newKey : String) (content : Bytes) :
    LayoutService Bool := do
  let found ← objectExists AvatarStores.current newKey
  if found = true then
    let stored ← openObject AvatarStores.current newKey
    Service.check (rejectIf (sha256Hex stored ≠ sha256Hex content)
      (.command "目标头像对象已存在但内容不一致。"))
    return false
  else
    saveTarget newKey content
    return true

/-- `locked.save(update_fields=["avatar_key", "updated_at"])`. -/
def saveAvatarKey (member : Nat) (newKey : String) (profiles : ProfileTable) : ProfileTable :=
  profiles.modify member (fun q => { q with avatarKey := newKey }) (fun _ => rfl) fun _ => rfl

/-- The block that switches the reference. -/
def switchReference (member : Nat) (oldKey newKey : String) : LayoutService Unit :=
  Service.atomic do
    let locked ← Service.query fun profiles =>
      match profiles.get? member with
      | none => .error (.raised (.doesNotExist "MemberPublicProfile"))
      | some locked => .ok locked
    Service.check (rejectIf (locked.avatarKey ≠ oldKey) (.command "头像引用在迁移期间发生变化。"))
    Service.onDb fun profiles => .ok ((), saveAvatarKey member newKey profiles)

/-- `target_storage.delete(new_key)` in the handler, which may raise itself. -/
def compensate (createdNew : Bool) (newKey : String) : LayoutService Unit :=
  if createdNew = true then
    Service.onOutside fun o => .ok ((), { o with current := o.current.delete newKey })
  else pure ()

/-- The body of the loop of `_migrate`. -/
def migrateProfile (sha256Hex : Bytes → String) (worldId : String)
    (profile : MemberPublicProfile) : LayoutService Unit := do
  let newKey ← raising (migrateLegacyAvatarKey profile.avatarKey worldId)
  let content ← readLegacy sha256Hex profile
  let createdNew ← ensureTarget sha256Hex newKey content
  Service.onError (switchReference profile.member profile.avatarKey newKey)
    (compensate createdNew newKey)
  Service.onOutside fun o => .ok ((), { o with legacy := o.legacy.delete profile.avatarKey })

/-- `filter(avatar_key__startswith=legacy_avatar_prefix(world_id))`. -/
def legacyProfiles (legacyPrefix : String) (profiles : ProfileTable) : List MemberPublicProfile :=
  profiles.rows.filter fun p => legacyPrefix.toList.isPrefixOf p.avatarKey.toList

/-- `_migrate(world_id, apply=apply)`, with `candidates` and `migrated` of its report. -/
def migrate (sha256Hex : Bytes → String) (worldId : String) (apply : Bool) :
    LayoutService (Nat × Nat) := do
  let legacyPrefix ← raising (legacyAvatarPrefix worldId)
  let profiles ← Service.query fun table => .ok (legacyProfiles legacyPrefix table)
  if apply = true then
    Service.forEach (migrateProfile sha256Hex worldId) profiles
    return (profiles.length, profiles.length)
  else return (profiles.length, 0)

/-- What is left after a run of the command, whether it returned or raised. -/
def afterMigration (sha256Hex : Bytes → String) (worldId : String)
    (s : Site ProfileTable AvatarStores)
    (call : Bool × Faults MaintenanceError ProfileTable) : Site ProfileTable AvatarStores :=
  (migrate sha256Hex worldId call.1 call.2 s).2.2

end LiveOs.Files
