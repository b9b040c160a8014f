import LiveOs.Files.Avatars
import LiveOs.Files.Verify.Attachments

/-!
# What avatars leave behind

Within a transaction only the member's profile changes and the deletion of the old object waits for
the commit; the new object is there before the transaction begins.
-/

namespace LiveOs.Files

open Lib EventLedger Roles Finance Service

variable {rt : Runtime} {files : FileRuntime} {env : FilesEnv} {worldId : String}
  {s s' : Site (FilesDb rt) Outside} {db db' db₁ : FilesDb rt} {p profile : MemberPublicProfile}

/-- The avatar key of the member's profile. -/
def avatarKeyOf (db : FilesDb rt) (memberPk : Nat) : String :=
  ((db.profiles.get? memberPk).map MemberPublicProfile.avatarKey).getD ""

/-- The profile has taken the place of the member's profile, where there was one. -/
structure ProfileReplaced (db db' : FilesDb rt) (p : MemberPublicProfile) : Prop where
  rows : ∀ q, q ∈ db'.profiles.rows ↔ q ∈ db.profiles.rows ∧ q.member ≠ p.member ∨ q = p
  attachments : db'.attachments = db.attachments

theorem getOrCreateProfile_ok {memberPk : Nat}
    (h : getOrCreateProfile memberPk db = .ok (profile, db')) : profile.member = memberPk ∧
      profile.avatarKey = avatarKeyOf db memberPk ∧ ProfileReplaced db db' profile := by
  unfold getOrCreateProfile at h
  split at h
  · rename_i found hget
    obtain ⟨rfl, rfl⟩ := Prod.mk.inj (Except.ok.inj h)
    obtain ⟨hmem, hmember⟩ := Table.get?_eq_some.1 hget
    refine ⟨hmember, by simp [avatarKeyOf, hget], fun q => ?_, rfl⟩
    constructor
    · intro hq
      by_cases hsame : q.member = found.member
      · exact .inr (db.profiles.eq_of_pk hq hmem hsame)
      · exact .inl ⟨hq, hsame⟩
    · rintro (⟨hq, -⟩ | rfl)
      · exact hq
      · exact hmem
  · rename_i hget
    obtain ⟨profiles, hinsert, h⟩ := bind_eq_ok.1 h
    obtain ⟨rfl, rfl⟩ := Prod.mk.inj (pure_eq_ok.1 h)
    obtain ⟨hrows, hfresh, -⟩ := Table.insert_ok hinsert
    refine ⟨rfl, by simp [avatarKeyOf, hget], fun q => ?_, rfl⟩
    rw [hrows, List.mem_append, List.mem_singleton]
    constructor
    · rintro (hq | rfl)
      · exact .inl ⟨hq, hfresh q hq⟩
      · exact .inr rfl
    · rintro (⟨hq, -⟩ | rfl)
      · exact .inl hq
      · exact .inr rfl

/-- Saving the avatar fields of a profile that was read or created in the same transaction. -/
theorem saveAvatarFields_ok {u : Unit} (h : saveAvatarFields p db₁ = .ok (u, db'))
    (hread : ProfileReplaced db db₁ profile) (hmember : p.member = profile.member)
    (hvisible : p.isVisible = profile.isVisible) : ProfileReplaced db db' p := by
  obtain ⟨-, h⟩ := rejectIf_bind_eq_ok.1 h
  obtain ⟨-, rfl⟩ := Prod.mk.inj (pure_eq_ok.1 h)
  refine ⟨fun q => ?_, hread.attachments⟩
  show q ∈ (db₁.profiles.rows.map _) ↔ _
  rw [List.mem_map]
  have hsaved : ({ profile with
      avatarKey := p.avatarKey
      avatarSha256 := p.avatarSha256
      avatarSize := p.avatarSize
      avatarUpdatedAt := p.avatarUpdatedAt } : MemberPublicProfile) = p := by
    cases p
    cases profile
    simp_all
  constructor
  · rintro ⟨r, hr, rfl⟩
    rcases (hread.rows r).1 hr with ⟨hold, hne⟩ | rfl
    · rw [← hmember] at hne
      rw [if_neg hne]
      exact .inl ⟨hold, hne⟩
    · rw [if_pos hmember.symm]
      exact .inr hsaved
  · rintro (⟨hold, hne⟩ | rfl)
    · exact ⟨q, (hread.rows q).2 (.inl ⟨hold, hmember ▸ hne⟩), if_neg hne⟩
    · exact ⟨profile, (hread.rows profile).2 (.inr rfl), (if_pos hmember.symm).trans hsaved⟩

/-- The callbacks that wait for the commit after the member's key was replaced. -/
def pending (worldId oldKey newKey : String) : List (Outside → Outside) :=
  if oldKey ≠ "" ∧ oldKey ≠ newKey then [deleteLogged worldId oldKey] else []

/-- The member's profile is the only change, and the old object waits for the commit. -/
structure Switching (worldId : String) (memberPk : Nat) (s s' : Site (FilesDb rt) Outside)
    (p : MemberPublicProfile) : Prop where
  member : p.member = memberPk
  replaced : ProfileReplaced s.db s'.db p
  outside : s'.outside = s.outside
  hooks : s'.hooks = s.hooks ++ pending worldId (avatarKeyOf s.db memberPk) p.avatarKey

theorem switchAvatar_meets {member : Member} {newKey : String} {processed : Sealed files}
    (hdepth : s.depth ≠ 0) :
    (switchAvatar env member worldId newKey processed).Meets s
      (fun p s' => Switching worldId member.pk s s' p ∧ p.avatarKey = newKey ∧
        p.avatarSha256 = processed.sha256 ∧ p.avatarSize = some processed.size)
      fun s' => s'.outside = s.outside := by
  refine meets_bind (R := fun profile s₁ => profile.member = member.pk ∧
    profile.avatarKey = avatarKeyOf s.db member.pk ∧ ProfileReplaced s.db s₁.db profile ∧
      s₁.outside = s.outside ∧ s₁.hooks = s.hooks ∧ s₁.depth = s.depth)
    (meets_onDb (fun profile db h => ?_) fun _ _ => rfl)
    fun profile s₁ ⟨hmember, hkey, hread, ho₁, hhooks₁, hdepth₁⟩ => ?_
  · obtain ⟨hmember, hkey, hread⟩ := getOrCreateProfile_ok h
    exact ⟨hmember, hkey, hread, rfl, rfl, rfl⟩
  refine meets_bind (R := fun _ s₂ => s₂ = s₁) (meets_check (fun _ _ => rfl) ho₁) fun _ s₂ h => ?_
  subst h
  refine meets_bind (R := fun _ s₃ => ProfileReplaced s.db s₃.db { profile with
      avatarKey := newKey
      avatarSha256 := processed.sha256
      avatarSize := some processed.size
      avatarUpdatedAt := some env.now } ∧ s₃.outside = s.outside ∧ s₃.hooks = s.hooks ∧
    s₃.depth = s.depth) (meets_onDb (fun _ db h => ?_) fun _ _ => ho₁)
    fun _ s₃ ⟨hreplaced, ho₃, hhooks₃, hdepth₃⟩ => ?_
  · exact ⟨saveAvatarFields_ok h hread rfl rfl, ho₁, hhooks₁, hdepth₁⟩
  split
  · rename_i hold
    refine meets_bind (R := fun _ s₄ => s₄.db = s₃.db ∧ s₄.outside = s.outside ∧
      s₄.hooks = s.hooks ++ [deleteLogged worldId profile.avatarKey])
      (meets_onCommit (by rw [hdepth₃]; exact hdepth) ⟨rfl, ho₃, by rw [hhooks₃]⟩)
      fun _ s₄ ⟨hdb₄, ho₄, hhooks₄⟩ => ?_
    refine meets_pure ⟨⟨hmember, hdb₄ ▸ hreplaced, ho₄, ?_⟩, rfl, rfl, rfl⟩
    rw [hhooks₄, pending, if_pos (hkey ▸ hold), hkey]
  · rename_i hold
    refine meets_pure ⟨⟨hmember, hreplaced, ho₃, ?_⟩, rfl, rfl, rfl⟩
    rw [hhooks₃, pending, if_neg (hkey ▸ hold), List.append_nil]

/-- `_remove_avatar` within its block. -/
theorem removeAvatar_meets {member : Member} :
    (removeAvatar env member worldId).Meets s
      (fun p s' => ∃ s₁, Switching worldId member.pk s s₁ p ∧ p.avatarKey = "" ∧ s' = s₁.close s)
      fun s' => s'.outside = s.outside ∧ s'.db = s.db := by
  refine meets_atomic (Meets.mono (Q := fun p s₁ => Switching worldId member.pk s s₁ p ∧
    p.avatarKey = "") (E := fun s₁ => s₁.outside = s.outside) ?_
    (fun p s₁ h => ⟨⟨s₁, h.1, h.2, rfl⟩, h.1.outside, rfl⟩) fun s₁ h => ⟨h, rfl⟩)
  refine meets_bind (R := fun profile s₁ => profile.member = member.pk ∧
    profile.avatarKey = avatarKeyOf s.db member.pk ∧ ProfileReplaced s.db s₁.db profile ∧
      s₁.outside = s.outside ∧ s₁.hooks = s.hooks ∧ s₁.depth = s.depth + 1)
    (meets_onDb (fun profile db h => ?_) fun _ _ => rfl)
    fun profile s₁ ⟨hmember, hkey, hread, ho₁, hhooks₁, hdepth₁⟩ => ?_
  · obtain ⟨hmember, hkey, hread⟩ := getOrCreateProfile_ok h
    exact ⟨hmember, hkey, hread, rfl, rfl, rfl⟩
  dsimp only
  split
  · rename_i hold
    refine meets_pure ⟨⟨hmember, hread, ho₁, ?_⟩, hold⟩
    rw [hhooks₁, pending, if_neg (fun h => h.1 (hkey ▸ hold)), List.append_nil]
  · rename_i hold
    refine meets_bind (R := fun _ s₂ => s₂ = s₁) (meets_check (fun _ _ => rfl) ho₁)
      fun _ s₂ h => ?_
    subst h
    refine meets_bind (R := fun _ s₃ => ProfileReplaced s.db s₃.db { profile with
        avatarKey := ""
        avatarSha256 := ""
        avatarSize := none
        avatarUpdatedAt := some env.now } ∧ s₃.outside = s.outside ∧ s₃.hooks = s.hooks ∧
      s₃.depth = s.depth + 1) (meets_onDb (fun _ db h => ?_) fun _ _ => ho₁)
      fun _ s₃ ⟨hreplaced, ho₃, hhooks₃, hdepth₃⟩ => ?_
    · exact ⟨saveAvatarFields_ok h hread rfl rfl, ho₁, hhooks₁, hdepth₁⟩
    refine meets_bind (R := fun _ s₄ => s₄.db = s₃.db ∧ s₄.outside = s.outside ∧
      s₄.hooks = s.hooks ++ [deleteLogged worldId profile.avatarKey])
      (meets_onCommit (by rw [hdepth₃]; exact Nat.succ_ne_zero _) ⟨rfl, ho₃, by rw [hhooks₃]⟩)
      fun _ s₄ ⟨hdb₄, ho₄, hhooks₄⟩ => ?_
    refine meets_pure ⟨⟨hmember, hdb₄ ▸ hreplaced, ho₄, ?_⟩, rfl⟩
    rw [hhooks₄, pending, if_pos ⟨hkey ▸ hold, hkey ▸ hold⟩, hkey]

/-! ## Whole calls -/

/-- The objects that a changed profile brings. -/
def AvatarAdded (files : FileRuntime) (store added : ObjectStore) (p : MemberPublicProfile) : Prop :=
  added = [] ∧ p.avatarKey = "" ∨ ∃ content, added = [(p.avatarKey, content)] ∧
    p.avatarKey ∉ store.keys ∧ p.avatarKey ≠ "" ∧ p.avatarSize = some content.length ∧
      p.avatarSha256 = files.sha256Hex content

/-- The member's profile and the avatar store have changed together. -/
structure AvatarChanged (files : FileRuntime) (memberPk : Nat) (s s' : Site (FilesDb rt) Outside)
    (p : MemberPublicProfile) : Prop where
  member : p.member = memberPk
  replaced : ProfileReplaced s.db s'.db p
  attachments : s'.outside.attachments = s.outside.attachments
  avatars : ∃ added, AvatarAdded files s.outside.avatars added p ∧ s'.outside.avatars =
    (s.outside.avatars ++ added).filter fun o => o.1 ≠ avatarKeyOf s.db memberPk

/-- Neither the database nor a store has changed. -/
structure Same (s s' : Site (FilesDb rt) Outside) : Prop where
  db : s'.db = s.db
  attachments : s'.outside.attachments = s.outside.attachments
  avatars : s'.outside.avatars = s.outside.avatars

/-- The key of the member's avatar is that of a stored object, which the gateway may delete. -/
structure Deletable (worldId : String) (s : Site (FilesDb rt) Outside) (memberPk : Nat) :
    Prop where
  named : "" ∉ s.outside.avatars.keys
  stored : avatarKeyOf s.db memberPk ≠ "" →
    avatarKeyOf s.db memberPk ∈ s.outside.avatars.keys ∧
      requireDeletableAvatarKey (avatarKeyOf s.db memberPk) worldId =
        .ok (avatarKeyOf s.db memberPk)

/-- What the callbacks do to a store that has no object without a key. -/
theorem pending_run {o : Outside} {oldKey newKey : String} (hnamed : "" ∉ o.avatars.keys)
    (hdelete : oldKey ≠ "" → requireDeletableAvatarKey oldKey worldId = .ok oldKey)
    (hne : oldKey ≠ "" → oldKey ≠ newKey) :
    (pending worldId oldKey newKey).foldl (fun o hook => hook o) o =
      { o with avatars := o.avatars.filter fun e => e.1 ≠ oldKey } := by
  by_cases hold : oldKey = ""
  · rw [pending, if_neg fun h => h.1 hold, List.foldl_nil, List.filter_eq_self.2]
    intro e he
    rw [decide_eq_true_eq, hold]
    exact fun hempty => hnamed (hempty ▸ List.mem_map_of_mem he)
  · rw [pending, if_pos ⟨hold, hne hold⟩, List.foldl_cons, List.foldl_nil, deleteLogged,
      hdelete hold]
    rfl

/-- Deleting the new object again. -/
theorem deleteLogged_added {o : Outside} {store : ObjectStore} {key : String} {content : Bytes}
    (hdelete : requireDeletableAvatarKey key worldId = .ok key) (hfresh : key ∉ store.keys)
    (hstore : o.avatars = store ++ [(key, content)]) :
    deleteLogged worldId key o = { o with avatars := store } := by
  have hkept : ∀ e ∈ store, e.1 ≠ key := fun e he hkey => hfresh (hkey ▸ List.mem_map_of_mem he)
  rw [deleteLogged, hdelete]
  simp only [ObjectStore.delete, hstore, List.filter_append]
  rw [List.filter_eq_self.2 fun e he => decide_eq_true (hkept e he)]
  simp

theorem saveProcessed_meets {uuid : Uuid} {content : Bytes} :
    (saveProcessed worldId uuid content : FileService rt String).Meets s
      (fun key s' => s' = { s with outside := { s.outside with
          avatars := s.outside.avatars ++ [(key, content)] } } ∧
        key ∉ s.outside.avatars.keys ∧ requireDeletableAvatarKey key worldId = .ok key ∧ key ≠ "")
      fun s' => s' = s := by
  refine meets_onOutside (fun key outside h => ?_) rfl
  obtain ⟨key', hkey, h⟩ := bind_eq_ok.1 h
  obtain ⟨avatars, hsave, h⟩ := bind_eq_ok.1 h
  obtain ⟨rfl, rfl⟩ := Prod.mk.inj (pure_eq_ok.1 h)
  obtain ⟨hfresh, rfl⟩ := ObjectStore.save_ok hsave
  exact ⟨rfl, hfresh, newAvatarKey_deletable hkey⟩

/-- The commit deletes the old object. -/
theorem Switching.commit {memberPk : Nat} (h : Switching worldId memberPk s s' p)
    (hhooks : s.hooks = []) (hnamed : "" ∉ s.outside.avatars.keys)
    (hdelete : avatarKeyOf s.db memberPk ≠ "" → requireDeletableAvatarKey
      (avatarKeyOf s.db memberPk) worldId = .ok (avatarKeyOf s.db memberPk))
    (hne : avatarKeyOf s.db memberPk ≠ "" → avatarKeyOf s.db memberPk ≠ p.avatarKey) :
    s'.committed.outside = { s.outside with
      avatars := s.outside.avatars.filter fun e => e.1 ≠ avatarKeyOf s.db memberPk } := by
  unfold Site.committed
  rw [h.hooks, hhooks, List.nil_append, h.outside]
  exact pending_run hnamed hdelete hne

/-- **Replacing an avatar.** -/
theorem replaceOwnAvatar_meets {member : Member} {upload : Upload} (hdepth : s.depth = 0)
    (hhooks : s.hooks = []) (hdeletable : Deletable worldId s member.pk) :
    (replaceOwnAvatar env files member worldId upload).Meets s
      (fun p s' => AvatarChanged files member.pk s s' p) (Same s) := by
  have hsame : Same s s := ⟨rfl, rfl, rfl⟩
  refine meets_bind (R := fun _ s₁ => s₁ = s) (meets_check (fun _ _ => rfl) hsame)
    fun processed s₁ h => ?_
  subst h
  refine meets_bind (meets_mapError (saveProcessed_meets.mono (fun _ _ h => h)
    fun s' h => h ▸ hsame)) fun newKey s₂ ⟨h₂, hfresh, hdelete, hne⟩ => ?_
  have hdb₂ : s₂.db = s₁.db := by rw [h₂]
  have hstore₂ : s₂.outside.avatars = s₁.outside.avatars ++ [(newKey, processed.content)] := by
    rw [h₂]
  have hattachments₂ : s₂.outside.attachments = s₁.outside.attachments := by rw [h₂]
  have hdepth₂ : s₂.depth = 0 := by rw [h₂]; exact hdepth
  have hhooks₂ : s₂.hooks = [] := by rw [h₂]; exact hhooks
  refine meets_onError (R := fun s' => s'.outside = s₂.outside ∧ s'.db = s₁.db)
    (meets_atomic ?_) fun s' hR => ?_
  · refine (switchAvatar_meets (Nat.succ_ne_zero _)).mono (fun p s' h => ?_)
      fun s' h => ⟨h, hdb₂⟩
    obtain ⟨hswitch, rfl, hsha, hsize⟩ := h
    refine ⟨?_, hswitch.outside, hdb₂⟩
    have hcommit := hswitch.commit hhooks₂ ?_ ?_ ?_
    · unfold Site.close
      rw [if_pos hdepth₂]
      refine ⟨hswitch.member, hdb₂ ▸ hswitch.replaced, ?_,
        [(p.avatarKey, processed.content)], .inr ⟨_, rfl, hfresh, hne, ?_, ?_⟩, ?_⟩
      · rw [hcommit]
        exact hattachments₂
      · rw [hsize, processed.sealed.2]
      · rw [hsha, processed.sealed.1]
      · rw [hcommit, ← hdb₂, ← hstore₂]
    · rw [hstore₂, ObjectStore.keys_append, List.mem_append]
      rintro (hempty | hempty)
      · exact hdeletable.named hempty
      · exact hne (List.mem_singleton.1 hempty).symm
    · rw [hdb₂]
      exact fun hold => (hdeletable.stored hold).2
    · rw [hdb₂]
      exact fun hold heq => hfresh (heq ▸ (hdeletable.stored hold).1)
  · obtain ⟨ho, hdb⟩ := hR
    have hundone := deleteLogged_added (o := s'.outside) hdelete hfresh (by rw [ho, hstore₂])
    exact meets_sure rfl ⟨hdb, by rw [hundone, ho]; exact hattachments₂, by rw [hundone]⟩

/-- A removal that is committed. -/
theorem Switching.removed {memberPk : Nat} (h : Switching worldId memberPk s s' p)
    (hkey : p.avatarKey = "") (hhooks : s.hooks = []) (hdeletable : Deletable worldId s memberPk) :
    AvatarChanged files memberPk s s'.committed p := by
  have hcommit := h.commit hhooks hdeletable.named (fun hold => (hdeletable.stored hold).2)
    fun hold => by rwa [hkey]
  refine ⟨h.member, h.replaced, by rw [hcommit], [], .inl ⟨rfl, hkey⟩, ?_⟩
  rw [hcommit, List.append_nil]

/-- **Removing one's avatar.** -/
theorem removeOwnAvatar_meets {member : Member} (hdepth : s.depth = 0) (hhooks : s.hooks = [])
    (hdeletable : Deletable worldId s member.pk) :
    (removeOwnAvatar env member worldId).Meets s
      (fun p s' => AvatarChanged files member.pk s s' p) (Same s) := by
  refine removeAvatar_meets.mono (fun p s' h => ?_) fun s' h => ⟨h.2, by rw [h.1], by rw [h.1]⟩
  obtain ⟨s₁, hswitch, hkey, rfl⟩ := h
  unfold Site.close
  rw [if_pos hdepth]
  exact hswitch.removed hkey hhooks hdeletable

theorem createInternalEvent_ok {event : InternalEvent} {u : Unit}
    (h : createInternalEvent event db = .ok (u, db')) :
    db'.profiles = db.profiles ∧ db'.attachments = db.attachments := by
  obtain ⟨internalEvents, -, h⟩ := bind_eq_ok.1 h
  obtain ⟨-, rfl⟩ := Prod.mk.inj (pure_eq_ok.1 h)
  exact ⟨rfl, rfl⟩

/-- **Removing another's avatar.** The event is written after the inner block, so the deletion
still waits for the outer one. -/
theorem removeAvatarAsAdministrator_meets {actor target : Member} (hdepth : s.depth = 0)
    (hhooks : s.hooks = []) (hdeletable : Deletable worldId s target.pk) :
    (removeAvatarAsAdministrator env actor target worldId).Meets s
      (fun p s' => AvatarChanged files target.pk s s' p) (Same s) := by
  have hsame : Same s s := ⟨rfl, rfl, rfl⟩
  refine meets_bind (R := fun _ s₁ => s₁ = s) (meets_check (fun _ _ => rfl) hsame) fun _ s₁ h => ?_
  subst h
  refine meets_atomic ?_
  have hrolled : ∀ s' : Site (FilesDb rt) Outside, s'.outside = s₁.outside →
      Same s₁ (s'.rollback s₁) := fun s' h =>
    ⟨rfl, congrArg Outside.attachments h, congrArg Outside.avatars h⟩
  refine meets_bind (removeAvatar_meets.mono (fun _ _ h => h) fun s' h => hrolled s' h.1)
    fun p s₂ h => ?_
  obtain ⟨s₃, hswitch, hkey, hclosed⟩ := h
  have houtside : s₂.outside = s₁.outside := by
    rw [hclosed, Site.close, if_neg (Nat.succ_ne_zero _)]
    exact hswitch.outside
  refine meets_bind (R := fun _ s₄ => s₄.outside = s₂.outside ∧ s₄.hooks = s₂.hooks ∧
    s₄.db.profiles = s₂.db.profiles ∧ s₄.db.attachments = s₂.db.attachments)
    (meets_onDb (fun _ db h => ⟨rfl, rfl, createInternalEvent_ok h⟩)
      fun _ _ => hrolled _ houtside) fun _ s₄ ⟨ho₄, hhooks₄, hprofiles, hattachments⟩ => ?_
  refine meets_pure ⟨?_, hrolled s₄ (ho₄.trans houtside)⟩
  have hswitch₄ : Switching worldId target.pk s₁ s₄ p := by
    rw [Site.close, if_neg (Nat.succ_ne_zero _)] at hclosed
    refine ⟨hswitch.member, ⟨fun q => ?_, ?_⟩, ho₄.trans houtside, ?_⟩
    · rw [hprofiles, hclosed]
      exact hswitch.replaced.rows q
    · rw [hattachments, hclosed]
      exact hswitch.replaced.attachments
    · rw [hhooks₄, hclosed]
      exact hswitch.hooks
  unfold Site.close
  rw [if_pos hdepth]
  exact hswitch₄.removed hkey hhooks hdeletable

end LiveOs.Files
