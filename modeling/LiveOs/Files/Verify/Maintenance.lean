import LiveOs.Files.Verify.Avatars
import Mathlib.Logic.Relation

/-!
# Leaving the old layout

What the migration of one profile may leave, wherever it stops: the object may have been copied, the
reference switched to the copy, and the old object deleted, in this order. So no avatar is lost by
any sequence of interrupted runs, and a run that nothing disturbs leaves no profile behind.
-/

namespace LiveOs.Files

open Lib Service Relation

variable {sha256Hex : Bytes → String} {worldId key oldKey newKey : String} {content : Bytes}
  {store : ObjectStore} {s s' s₁ s₂ : Site ProfileTable AvatarStores} {p q : MemberPublicProfile}
  {member : Nat}

/-! ## Keys -/

/-- The key belongs to the old layout of the world. -/
def isLegacyKey (worldId key : String) : Bool :=
  match legacyAvatarPrefix worldId with
  | .ok legacyPrefix => legacyPrefix.toList.isPrefixOf key.toList
  | .error _ => false

/-- A world id has no slash. -/
theorem isWorldId_noSlash (h : isWorldId worldId = true) : '/' ∉ worldId.toList := by
  unfold isWorldId at h
  split at h
  · cases h
  · rename_i c cs hlist
    simp only [Bool.and_eq_true, List.all_eq_true] at h
    rw [hlist]
    intro hmem
    rcases List.mem_cons.1 hmem with hc | hc
    · exact absurd (hc ▸ h.1.1) (by decide)
    · exact absurd (h.1.2 _ hc) (by decide)

/-- What stands before the first slash is the same. -/
theorem segment_eq {a b xs ys : List Char} (ha : '/' ∉ a) (hb : '/' ∉ b)
    (h : a ++ '/' :: xs = b ++ '/' :: ys) : a = b ∧ xs = ys := by
  induction a generalizing b with
  | nil =>
    cases b with
    | nil => exact ⟨rfl, (List.cons.inj h).2⟩
    | cons c b => exact absurd (List.cons.inj h).1 fun heq => hb (heq ▸ List.mem_cons_self)
  | cons c a ih =>
    cases b with
    | nil => exact absurd (List.cons.inj h).1 fun heq => ha (heq ▸ List.mem_cons_self)
    | cons d b =>
      obtain ⟨rfl, htail⟩ := List.cons.inj h
      obtain ⟨rfl, hrest⟩ := ih (fun hmem => ha (List.mem_cons_of_mem _ hmem))
        (fun hmem => hb (List.mem_cons_of_mem _ hmem)) htail
      exact ⟨rfl, hrest⟩

theorem legacyAvatarPrefix_ok {legacyPrefix : String}
    (h : legacyAvatarPrefix worldId = .ok legacyPrefix) : isWorldId worldId = true ∧
      legacyPrefix = "worlds/" ++ worldId ++ "/current-assets/avatars/" := by
  obtain ⟨w, hsafe, h⟩ := bind_eq_ok.1 h
  obtain ⟨hworld, hw⟩ := rejectIf_bind_eq_ok.1 hsafe
  obtain rfl := pure_eq_ok.1 hw
  exact ⟨by simpa using hworld, (pure_eq_ok.1 h).symm⟩

theorem avatarPrefix_eq {expected : String} (h : avatarPrefix worldId = .ok expected) :
    expected = worldId ++ "/runtime/current-assets/avatars/" := by
  obtain ⟨w, hsafe, h⟩ := bind_eq_ok.1 h
  obtain ⟨-, hw⟩ := rejectIf_bind_eq_ok.1 hsafe
  obtain rfl := pure_eq_ok.1 hw
  exact (pure_eq_ok.1 h).symm

/-- What `migrate_legacy_avatar_key` returns. -/
theorem migrateLegacyAvatarKey_ok (h : migrateLegacyAvatarKey key worldId = .ok newKey) :
    isWorldId worldId = true ∧ ∃ name : List Char,
      key.toList = ("worlds/" ++ worldId ++ "/current-assets/avatars/").toList ++ name ∧
      newKey.toList = (worldId ++ "/runtime/current-assets/avatars/").toList ++ name := by
  obtain ⟨legacyPrefix, hroot, h⟩ := bind_eq_ok.1 h
  obtain ⟨value, hunder, h⟩ := bind_eq_ok.1 h
  obtain ⟨expected, hexpected, h⟩ := bind_eq_ok.1 h
  obtain ⟨hworld, rfl⟩ := legacyAvatarPrefix_ok hroot
  obtain rfl := avatarPrefix_eq hexpected
  obtain ⟨hforeign, hunder⟩ := rejectIf_bind_eq_ok.1 hunder
  obtain ⟨-, hunder⟩ := rejectIf_bind_eq_ok.1 hunder
  obtain rfl := pure_eq_ok.1 hunder
  obtain rfl := pure_eq_ok.1 h
  simp only [Bool.or_eq_true, not_or, Bool.not_eq_true, Bool.not_eq_false'] at hforeign
  obtain ⟨name, hname⟩ := List.isPrefixOf_iff_prefix.1 hforeign.1.1
  refine ⟨hworld, name, hname.symm, ?_⟩
  rw [String.toList_append, String.toList_ofList, ← hname, List.drop_left]

theorem migrateLegacyAvatarKey_legacy (h : migrateLegacyAvatarKey key worldId = .ok newKey) :
    isLegacyKey worldId key = true := by
  have hroot := h
  obtain ⟨legacyPrefix, hroot, -⟩ := bind_eq_ok.1 hroot
  obtain ⟨-, name, hkey, -⟩ := migrateLegacyAvatarKey_ok h
  rw [isLegacyKey, hroot]
  obtain ⟨-, rfl⟩ := legacyAvatarPrefix_ok hroot
  exact List.isPrefixOf_iff_prefix.2 ⟨name, hkey.symm⟩

/-- A new key is not of the old layout: the world would be called "worlds", and then the second
segment is "runtime". -/
theorem migrateLegacyAvatarKey_new (h : migrateLegacyAvatarKey key worldId = .ok newKey) :
    isLegacyKey worldId newKey = false := by
  obtain ⟨hworld, name, -, hnew⟩ := migrateLegacyAvatarKey_ok h
  have hslash := isWorldId_noSlash hworld
  cases hroot : legacyAvatarPrefix worldId with
  | error e => rw [isLegacyKey, hroot]
  | ok legacyPrefix =>
    obtain ⟨-, rfl⟩ := legacyAvatarPrefix_ok hroot
    rw [isLegacyKey, hroot, ← Bool.not_eq_true]
    intro hlegacy
    obtain ⟨rest, hrest⟩ := List.isPrefixOf_iff_prefix.1 hlegacy
    rw [hnew] at hrest
    simp only [String.toList_append, List.append_assoc] at hrest
    have hsplit : "worlds".toList ++ '/' :: (worldId.toList ++
        ("/current-assets/avatars/".toList ++ rest)) =
        worldId.toList ++ '/' :: ("runtime/current-assets/avatars/".toList ++ name) := by
      simpa using hrest
    obtain ⟨hname, htail⟩ := segment_eq (by decide) hslash hsplit
    rw [← hname] at htail
    exact absurd (List.cons.inj htail).1 (by decide)

theorem migrateLegacyAvatarKey_inj {key' : String}
    (h : migrateLegacyAvatarKey key worldId = .ok newKey)
    (h' : migrateLegacyAvatarKey key' worldId = .ok newKey) : key = key' := by
  obtain ⟨-, name, hkey, hnew⟩ := migrateLegacyAvatarKey_ok h
  obtain ⟨-, name', hkey', hnew'⟩ := migrateLegacyAvatarKey_ok h'
  rw [hnew] at hnew'
  rw [← List.append_cancel_left hnew', ← hkey] at hkey'
  exact String.ext hkey'.symm

/-! ## Reading -/

theorem ObjectStore.mem_keys : key ∈ store.keys ↔ ∃ content, store.read? key = some content := by
  rw [← Option.isSome_iff_exists, ObjectStore.read?, Option.isSome_map, List.find?_isSome]
  simp [ObjectStore.keys]

theorem ObjectStore.read?_fresh (h : key ∉ store.keys) : store.read? key = none := by
  cases hread : store.read? key with
  | none => rfl
  | some content => exact absurd (ObjectStore.mem_keys.2 ⟨content, hread⟩) h

theorem ObjectStore.read?_append (store added : ObjectStore) (key : String) :
    (store ++ added).read? key = (store.read? key).or (added.read? key) := by
  unfold ObjectStore.read?
  rw [List.find?_append]
  cases store.find? fun o => o.1 = key <;> rfl

theorem ObjectStore.read?_delete {key' : String} (h : key' ≠ key) :
    (store.delete key).read? key' = store.read? key' := by
  unfold ObjectStore.read? ObjectStore.delete
  rw [List.find?_filter]
  congr 2
  funext o
  by_cases ho : o.1 = key'
  · simp [ho, h]
  · simp [ho]

theorem ObjectStore.delete_added (h : key ∉ store.keys) :
    ObjectStore.delete (store ++ [(key, content)]) key = store := by
  have hkept : ∀ o ∈ store, o.1 ≠ key := fun o ho hkey => h (hkey ▸ List.mem_map_of_mem ho)
  rw [ObjectStore.delete, List.filter_append,
    List.filter_eq_self.2 fun o ho => decide_eq_true (hkept o ho)]
  simp

/-- The avatar under a key, in the storage of its layout. -/
def contentAt (worldId : String) (o : AvatarStores) (key : String) : Option Bytes :=
  if isLegacyKey worldId key = true then o.legacy.read? key else o.current.read? key

/-! ## Steps -/

/-- The command runs in no transaction. -/
structure Idle (s : Site ProfileTable AvatarStores) : Prop where
  depth : s.depth = 0
  hooks : s.hooks = []

/-- The member's profile has been switched to the copy; the old object may be gone. -/
structure Switched (sha256Hex : Bytes → String) (member : Nat) (oldKey newKey : String)
    (content : Bytes) (s s' : Site ProfileTable AvatarStores) : Prop where
  found : ∃ q ∈ s.db.rows, q.member = member ∧ q.avatarKey = oldKey
  db : s'.db = saveAvatarKey member newKey s.db
  stored : ∃ stored, s'.outside.current.read? newKey = some stored ∧
    sha256Hex stored = sha256Hex content
  legacy : s'.outside.legacy = s.outside.legacy ∨
    s'.outside.legacy = s.outside.legacy.delete oldKey

/-- What the migration of one profile may leave. -/
inductive Moved (sha256Hex : Bytes → String) (worldId : String)
    (s s' : Site ProfileTable AvatarStores) : Prop
  | intro (member : Nat) (oldKey newKey : String) (content : Bytes) (idle : Idle s')
    (key : migrateLegacyAvatarKey oldKey worldId = .ok newKey)
    (read : s.outside.legacy.read? oldKey = some content)
    (current : s'.outside.current = s.outside.current ∨ newKey ∉ s.outside.current.keys ∧
      s'.outside.current = s.outside.current ++ [(newKey, content)])
    (reference : s'.db = s.db ∧ s'.outside.legacy = s.outside.legacy ∨
      Switched sha256Hex member oldKey newKey content s s')

theorem openObject_meets {storage : AvatarStores → ObjectStore}
    {E : Site ProfileTable AvatarStores → Prop} (hE : E s) : (openObject storage key).Meets s
      (fun content s' => s' = s ∧ (storage s.outside).read? key = some content) E := by
  refine meets_onOutside (fun content o h => ?_) hE
  cases hread : (storage s.outside).read? key with
  | none =>
    rw [hread] at h
    cases h
  | some stored =>
    rw [hread] at h
    obtain ⟨rfl, rfl⟩ := Prod.mk.inj (Except.ok.inj h)
    exact ⟨rfl, rfl⟩

theorem objectExists_meets {storage : AvatarStores → ObjectStore}
    {E : Site ProfileTable AvatarStores → Prop} (hE : E s) :
    (objectExists storage key).Meets s
      (fun found s' => s' = s ∧ found = (storage s.outside).exists key) E := by
  refine meets_onOutside (fun found o h => ?_) hE
  obtain ⟨rfl, rfl⟩ := Prod.mk.inj (Except.ok.inj h)
  exact ⟨rfl, rfl⟩

theorem readLegacy_meets : (readLegacy sha256Hex p).Meets s
    (fun content s' => s' = s ∧ s.outside.legacy.read? p.avatarKey = some content)
    fun s' => s' = s := by
  refine meets_bind (objectExists_meets rfl) fun _ s₁ ⟨h₁, _⟩ => ?_
  subst h₁
  refine meets_bind (R := fun _ s₂ => s₂ = s₁) (meets_check (fun _ _ => rfl) rfl) fun _ s₂ h₂ => ?_
  subst h₂
  refine meets_bind (openObject_meets rfl) fun content s₃ ⟨h₃, hread⟩ => ?_
  subst h₃
  refine meets_bind (R := fun _ s₄ => s₄ = s₃) (meets_check (fun _ _ => rfl) rfl) fun _ s₄ h₄ => ?_
  subst h₄
  refine meets_bind (R := fun _ s₅ => s₅ = s₄) (meets_check (fun _ _ => rfl) rfl) fun _ s₅ h₅ => ?_
  subst h₅
  exact meets_pure ⟨rfl, hread⟩

/-- The copy is there: it was, with the same digest, or it was created. -/
structure Ensured (sha256Hex : Bytes → String) (newKey : String) (content : Bytes)
    (s : Site ProfileTable AvatarStores) (createdNew : Bool) (s' : Site ProfileTable AvatarStores) :
    Prop where
  present : createdNew = false → s' = s ∧ ∃ stored,
    s.outside.current.read? newKey = some stored ∧ sha256Hex stored = sha256Hex content
  created : createdNew = true → newKey ∉ s.outside.current.keys ∧ s' = { s with
    outside := { s.outside with current := s.outside.current ++ [(newKey, content)] } }

theorem ensureTarget_meets : (ensureTarget sha256Hex newKey content).Meets s
    (Ensured sha256Hex newKey content s) fun s' => s' = s := by
  refine meets_bind (objectExists_meets rfl) fun found s₁ ⟨h₁, _⟩ => ?_
  subst h₁
  split
  · refine meets_bind (openObject_meets rfl) fun stored s₂ ⟨h₂, hread⟩ => ?_
    subst h₂
    refine meets_bind (R := fun _ s₃ => s₃ = s₂ ∧ sha256Hex stored = sha256Hex content)
      (meets_check (fun _ h => ⟨rfl, ?_⟩) rfl) fun _ s₃ ⟨h₃, hsame⟩ => ?_
    · have hnot : ¬ sha256Hex stored ≠ sha256Hex content := by
        intro hne
        rw [rejectIf, if_pos hne] at h
        cases h
      exact not_not.1 hnot
    · subst h₃
      exact meets_pure ⟨fun _ => ⟨rfl, stored, hread, hsame⟩, fun h => absurd h (by decide)⟩
  · refine meets_bind (R := fun _ s₂ => newKey ∉ s₁.outside.current.keys ∧ s₂ = { s₁ with
      outside := { s₁.outside with
        current := s₁.outside.current ++ [(newKey, content)] } })
      (meets_onOutside (fun _ o h => ?_) rfl) fun _ s₂ h₂ => ?_
    · split at h
      · cases h
      · rename_i hfresh
        obtain ⟨-, rfl⟩ := Prod.mk.inj (Except.ok.inj h)
        exact ⟨hfresh, rfl⟩
    · exact meets_pure ⟨fun h => absurd h (by decide), fun _ => h₂⟩

theorem switchReference_meets (hidle : Idle s) : (switchReference member oldKey newKey).Meets s
    (fun _ s' => s' = { s with db := saveAvatarKey member newKey s.db } ∧
      ∃ q ∈ s.db.rows, q.member = member ∧ q.avatarKey = oldKey) fun s' => s' = s := by
  have hrolled : ∀ s' : Site ProfileTable AvatarStores, s'.outside = s.outside →
      s'.rollback s = s := by
    intro s' h
    unfold Site.rollback
    rw [h]
  refine meets_atomic ?_
  refine meets_bind (R := fun locked s₁ => s₁ = { s with depth := s.depth + 1 } ∧
    locked ∈ s.db.rows ∧ locked.member = member) (meets_query (fun locked h => ⟨rfl, ?_⟩)
      fun db _ => hrolled _ rfl) fun locked s₁ ⟨h₁, hmem, hmember⟩ => ?_
  · split at h
    · cases h
    · rename_i found hget
      obtain rfl := Except.ok.inj h
      exact Table.get?_eq_some.1 hget
  subst h₁
  refine meets_bind (R := fun _ s₂ => s₂ = { s with depth := s.depth + 1 } ∧
    locked.avatarKey = oldKey) (meets_check (fun _ h => ⟨rfl, ?_⟩) (hrolled _ rfl))
      fun _ s₂ ⟨h₂, hkey⟩ => ?_
  · by_contra hne
    rw [rejectIf, if_pos hne] at h
    cases h
  subst h₂
  refine meets_onDb (fun _ db h => ?_) fun _ _ => hrolled _ rfl
  obtain ⟨-, rfl⟩ := Prod.mk.inj (Except.ok.inj h)
  refine ⟨⟨?_, locked, hmem, hmember, hkey⟩, hrolled _ rfl⟩
  rw [Site.close, if_pos hidle.depth, Site.committed]
  simp [hidle.hooks, ← hidle.depth]

/-- Without a copy there is nothing to undo; else the handler deletes it, or raises itself. -/
theorem compensate_meets {createdNew : Bool}
    (h : Ensured sha256Hex newKey content s createdNew s₁) :
    (compensate createdNew newKey).Meets s₁ (fun _ s' => s' = s ∨ s' = s₁)
      fun s' => s' = s ∨ s' = s₁ := by
  unfold compensate
  split
  · rename_i hcreated
    obtain ⟨hfresh, rfl⟩ := h.created hcreated
    refine meets_onOutside (fun _ o h => ?_) (.inr rfl)
    obtain ⟨-, rfl⟩ := Prod.mk.inj (Except.ok.inj h)
    refine .inl ?_
    simp only [ObjectStore.delete_added hfresh]
  · exact meets_pure (.inr rfl)

/-- **One profile.** It is switched and the old object deleted, or something of this is left. -/
theorem migrateProfile_meets (hidle : Idle s) : (migrateProfile sha256Hex worldId p).Meets s
    (fun _ s' => Moved sha256Hex worldId s s' ∧ ∃ newKey,
      migrateLegacyAvatarKey p.avatarKey worldId = .ok newKey ∧
        s'.db = saveAvatarKey p.member newKey s.db)
    (ReflTransGen (Moved sha256Hex worldId) s) := by
  refine meets_bind (R := fun newKey s₁ => s₁ = s ∧
    migrateLegacyAvatarKey p.avatarKey worldId = .ok newKey)
    (meets_check (fun newKey h => ⟨rfl, ?_⟩) .refl) fun newKey s₁ ⟨h₁, hkey⟩ => ?_
  · cases hmigrate : migrateLegacyAvatarKey p.avatarKey worldId with
    | error e =>
      rw [hmigrate] at h
      cases h
    | ok key =>
      rw [hmigrate] at h
      exact congrArg _ (Except.ok.inj h)
  subst h₁
  refine meets_bind (readLegacy_meets.mono (fun _ _ h => h) fun s' h => h ▸ .refl)
    fun content s₂ ⟨h₂, hread⟩ => ?_
  subst h₂
  refine meets_bind (ensureTarget_meets.mono (fun _ _ h => h) fun s' h => h ▸ .refl)
    fun createdNew s₃ hensured => ?_
  have hdb : s₃.db = s₂.db := by
    cases createdNew with
    | false => rw [(hensured.present rfl).1]
    | true => rw [(hensured.created rfl).2]
  have hlegacy : s₃.outside.legacy = s₂.outside.legacy := by
    cases createdNew with
    | false => rw [(hensured.present rfl).1]
    | true => rw [(hensured.created rfl).2]
  have hidle₃ : Idle s₃ := by
    cases createdNew with
    | false => exact (hensured.present rfl).1 ▸ hidle
    | true =>
      rw [(hensured.created rfl).2]
      exact ⟨hidle.depth, hidle.hooks⟩
  have hcurrent : s₃.outside.current = s₂.outside.current ∨ newKey ∉ s₂.outside.current.keys ∧
      s₃.outside.current = s₂.outside.current ++ [(newKey, content)] := by
    cases createdNew with
    | false => exact .inl (by rw [(hensured.present rfl).1])
    | true => exact .inr ⟨(hensured.created rfl).1, by rw [(hensured.created rfl).2]⟩
  have hstored : ∃ stored, s₃.outside.current.read? newKey = some stored ∧
      sha256Hex stored = sha256Hex content := by
    cases createdNew with
    | false =>
      obtain ⟨rfl, hstored⟩ := hensured.present rfl
      exact hstored
    | true =>
      obtain ⟨hfresh, rfl⟩ := hensured.created rfl
      refine ⟨content, ?_, rfl⟩
      rw [ObjectStore.read?_append, ObjectStore.read?_fresh hfresh]
      simp [ObjectStore.read?]
  have hcopied : ReflTransGen (Moved sha256Hex worldId) s₂ s₃ := .single
    ⟨p.member, p.avatarKey, newKey, content, hidle₃, hkey, hread, hcurrent, .inl ⟨hdb, hlegacy⟩⟩
  refine meets_bind (meets_onError (switchReference_meets hidle₃) fun s' hs' => ?_)
    fun _ s₄ ⟨h₄, hfound⟩ => ?_
  · subst hs'
    refine (compensate_meets hensured).mono (fun _ s' h => ?_) fun s' h => ?_
    all_goals
      rcases h with rfl | rfl
      · exact .refl
      · exact hcopied
  rw [hdb] at h₄ hfound
  have hidle₄ : Idle s₄ := h₄ ▸ ⟨hidle₃.depth, hidle₃.hooks⟩
  refine meets_onOutside (fun _ o h => ?_) (.single ⟨p.member, p.avatarKey, newKey, content, hidle₄,
    hkey, hread, by rw [h₄]; exact hcurrent, .inr ⟨hfound, by rw [h₄], by rw [h₄]; exact hstored,
      .inl (by rw [h₄]; exact hlegacy)⟩⟩)
  obtain ⟨-, rfl⟩ := Prod.mk.inj (Except.ok.inj h)
  refine ⟨⟨p.member, p.avatarKey, newKey, content, ⟨hidle₄.depth, hidle₄.hooks⟩, hkey, hread, ?_,
    .inr ⟨hfound, ?_, ?_, .inr ?_⟩⟩, newKey, hkey, ?_⟩
  · rw [h₄]
    exact hcurrent
  · rw [h₄]
  · rw [h₄]
    exact hstored
  · rw [h₄, hlegacy]
  · rw [h₄]

theorem Moved.idle (h : Moved sha256Hex worldId s s') : Idle s' := by
  obtain ⟨_, _, _, _, hidle, -⟩ := h
  exact hidle

theorem moved_idle (hidle : Idle s) (h : ReflTransGen (Moved sha256Hex worldId) s s') :
    Idle s' := by
  cases h with
  | refl => exact hidle
  | tail _ hlast => exact hlast.idle

/-- **Runs of the command.** Whatever steps raise, what is left was reached by such moves. -/
theorem afterMigration_moved (hidle : Idle s)
    (call : Bool × Faults MaintenanceError ProfileTable) :
    ReflTransGen (Moved sha256Hex worldId) s (afterMigration sha256Hex worldId s call) := by
  have hmeets : (migrate sha256Hex worldId call.1).Meets s
      (fun _ => ReflTransGen (Moved sha256Hex worldId) s)
      (ReflTransGen (Moved sha256Hex worldId) s) := by
    refine meets_bind (R := fun _ s₁ => s₁ = s) (meets_check (fun _ _ => rfl) .refl)
      fun legacyPrefix s₁ h₁ => ?_
    subst h₁
    refine meets_bind (R := fun _ s₂ => s₂ = s₁) (meets_query (fun _ _ => rfl) fun db hdb => ?_)
      fun profiles s₂ h₂ => ?_
    · rw [hdb hidle.depth]
    subst h₂
    split
    · refine meets_bind (meets_forEach (fun p s' h => ?_) profiles .refl) fun _ _ h => meets_pure h
      exact (migrateProfile_meets (moved_idle hidle h)).mono
        (fun _ s'' h' => h.tail h'.1) fun s'' h' => h.trans h'
    · exact meets_pure .refl
  unfold afterMigration
  rcases hrun : migrate sha256Hex worldId call.1 call.2 s with ⟨result, faults, s'⟩
  cases result with
  | ok report => exact hmeets.returns hrun
  | error e => exact hmeets.raises hrun

theorem afterMigrations_moved (hidle : Idle s)
    (calls : List (Bool × Faults MaintenanceError ProfileTable)) :
    ReflTransGen (Moved sha256Hex worldId) s
      (calls.foldl (afterMigration sha256Hex worldId) s) := by
  induction calls generalizing s with
  | nil => exact .refl
  | cons call calls ih =>
    have hfirst : ReflTransGen (Moved sha256Hex worldId) s
        (afterMigration sha256Hex worldId s call) := afterMigration_moved hidle call
    exact hfirst.trans (ih (moved_idle hidle hfirst))

/-! ## No avatar is lost -/

/-- No object of the old layout belongs to two profiles. -/
def Unshared (worldId : String) (profiles : ProfileTable) : Prop :=
  ∀ p ∈ profiles.rows, ∀ q ∈ profiles.rows, isLegacyKey worldId p.avatarKey = true →
    p.avatarKey = q.avatarKey → p = q

/-- The avatar that the profile had is there, under the same or another key. -/
def AvatarKept (sha256Hex : Bytes → String) (worldId : String) (o o' : AvatarStores)
    (p p' : MemberPublicProfile) : Prop :=
  ∀ content, contentAt worldId o p.avatarKey = some content →
    ∃ content', contentAt worldId o' p'.avatarKey = some content' ∧
      sha256Hex content' = sha256Hex content

/-- Every profile is there with its avatar, and nothing but its key has changed. -/
structure Kept (sha256Hex : Bytes → String) (worldId : String)
    (s s' : Site ProfileTable AvatarStores) : Prop where
  members : s'.db.rows.map MemberPublicProfile.member = s.db.rows.map MemberPublicProfile.member
  rows : ∀ p ∈ s.db.rows, ∃ p' ∈ s'.db.rows, p' = { p with avatarKey := p'.avatarKey } ∧
    AvatarKept sha256Hex worldId s.outside s'.outside p p'

theorem Kept.refl (s : Site ProfileTable AvatarStores) : Kept sha256Hex worldId s s :=
  ⟨rfl, fun p hp => ⟨p, hp, rfl, fun content h => ⟨content, h, rfl⟩⟩⟩

theorem Kept.trans (h : Kept sha256Hex worldId s s₁) (h' : Kept sha256Hex worldId s₁ s') :
    Kept sha256Hex worldId s s' := by
  refine ⟨h'.members.trans h.members, fun p hp => ?_⟩
  obtain ⟨p₁, hp₁, hsame, hkept⟩ := h.rows p hp
  obtain ⟨p', hp', hsame', hkept'⟩ := h'.rows p₁ hp₁
  refine ⟨p', hp', ?_, fun content hcontent => ?_⟩
  · rw [hsame', hsame]
  · obtain ⟨content₁, hcontent₁, hdigest⟩ := hkept content hcontent
    obtain ⟨content', hcontent', hdigest'⟩ := hkept' content₁ hcontent₁
    exact ⟨content', hcontent', hdigest'.trans hdigest⟩

/-- The rows after a switch. -/
theorem mem_saveAvatarKey {profiles : ProfileTable} :
    q ∈ (saveAvatarKey member newKey profiles).rows ↔ ∃ p ∈ profiles.rows,
      q = if p.member = member then { p with avatarKey := newKey } else p := by
  show q ∈ profiles.rows.map _ ↔ _
  rw [List.mem_map]
  exact exists_congr fun p => and_congr_right fun _ => eq_comm

theorem saveAvatarKey_members {profiles : ProfileTable} :
    (saveAvatarKey member newKey profiles).rows.map MemberPublicProfile.member =
      profiles.rows.map MemberPublicProfile.member := by
  show (profiles.rows.map _).map _ = _
  rw [List.map_map]
  refine List.map_congr_left fun p _ => ?_
  by_cases h : p.member = member <;> simp [h]

/-- What the storage of the new layout had is there. -/
theorem read?_grown {o o' : ObjectStore} {key' : String} {content' : Bytes}
    (h : o' = o ∨ newKey ∉ o.keys ∧ o' = o ++ [(newKey, content)])
    (hread : o.read? key' = some content') : o'.read? key' = some content' := by
  rcases h with rfl | ⟨-, rfl⟩
  · exact hread
  · rw [ObjectStore.read?_append, hread]
    rfl

/-- What the storage of the old layout had under another key is there. -/
theorem read?_left {o o' : ObjectStore} {key' : String}
    (h : o' = o ∨ o' = o.delete oldKey) (hne : key' ≠ oldKey) : o'.read? key' = o.read? key' := by
  rcases h with rfl | rfl
  · rfl
  · exact ObjectStore.read?_delete hne

/-- A profile that a switch leaves alone has its avatar. -/
theorem avatarKept_of_ne {o o' : AvatarStores}
    (hcurrent : o'.current = o.current ∨ newKey ∉ o.current.keys ∧
      o'.current = o.current ++ [(newKey, content)])
    (hlegacy : isLegacyKey worldId p.avatarKey = true →
      o'.legacy.read? p.avatarKey = o.legacy.read? p.avatarKey) :
    AvatarKept sha256Hex worldId o o' p p := by
  intro content' hcontent
  refine ⟨content', ?_, rfl⟩
  unfold contentAt at *
  split at hcontent
  · rename_i hkey
    rw [if_pos hkey, hlegacy hkey]
    exact hcontent
  · rename_i hkey
    rw [if_neg hkey]
    exact read?_grown hcurrent hcontent

theorem Moved.kept (h : Moved sha256Hex worldId s s') (hunshared : Unshared worldId s.db) :
    Kept sha256Hex worldId s s' := by
  obtain ⟨member, oldKey, newKey, content, -, hkey, hread, hcurrent, hreference⟩ := h
  rcases hreference with ⟨hdb, hlegacy⟩ | ⟨⟨q, hq, hmember, hold⟩, hdb, hstored, hlegacy⟩
  · refine ⟨by rw [hdb], fun p hp => ⟨p, hdb ▸ hp, rfl, ?_⟩⟩
    exact avatarKept_of_ne hcurrent fun _ => by rw [hlegacy]
  · refine ⟨by rw [hdb, saveAvatarKey_members], fun p hp => ?_⟩
    by_cases hswitched : p.member = member
    · refine ⟨{ p with avatarKey := newKey }, ?_, rfl, fun content' hcontent => ?_⟩
      · rw [hdb]
        exact mem_saveAvatarKey.2 ⟨p, hp, (if_pos hswitched).symm⟩
      · obtain rfl := s.db.eq_of_pk hp hq (hswitched.trans hmember.symm)
        rw [contentAt, if_pos (hold ▸ migrateLegacyAvatarKey_legacy hkey), hold, hread] at hcontent
        obtain rfl := Option.some.inj hcontent
        obtain ⟨stored, hstored, hdigest⟩ := hstored
        refine ⟨stored, ?_, hdigest⟩
        rw [contentAt, if_neg (by rw [migrateLegacyAvatarKey_new hkey]; decide)]
        exact hstored
    · refine ⟨p, ?_, rfl, avatarKept_of_ne hcurrent fun hp' => read?_left hlegacy fun heq => ?_⟩
      · rw [hdb]
        exact mem_saveAvatarKey.2 ⟨p, hp, (if_neg hswitched).symm⟩
      · exact hswitched (hunshared p hp q hq hp' (heq.trans hold.symm) ▸ hmember)

/-- A profile of the old layout after a move was there before it. -/
theorem Moved.legacy (h : Moved sha256Hex worldId s s') (hp : p ∈ s'.db.rows)
    (hkey : isLegacyKey worldId p.avatarKey = true) : p ∈ s.db.rows := by
  obtain ⟨member, oldKey, newKey, content, -, hnew, -, -, hreference⟩ := h
  rcases hreference with ⟨hdb, -⟩ | ⟨-, hdb, -, -⟩
  · exact hdb ▸ hp
  · rw [hdb] at hp
    obtain ⟨q, hq, rfl⟩ := mem_saveAvatarKey.1 hp
    split at hkey
    · rw [migrateLegacyAvatarKey_new hnew] at hkey
      cases hkey
    · rename_i hne
      rw [if_neg hne]
      exact hq

theorem Moved.unshared (h : Moved sha256Hex worldId s s') (hunshared : Unshared worldId s.db) :
    Unshared worldId s'.db := fun p hp q hq hkey heq =>
  hunshared p (h.legacy hp hkey) q (h.legacy hq (heq ▸ hkey)) hkey heq

theorem moved_kept (h : ReflTransGen (Moved sha256Hex worldId) s s')
    (hunshared : Unshared worldId s.db) :
    Kept sha256Hex worldId s s' ∧ Unshared worldId s'.db := by
  induction h with
  | refl => exact ⟨Kept.refl s, hunshared⟩
  | tail _ hlast ih => exact ⟨ih.1.trans (hlast.kept ih.2), hlast.unshared ih.2⟩

/-- However often the command is run, and wherever each run stops, a handler included: every profile
is there with nothing but its key changed, and an avatar that it had is there with the same
digest. -/
theorem interrupted_migrations_keep (sha256Hex : Bytes → String) (worldId : String)
    (s : Site ProfileTable AvatarStores) (hidle : Idle s) (hunshared : Unshared worldId s.db)
    (calls : List (Bool × Faults MaintenanceError ProfileTable)) :
    Kept sha256Hex worldId s (calls.foldl (afterMigration sha256Hex worldId) s) :=
  (moved_kept (afterMigrations_moved hidle calls) hunshared).1

def legacyAvatar : MemberPublicProfile :=
  ⟨31, "worlds/sim/current-assets/avatars/a.webp", "abc", some 3, none, true⟩

def currentAvatar : MemberPublicProfile :=
  ⟨32, "sim/runtime/current-assets/avatars/b.webp", "", none, none, true⟩

/-- One avatar is left in the old layout. -/
def twoLayouts : Site ProfileTable AvatarStores where
  db := ⟨[legacyAvatar, currentAvatar], by decide, by decide⟩
  outside := {
    legacy := [("worlds/sim/current-assets/avatars/a.webp", [97, 98, 99])]
    current := [("sim/runtime/current-assets/avatars/b.webp", [100])] }
  hooks := []
  depth := 0

theorem twoLayouts_idle : Idle twoLayouts := ⟨rfl, rfl⟩

theorem twoLayouts_unshared : Unshared "sim" twoLayouts.db := by
  unfold Unshared
  decide +kernel

/-- A digest that can be evaluated. -/
def textDigest (content : Bytes) : String :=
  String.ofList (content.map fun b => Char.ofNat b.toNat)

/-- The commit fails, and so does the deletion of the copy. -/
def stoppedTwice : List (Bool × Faults MaintenanceError ProfileTable) :=
  [(true, List.replicate 13 none ++ List.replicate 2 (some (.command "down", Table.empty)))]

theorem interrupted_migrations_keep_copy :
    (stoppedTwice.foldl (afterMigration textDigest "sim") twoLayouts).outside.current.keys =
        ["sim/runtime/current-assets/avatars/b.webp", "sim/runtime/current-assets/avatars/a.webp"] ∧
      (stoppedTwice.foldl (afterMigration textDigest "sim") twoLayouts).db.rows.map
        MemberPublicProfile.avatarKey = [legacyAvatar.avatarKey, currentAvatar.avatarKey] ∧
      Kept textDigest "sim" twoLayouts
        (stoppedTwice.foldl (afterMigration textDigest "sim") twoLayouts) :=
  ⟨by decide +kernel, by decide +kernel, interrupted_migrations_keep textDigest "sim" twoLayouts
    twoLayouts_idle twoLayouts_unshared stoppedTwice⟩

/-! ## A run that nothing disturbs -/

/-- The profile can be migrated: its object is there and agrees with it, and what is under the new
key has the same digest. -/
structure Migratable (sha256Hex : Bytes → String) (worldId : String) (o : AvatarStores)
    (p : MemberPublicProfile) (newKey : String) (content : Bytes) : Prop where
  key : migrateLegacyAvatarKey p.avatarKey worldId = .ok newKey
  read : o.legacy.read? p.avatarKey = some content
  size : (p.avatarSize.any fun size => size ≠ content.length) = false
  digest : p.avatarSha256 ≠ "" → sha256Hex content = p.avatarSha256
  target : ∀ stored, o.current.read? newKey = some stored → sha256Hex stored = sha256Hex content

/-- Every profile of the old layout can be migrated. -/
def Ready (sha256Hex : Bytes → String) (worldId : String) (s : Site ProfileTable AvatarStores) :
    Prop :=
  ∀ p ∈ s.db.rows, isLegacyKey worldId p.avatarKey = true →
    ∃ newKey content, Migratable sha256Hex worldId s.outside p newKey content

/-- A move leaves the other profiles as ready as they were: two old keys never become one. -/
theorem Moved.ready (h : Moved sha256Hex worldId s s') (hunshared : Unshared worldId s.db)
    (hready : Ready sha256Hex worldId s) : Ready sha256Hex worldId s' := by
  intro p hp' hlegacyKey
  have hp := h.legacy hp' hlegacyKey
  obtain ⟨newKey', content', hmigratable⟩ := hready p hp hlegacyKey
  refine ⟨newKey', content', hmigratable.key, ?_, hmigratable.size, hmigratable.digest, ?_⟩
  · obtain ⟨member, oldKey, newKey, content, -, hkey, -, -, hreference⟩ := h
    rw [← hmigratable.read]
    rcases hreference with ⟨-, hlegacy⟩ | ⟨⟨q, hq, hmember, hold⟩, hdb, -, hlegacy⟩
    · rw [hlegacy]
    · refine read?_left hlegacy fun heq => ?_
      obtain rfl := hunshared p hp q hq hlegacyKey (heq.trans hold.symm)
      rw [hdb] at hp'
      obtain ⟨r, hr, heq'⟩ := mem_saveAvatarKey.1 hp'
      split at heq'
      · rw [heq', migrateLegacyAvatarKey_new hkey] at hlegacyKey
        cases hlegacyKey
      · rename_i hne
        exact hne (heq' ▸ hmember)
  · obtain ⟨member, oldKey, newKey, content, -, hkey, hread, hcurrent, -⟩ := h
    intro stored hstored
    rcases hcurrent with hsame | ⟨hfresh, hgrown⟩
    · exact hmigratable.target stored (hsame ▸ hstored)
    · rw [hgrown, ObjectStore.read?_append] at hstored
      by_cases hnew : newKey' = newKey
      · subst hnew
        rw [ObjectStore.read?_fresh hfresh] at hstored
        obtain rfl : content = stored := by simpa [ObjectStore.read?] using hstored
        rw [← migrateLegacyAvatarKey_inj hmigratable.key hkey, hmigratable.read] at hread
        rw [Option.some.inj hread]
      · refine hmigratable.target stored ?_
        have hnone : ObjectStore.read? [(newKey, content)] newKey' = none := by
          simp [ObjectStore.read?, Ne.symm hnew]
        rwa [hnone, Option.or_none] at hstored

theorem moved_ready (h : ReflTransGen (Moved sha256Hex worldId) s s')
    (hunshared : Unshared worldId s.db) (hready : Ready sha256Hex worldId s) :
    Ready sha256Hex worldId s' := by
  induction h with
  | refl => exact hready
  | tail hfirst hlast ih => exact hlast.ready (moved_kept hfirst hunshared).2 ih

theorem openObject_runs {storage : AvatarStores → ObjectStore}
    (h : (storage s.outside).read? key = some content) :
    (openObject storage key).Runs s content s :=
  runs_onOutside (by rw [h])

theorem readLegacy_runs (h : Migratable sha256Hex worldId s.outside p newKey content) :
    (readLegacy sha256Hex p).Runs s content s := by
  have hexists : s.outside.legacy.exists p.avatarKey = true :=
    decide_eq_true (ObjectStore.mem_keys.2 ⟨content, h.read⟩)
  refine runs_bind (runs_onOutside rfl) (runs_bind (runs_rejectIf ?_) (runs_bind
    (openObject_runs h.read) (runs_bind (runs_rejectIf ?_) (runs_bind (runs_rejectIf ?_)
      runs_pure))))
  · rw [hexists]
    decide
  · rw [h.size]
    decide
  · exact fun hne => hne.2 (h.digest hne.1)

theorem ensureTarget_runs (h : Migratable sha256Hex worldId s.outside p newKey content) :
    ∃ createdNew s', (ensureTarget sha256Hex newKey content).Runs s createdNew s' := by
  cases hfound : s.outside.current.exists newKey with
  | true =>
    obtain ⟨stored, hread⟩ := ObjectStore.mem_keys.1 (of_decide_eq_true hfound)
    refine ⟨false, s, runs_bind (runs_onOutside rfl) ?_⟩
    rw [if_pos hfound]
    exact runs_bind (openObject_runs hread) (runs_bind
      (runs_rejectIf (not_not.2 (h.target stored hread))) runs_pure)
  | false =>
    refine ⟨true, { s with outside := { s.outside with
      current := s.outside.current ++ [(newKey, content)] } },
      runs_bind (runs_onOutside rfl) ?_⟩
    rw [if_neg (by rw [hfound]; decide)]
    exact runs_bind (runs_onOutside (if_neg (of_decide_eq_false hfound))) runs_pure

theorem switchReference_runs (hp : p ∈ s.db.rows) :
    ∃ s', (switchReference p.member p.avatarKey newKey).Runs s () s' := by
  have hget : s.db.get? p.member = some p := Table.get?_eq_some.2 ⟨hp, rfl⟩
  refine ⟨_, runs_atomic (runs_bind (runs_query (a := p) ?_) (runs_bind
    (runs_rejectIf (not_not.2 rfl)) (runs_onDb rfl)))⟩
  rw [hget]

theorem migrateProfile_runs (hp : p ∈ s.db.rows)
    (h : Migratable sha256Hex worldId s.outside p newKey content) :
    ∃ s', (migrateProfile sha256Hex worldId p).Runs s () s' := by
  obtain ⟨createdNew, s₁, hensure⟩ := ensureTarget_runs h
  have hdb : s₁.db = s.db := by
    have hensured := hensure.meets ensureTarget_meets
    cases createdNew with
    | false => rw [(hensured.present rfl).1]
    | true => rw [(hensured.created rfl).2]
  obtain ⟨s₂, hswitch⟩ : ∃ s₂, (switchReference p.member p.avatarKey newKey).Runs s₁ () s₂ :=
    switchReference_runs (hdb ▸ hp)
  refine ⟨_, runs_bind (runs_check ?_) (runs_bind (readLegacy_runs h) (runs_bind hensure
    (runs_bind (runs_onError hswitch) (runs_onOutside rfl))))⟩
  rw [h.key]
  rfl

/-- The loop over profiles that are there. -/
theorem migrateProfiles_runs {profiles : List MemberPublicProfile} (hidle : Idle s)
    (hunshared : Unshared worldId s.db) (hready : Ready sha256Hex worldId s)
    (hprofiles : ∀ p ∈ profiles, p ∈ s.db.rows ∧ isLegacyKey worldId p.avatarKey = true)
    (hnodup : (profiles.map MemberPublicProfile.member).Nodup) :
    ∃ s', (forEach (migrateProfile sha256Hex worldId) profiles).Runs s () s' ∧
      ReflTransGen (Moved sha256Hex worldId) s s' ∧
      ∀ p ∈ s'.db.rows, isLegacyKey worldId p.avatarKey = true → p ∈ s.db.rows ∧ p ∉ profiles := by
  induction profiles generalizing s with
  | nil => exact ⟨s, runs_pure, .refl, fun p hp _ => ⟨hp, List.not_mem_nil⟩⟩
  | cons p profiles ih =>
    obtain ⟨hp, hlegacy⟩ := hprofiles p List.mem_cons_self
    obtain ⟨newKey, content, hmigratable⟩ := hready p hp hlegacy
    obtain ⟨s₁, hrun⟩ := migrateProfile_runs hp hmigratable
    obtain ⟨hmoved, newKey', hkey, hdb⟩ := hrun.meets (migrateProfile_meets hidle)
    obtain ⟨hnotin, hnodup'⟩ := List.nodup_cons.1 hnodup
    have hne : ∀ q ∈ profiles, q.member ≠ p.member := fun q hq heq =>
      hnotin (heq ▸ List.mem_map_of_mem hq)
    obtain ⟨s', hrest, hmoved', hleft⟩ := ih hmoved.idle (hmoved.unshared hunshared)
      (hmoved.ready hunshared hready) (fun q hq => by
        obtain ⟨hq', hkey'⟩ := hprofiles q (List.mem_cons_of_mem _ hq)
        rw [hdb]
        exact ⟨mem_saveAvatarKey.2 ⟨q, hq', (if_neg (hne q hq)).symm⟩, hkey'⟩) hnodup'
    refine ⟨s', runs_bind hrun hrest, .head hmoved hmoved', fun q hq hkey' => ?_⟩
    obtain ⟨hq₁, hnot⟩ := hleft q hq hkey'
    refine ⟨hmoved.legacy hq₁ hkey', fun hmem => ?_⟩
    rcases List.mem_cons.1 hmem with rfl | hmem
    · rw [hdb] at hq₁
      obtain ⟨r, hr, heq⟩ := mem_saveAvatarKey.1 hq₁
      split at heq
      · rw [heq, migrateLegacyAvatarKey_new hkey] at hkey'
        cases hkey'
      · rename_i hr'
        exact hr' (heq ▸ rfl)
    · exact hnot hmem

theorem twoLayouts_ready : Ready textDigest "sim" twoLayouts := by
  intro p hp hkey
  have hrows : p ∈ [legacyAvatar, currentAvatar] := hp
  simp only [List.mem_cons, List.not_mem_nil, or_false] at hrows
  rcases hrows with rfl | rfl
  · refine ⟨"sim/runtime/current-assets/avatars/a.webp", [97, 98, 99], by decide +kernel,
      by decide +kernel, by decide, fun _ => by decide +kernel, fun stored hstored => ?_⟩
    have hnone : twoLayouts.outside.current.read? "sim/runtime/current-assets/avatars/a.webp" =
        none := by decide +kernel
    rw [hnone] at hstored
    cases hstored
  · have hnot : isLegacyKey "sim" currentAvatar.avatarKey = false := by decide +kernel
    rw [hnot] at hkey
    cases hkey

end LiveOs.Files
