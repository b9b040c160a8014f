import LiveOs.Files.Verify.Maintenance
import LiveOs.Finance.Evidence

/-!
# The stores and the database

Every call on claims, attachments and avatars either leaves the committed database and both stores
as they were or changes them together, whichever of its steps raise. No call touches an object of
a world that it is not made in.
-/

namespace LiveOs.Finance

open Lib EventLedger Roles Files Service

variable {rt : Runtime} {files : FileRuntime} {env : FilesEnv} {worldId : String} {α : Type}
  {s s' : Site (FilesDb rt) Outside} {o o' : Outside} {objects : ObjectStore}
  {links : List ExpenseClaimAttachment} {fields : BatchFields}

/-- What a call leaves of a site once it is over. -/
def stateOf (s : Site (FilesDb rt) Outside) : FilesState rt :=
  ⟨s.db, s.outside.attachments, s.outside.avatars⟩

/-- Objects were added to the attachment store together with their rows. -/
structure Grown (files : FileRuntime) (st st' : FilesState rt) : Prop where
  added : ∃ objects rows, st'.attachments = st.attachments ++ objects ∧
    st'.db.attachments.rows = st.db.attachments.rows ++ rows ∧
      List.Forall₂ (RowOf files) objects rows ∧
        ∀ key ∈ objects.keys, key ∉ st.attachments.keys
  avatars : st'.avatars = st.avatars
  profiles : st'.db.profiles = st.db.profiles

/-! ## Evidence -/

/-- The created links name the objects that were added. -/
structure Held (worldId : String) (o o' : Outside) (objects : ObjectStore) : Prop where
  attachments : o'.attachments = o.attachments ++ objects
  avatars : o'.avatars = o.avatars
  createdLinks : o'.createdLinks.map (fun l => l.attachment.objectKey) = objects.keys
  fresh : ∀ key ∈ objects.keys, key ∉ o.attachments.keys
  deletable : ∀ key ∈ objects.keys, requireBusinessAttachmentKey key worldId = .ok key

theorem Held.none (hlinks : o'.createdLinks = []) (hattachments : o'.attachments = o.attachments)
    (havatars : o'.avatars = o.avatars) : Held worldId o o' [] where
  attachments := by rw [hattachments, List.append_nil]
  avatars := havatars
  createdLinks := by rw [hlinks]; rfl
  fresh := by simp [ObjectStore.keys]
  deletable := by simp [ObjectStore.keys]

theorem rowOf_keys {rows : List Attachment} (h : List.Forall₂ (RowOf files) objects rows) :
    rows.map Attachment.objectKey = objects.keys := by
  induction h with
  | nil => rfl
  | cons hrow _ ih => rw [List.map_cons, ih, hrow.objectKey]; rfl

/-- The handler of the finance services deletes every object of the call. -/
theorem cleanup_meets (hheld : Held worldId o s.outside objects) :
    (cleanupUncommittedExpenseAttachments worldId : FileService rt Unit).Meets s
      (fun _ s' => s' = { s with outside := { s.outside with attachments := o.attachments } })
      fun _ => False := by
  have hstore : s.outside.attachments.filter (fun e => e.1 ∉ s.outside.createdLinks.map
      fun l => l.attachment.objectKey) = o.attachments := by
    rw [hheld.attachments, hheld.createdLinks]
    exact ObjectStore.filter_added hheld.fresh
  have hdelete := deleteAll_meets (s := s) (hheld.createdLinks ▸ hheld.deletable)
  rw [hstore, ← forEach_map] at hdelete
  exact ⟨fun h => hdelete.returns h, fun h => hdelete.raises h⟩

/-- **Calls with evidence.** A body that accounts for the objects it has added, however it ends, is
undone when the call raises. -/
theorem withEvidence_meets {body : FileService rt α} {Q : α → FilesState rt → Prop}
    (hdepth : s.depth = 0)
    (hbody : body.Meets { s with outside := { s.outside with createdLinks := [] }, depth := 1 }
      (fun a s' => (∃ objects, Held worldId s.outside s'.outside objects) ∧ s'.hooks = [] ∧
        Q a (stateOf s'))
      fun s' => ∃ objects, Held worldId s.outside s'.outside objects) :
    (withEvidence worldId body).Meets s (fun a s' => Q a (stateOf s'))
      fun s' => stateOf s' = stateOf s := by
  refine meets_bind (R := fun _ s₁ =>
    s₁ = { s with outside := { s.outside with createdLinks := [] } }) (meets_sure rfl rfl)
    fun _ s₁ h₁ => ?_
  subst h₁
  refine meets_onError (R := fun s' => (∃ objects, Held worldId s.outside s'.outside objects) ∧
    s'.db = s.db) (meets_atomic ?_) ?_
  · rw [show ({ s with outside := { s.outside with createdLinks := [] } } :
      Site (FilesDb rt) Outside).depth + 1 = 1 by rw [hdepth]]
    refine hbody.mono (fun a s' h => ?_) fun s' h => ⟨h, rfl⟩
    obtain ⟨hheld, hhooks, hQ⟩ := h
    refine ⟨?_, hheld, rfl⟩
    unfold Site.close
    rw [if_pos hdepth]
    simpa [Site.committed, hhooks, stateOf] using hQ
  · rintro s' ⟨⟨objects, hheld⟩, hdb⟩
    refine (cleanup_meets hheld).mono (fun _ s'' h => ?_) fun _ hfalse => hfalse.elim
    rw [h]
    simp only [stateOf, hdb, hheld.avatars]

/-- A step on the finance rows leaves the attachments, the profiles and the stores. -/
theorem onFinance_meets {f : FinanceDb rt → Except Error (FinanceDb rt × α)}
    {E : Site (FilesDb rt) Outside → Prop} (hE : ∀ db, E { s with db := db }) :
    (onFinance f : FileService rt α).Meets s
      (fun _ s' => ∃ finance, s' = { s with db := { s.db with finance := finance } }) E := by
  refine meets_onDb (fun a db h => ?_) fun db _ => hE db
  obtain ⟨⟨finance, b⟩, -, h⟩ := bind_eq_ok.1 h
  obtain ⟨-, rfl⟩ := Prod.mk.inj (pure_eq_ok.1 h)
  exact ⟨finance, rfl⟩

/-- What a body has done so far, from the state in which its block began. -/
structure SoFar (files : FileRuntime) (worldId : String) (s s' : Site (FilesDb rt) Outside) :
    Prop where
  held : ∃ objects, Held worldId s.outside s'.outside objects
  hooks : s'.hooks = []
  grown : Grown files (stateOf s) (stateOf s')

theorem storeEvidence_meets {uploads : Option (List Upload)} {requireEvidence : Bool}
    (hdepth : s'.depth ≠ 0) (hlinks : s'.outside.createdLinks = [])
    (hattachments : s'.outside.attachments = s.outside.attachments)
    (havatars : s'.outside.avatars = s.outside.avatars) (hhooks : s'.hooks = [])
    (hrows : s'.db.attachments = s.db.attachments) (hprofiles : s'.db.profiles = s.db.profiles)
    (hworld : fields.worldId = worldId) :
    (storeEvidence env files fields uploads requireEvidence).Meets s'
      (fun _ s'' => SoFar files worldId s s'')
      fun s'' => ∃ objects, Held worldId s.outside s''.outside objects := by
  have hnone : ∀ s'' : Site (FilesDb rt) Outside, s''.outside.createdLinks = [] →
      s''.outside.attachments = s'.outside.attachments → s''.outside.avatars = s'.outside.avatars →
      Held worldId s.outside s''.outside [] := fun _ h₁ h₂ h₃ =>
    Held.none h₁ (h₂.trans hattachments) (h₃.trans havatars)
  unfold storeEvidence
  split
  · refine meets_bind ((createExpenseAttachments_meets fun hzero => absurd hzero hdepth).mono
      (fun _ _ h => h) fun s'' h => ⟨[], hnone s'' (h.createdLinks.trans hlinks) h.attachments
        h.avatars⟩) fun links s₁ h => ?_
    obtain ⟨objects, hdone, -⟩ := h
    rw [hworld] at hdone
    have hstore : s₁.outside.attachments = s.outside.attachments ++ objects := by
      rw [hdone.saved.attachments, hattachments]
    have hfresh : ∀ key ∈ objects.keys, key ∉ s.outside.attachments.keys := by
      rw [← hattachments]
      exact hdone.saved.fresh
    refine meets_sure rfl ⟨⟨objects, hstore, hdone.saved.avatars.trans havatars, ?_, hfresh,
      hdone.saved.deletable⟩, hdone.hooks.trans hhooks, ⟨objects, _, hstore, ?_, hdone.added.rows,
        hfresh⟩, hdone.saved.avatars.trans havatars, hdone.added.profiles.trans hprofiles⟩
    · rw [hdone.saved.createdLinks, hlinks, List.nil_append, ← rowOf_keys hdone.added.rows,
        List.map_map]
      rfl
    · show s₁.db.attachments.rows = _
      rw [hdone.added.attachments, hrows]
      rfl
  · refine meets_pure ⟨⟨[], hnone s' hlinks rfl rfl⟩, hhooks, ⟨[], [], ?_, ?_, .nil, ?_⟩, havatars,
      hprofiles⟩
    · exact hattachments.trans (List.append_nil _).symm
    · exact (congrArg Table.rows hrows).trans (List.append_nil _).symm
    · simp [ObjectStore.keys]

theorem SoFar.finance (h : SoFar files worldId s s') (finance : FinanceDb rt) :
    SoFar files worldId s { s' with db := { s'.db with finance := finance } } :=
  ⟨h.held, h.hooks, h.grown.added, h.grown.avatars, h.grown.profiles⟩

/-- The evidence and what follows it, in a block that has changed finance rows only. -/
theorem evidenceThen_meets {uploads : Option (List Upload)} {requireEvidence : Bool} {β : Type}
    {f : FinanceDb rt → Except Error (FinanceDb rt × β)} {a : α} (hhooks : s.hooks = [])
    (hworld : fields.worldId = worldId) {finance : FinanceDb rt}
    (hs' : s' = { s with
      outside := { s.outside with createdLinks := [] }
      depth := 1
      db := { s.db with finance := finance } }) :
    (do
      storeEvidence env files fields uploads requireEvidence
      let _ ← onFinance f
      return a : FileService rt α).Meets s'
      (fun _ s'' => (∃ objects, Held worldId s.outside s''.outside objects) ∧ s''.hooks = [] ∧
        Grown files (stateOf s) (stateOf s''))
      fun s'' => ∃ objects, Held worldId s.outside s''.outside objects := by
  refine meets_bind (storeEvidence_meets (s := s) (by rw [hs']; exact Nat.one_ne_zero)
    (by rw [hs']) (by rw [hs']) (by rw [hs']) (by rw [hs']; exact hhooks) (by rw [hs'])
    (by rw [hs']) hworld) fun _ s₂ hsofar => ?_
  refine meets_bind (onFinance_meets fun db => hsofar.held) fun _ s₃ h₃ => ?_
  obtain ⟨finance', rfl⟩ := h₃
  exact meets_pure ⟨hsofar.held, hsofar.hooks, (hsofar.finance finance').grown⟩

/-- Nothing has been stored yet. -/
theorem held_begin (s : Site (FilesDb rt) Outside) (db : FilesDb rt) : ∃ objects,
    Held worldId s.outside ({ s with
      outside := { s.outside with createdLinks := [] }
      depth := 1
      db := db } : Site (FilesDb rt) Outside).outside objects :=
  ⟨[], Held.none rfl rfl rfl⟩

theorem submitExpenseClaim_meets {claimant : Member} {args : SubmitArgs}
    {uploads : Option (List Upload)} {requireEvidence : Bool} (hdepth : s.depth = 0)
    (hhooks : s.hooks = []) :
    (submitExpenseClaim env files claimant args uploads worldId requireEvidence).Meets s
      (fun _ s' => Grown files (stateOf s) (stateOf s')) fun s' => stateOf s' = stateOf s := by
  refine withEvidence_meets (Q := fun _ => Grown files (stateOf s)) hdepth ?_
  refine meets_bind (onFinance_meets fun db => held_begin s db) fun claim s₁ h => ?_
  obtain ⟨finance, h₁⟩ := h
  exact evidenceThen_meets hhooks rfl h₁

theorem markExpenseClaimPaid_meets {claim : ExpenseClaim} {payer : Member} {paymentDate : DateArg}
    {paymentMethod note : String} {uploads : Option (List Upload)} {requireEvidence : Bool}
    (hdepth : s.depth = 0) (hhooks : s.hooks = []) :
    (markExpenseClaimPaidWithEvidence env files claim payer paymentDate paymentMethod note uploads
      worldId requireEvidence).Meets s
      (fun _ s' => Grown files (stateOf s) (stateOf s')) fun s' => stateOf s' = stateOf s := by
  refine withEvidence_meets (Q := fun _ => Grown files (stateOf s)) hdepth ?_
  refine meets_bind (R := fun _ s₁ => s₁ = { s with
    outside := { s.outside with createdLinks := [] }, depth := 1 })
    (meets_check (fun _ _ => rfl) (held_begin s s.db)) fun execution s₁ h => ?_
  subst h
  refine meets_bind (onFinance_meets fun db => held_begin s db) fun txn s₂ h => ?_
  obtain ⟨finance, h₂⟩ := h
  exact evidenceThen_meets hhooks rfl h₂

/-! ## Copies and corrections -/

/-- A batch outside every transaction. -/
theorem batchDone_grown (h : BatchDone files worldId s s' objects links) :
    Grown files (stateOf s) (stateOf s') :=
  ⟨⟨objects, _, h.saved.attachments, h.added.attachments, h.added.rows, h.saved.fresh⟩,
    h.saved.avatars, h.added.profiles⟩

theorem undone_stateOf (h : Undone s s') : stateOf s' = stateOf s := by
  simp only [stateOf, h.db, h.attachments, h.avatars]

/-- One upload, of which the first link is returned. -/
theorem createOne_meets {upload : Upload} (hhooks : s.hooks = []) :
    (do
      let links ← createExpenseAttachments env files fields [upload]
      firstLink links : FileService rt ExpenseClaimAttachment).Meets s
      (fun _ s' => Grown files (stateOf s) (stateOf s')) fun s' => stateOf s' = stateOf s := by
  refine meets_bind ((createExpenseAttachments_meets fun _ => hhooks).mono (fun _ _ h => h)
    fun _ h => undone_stateOf h) fun links s₁ h => ?_
  obtain ⟨objects, hdone, hlength⟩ := h
  obtain ⟨link, rfl⟩ := List.length_eq_one_iff.1 hlength
  exact meets_pure (a := link) (batchDone_grown hdone)

theorem publishExpenseAttachmentCopy_meets {claim : ExpenseClaim} {sourceAttachment : Attachment}
    {uploadedBy : Member} {upload : Upload} (hdepth : s.depth = 0) (hhooks : s.hooks = []) :
    (publishExpenseAttachmentCopy env files claim sourceAttachment uploadedBy upload
      worldId).Meets s
      (fun _ s' => Grown files (stateOf s) (stateOf s')) fun s' => stateOf s' = stateOf s := by
  refine meets_bind (R := fun _ s₁ => s₁ = s) (meets_check (fun _ _ => rfl) rfl) fun _ s₁ h => ?_
  subst h
  refine meets_bind (R := fun _ s₂ => s₂ = s₁) (meets_query (fun _ _ => rfl) fun db h => ?_)
    fun _ s₂ h => ?_
  · rw [h hdepth]
  subst h
  refine meets_bind (R := fun _ s₃ => s₃ = s₂) (meets_check (fun _ _ => rfl) rfl) fun _ s₃ h => ?_
  subst h
  exact createOne_meets hhooks

theorem correctExpenseAttachment_meets {claim : ExpenseClaim} {replacedAttachment : Attachment}
    {uploadedBy : Member} {upload : Upload} (hdepth : s.depth = 0) (hhooks : s.hooks = []) :
    (correctExpenseAttachment env files claim replacedAttachment uploadedBy upload
      worldId).Meets s
      (fun _ s' => Grown files (stateOf s) (stateOf s')) fun s' => stateOf s' = stateOf s := by
  refine meets_bind (R := fun _ s₁ => s₁ = s) (meets_query (fun _ _ => rfl) fun db h => ?_)
    fun oldLink s₁ h => ?_
  · rw [h hdepth]
  subst h
  refine meets_bind (R := fun _ s₂ => s₂ = s₁) (meets_check (fun _ _ => rfl) rfl) fun _ s₂ h => ?_
  subst h
  exact createOne_meets hhooks

/-! ## Agreement -/

/-- The stores hold exactly the objects that the database names, with their sizes and digests. -/
structure StoresAgree (files : FileRuntime) (st : FilesState rt) : Prop where
  attachments : ∀ key, key ∈ st.attachments.keys ↔
    ∃ a ∈ st.db.attachments.rows, a.objectKey = key
  attachmentRows : ∀ object ∈ st.attachments, ∀ a ∈ st.db.attachments.rows,
    a.objectKey = object.1 → a.byteSize = object.2.length ∧ a.sha256 = files.sha256Hex object.2
  avatars : ∀ key, key ∈ st.avatars.keys ↔
    key ≠ "" ∧ ∃ p ∈ st.db.profiles.rows, p.avatarKey = key
  avatarRows : ∀ object ∈ st.avatars, ∀ p ∈ st.db.profiles.rows, p.avatarKey = object.1 →
    p.avatarSize = some object.2.length ∧ p.avatarSha256 = files.sha256Hex object.2
  /-- No two profiles share an avatar. -/
  owned : ∀ p ∈ st.db.profiles.rows, ∀ q ∈ st.db.profiles.rows, p.avatarKey ≠ "" →
    p.avatarKey = q.avatarKey → p = q

variable {st st' : FilesState rt}

theorem storesAgree_empty (hattachments : st.db.attachments.rows = []) (hstore : st.attachments = [])
    (havatars : st.avatars = []) (hprofiles : ∀ p ∈ st.db.profiles.rows, p.avatarKey = "") :
    StoresAgree files st where
  attachments key := by simp [hattachments, hstore, ObjectStore.keys]
  attachmentRows := by simp [hstore]
  avatars key := by
    simp only [havatars, ObjectStore.keys, List.map_nil, List.not_mem_nil, false_iff, not_and]
    rintro hne ⟨p, hp, rfl⟩
    exact hne (hprofiles p hp)
  avatarRows := by simp [havatars]
  owned p hp _ _ hne := absurd (hprofiles p hp) hne

/-- An added object has a row. -/
theorem rowOf_mem {rows : List Attachment} (h : List.Forall₂ (RowOf files) objects rows)
    {object : String × Bytes} (hobject : object ∈ objects) : ∃ a ∈ rows, RowOf files object a := by
  induction h with
  | nil => cases hobject
  | cons hrow _ ih =>
    rcases List.mem_cons.1 hobject with rfl | hobject
    · exact ⟨_, List.mem_cons_self, hrow⟩
    · obtain ⟨a, ha, hrow'⟩ := ih hobject
      exact ⟨a, List.mem_cons_of_mem _ ha, hrow'⟩

theorem StoresAgree.grow (h : StoresAgree files st) (hgrown : Grown files st st') :
    StoresAgree files st' := by
  obtain ⟨objects, rows, hstore, hrows, hrowOf, hfresh⟩ := hgrown.added
  have hkeys := rowOf_keys hrowOf
  refine ⟨fun key => ?_, ?_, ?_, ?_, ?_⟩
  · rw [hstore, ObjectStore.keys_append, List.mem_append, h.attachments key, ← hkeys, hrows]
    simp only [List.mem_append, List.mem_map, or_and_right, exists_or]
  · intro object hobject a ha hkey
    rw [hstore] at hobject
    rcases List.mem_append.1 hobject with hobject | hobject
    · have hold : a ∈ st.db.attachments.rows := by
        obtain ⟨b, hb, hbkey⟩ := (h.attachments _).1 (List.mem_map_of_mem hobject)
        have hb' : b ∈ st'.db.attachments.rows := hrows ▸ List.mem_append_left _ hb
        rwa [st'.db.attachments.eq_of_alt ha hb' (congrArg some hkey) (congrArg some hbkey)]
      exact h.attachmentRows object hobject a hold hkey
    · obtain ⟨b, hb, hrow⟩ := rowOf_mem hrowOf hobject
      have hb' : b ∈ st'.db.attachments.rows := hrows ▸ List.mem_append_right _ hb
      obtain rfl := st'.db.attachments.eq_of_alt ha hb' (congrArg some hkey)
        (congrArg some hrow.objectKey)
      exact ⟨hrow.byteSize, hrow.sha256⟩
  · rw [hgrown.avatars, hgrown.profiles]
    exact h.avatars
  · rw [hgrown.avatars, hgrown.profiles]
    exact h.avatarRows
  · rw [hgrown.profiles]
    exact h.owned

/-- An avatar that is named is that of a profile of the member. -/
theorem avatarKeyOf_named {db : FilesDb rt} {memberPk : Nat} (h : avatarKeyOf db memberPk ≠ "") :
    ∃ r ∈ db.profiles.rows, r.member = memberPk ∧ r.avatarKey = avatarKeyOf db memberPk := by
  unfold avatarKeyOf at h ⊢
  cases hget : db.profiles.get? memberPk with
  | none =>
    rw [hget] at h
    exact absurd rfl h
  | some r =>
    obtain ⟨hr, hmember⟩ := Table.get?_eq_some.1 hget
    exact ⟨r, hr, hmember, rfl⟩

theorem avatarKeyOf_of_mem {db : FilesDb rt} {memberPk : Nat} {q : MemberPublicProfile}
    (hq : q ∈ db.profiles.rows) (hmember : q.member = memberPk) :
    avatarKeyOf db memberPk = q.avatarKey := by
  rw [avatarKeyOf, Table.get?_eq_some.2 ⟨hq, hmember⟩]
  rfl

theorem StoresAgree.avatar_stored (h : StoresAgree files st) {memberPk : Nat}
    (hnamed : avatarKeyOf st.db memberPk ≠ "") : avatarKeyOf st.db memberPk ∈ st.avatars.keys := by
  obtain ⟨r, hr, -, hrkey⟩ := avatarKeyOf_named hnamed
  exact (h.avatars _).2 ⟨hnamed, r, hr, hrkey⟩

theorem StoresAgree.avatarChanged {memberPk : Nat} {p : MemberPublicProfile}
    (h : StoresAgree files (stateOf s)) (hch : AvatarChanged files memberPk s s' p) :
    StoresAgree files (stateOf s') := by
  obtain ⟨added, hadded, hstore⟩ := hch.avatars
  have hrows := hch.replaced.rows
  -- the key of another member's profile is neither the old key nor the new one
  have hother : ∀ q ∈ s.db.profiles.rows, q.member ≠ p.member → q.avatarKey ≠ "" →
      q.avatarKey ≠ avatarKeyOf s.db memberPk := by
    intro q hq hne hnamed hkey
    obtain ⟨r, hr, hmember, hrkey⟩ := avatarKeyOf_named (hkey ▸ hnamed)
    obtain rfl := h.owned q hq r hr hnamed (hkey.trans hrkey.symm)
    exact hne (hmember.trans hch.member.symm)
  have hold : avatarKeyOf s.db memberPk ≠ "" →
      avatarKeyOf s.db memberPk ∈ s.outside.avatars.keys := h.avatar_stored
  have hfresh : p.avatarKey ≠ "" → p.avatarKey ∉ s.outside.avatars.keys := by
    intro hnamed
    rcases hadded with ⟨-, hempty⟩ | ⟨content, -, hfresh, -⟩
    · exact absurd hempty hnamed
    · exact hfresh
  have hmem : ∀ object, object ∈ s'.outside.avatars ↔
      (object ∈ s.outside.avatars ∨ object ∈ added) ∧ object.1 ≠ avatarKeyOf s.db memberPk := by
    intro object
    rw [hstore, List.mem_filter, List.mem_append, decide_eq_true_eq]
  have hbrought : ∀ object ∈ added, object.1 = p.avatarKey ∧ p.avatarKey ≠ "" ∧
      p.avatarSize = some object.2.length ∧ p.avatarSha256 = files.sha256Hex object.2 := by
    intro object hobject
    rcases hadded with ⟨rfl, -⟩ | ⟨content, rfl, -, hnamed, hsize, hsha⟩
    · cases hobject
    · obtain rfl := List.mem_singleton.1 hobject
      exact ⟨rfl, hnamed, hsize, hsha⟩
  -- an older profile with the new key would have an object under it
  have hapart : ∀ q ∈ s.db.profiles.rows, q.avatarKey ≠ "" → q.avatarKey ≠ p.avatarKey :=
    fun q hq hnamed hkey => hfresh (hkey ▸ hnamed)
      (hkey ▸ (h.avatars _).2 ⟨hnamed, q, hq, rfl⟩)
  refine ⟨?_, ?_, fun key => ⟨fun hkey => ?_, ?_⟩, ?_, ?_⟩
  · show ∀ key, key ∈ ObjectStore.keys s'.outside.attachments ↔ _
    rw [hch.attachments]
    exact fun key => (h.attachments key).trans (by
      show _ ↔ ∃ a ∈ s'.db.attachments.rows, _
      rw [hch.replaced.attachments]
      rfl)
  · show ∀ object ∈ s'.outside.attachments, ∀ a ∈ s'.db.attachments.rows, _
    rw [hch.attachments, hch.replaced.attachments]
    exact h.attachmentRows
  · obtain ⟨object, hobject, rfl⟩ := List.mem_map.1 hkey
    obtain ⟨hobject | hobject, hne⟩ := (hmem object).1 hobject
    · obtain ⟨hnamed, q, hq, hqkey⟩ := (h.avatars object.1).1 (List.mem_map_of_mem hobject)
      exact ⟨hnamed, q, (hrows q).2 (.inl ⟨hq, fun hmember =>
        hne (hqkey.symm.trans (avatarKeyOf_of_mem hq (hmember.trans hch.member)).symm)⟩), hqkey⟩
    · obtain ⟨hkey, hnamed, -⟩ := hbrought object hobject
      exact ⟨hkey ▸ hnamed, p, (hrows p).2 (.inr rfl), hkey.symm⟩
  · rintro ⟨hnamed, q, hq, rfl⟩
    rcases (hrows q).1 hq with ⟨hq, hne⟩ | rfl
    · obtain ⟨object, hobject, hkey⟩ := List.mem_map.1 ((h.avatars _).2 ⟨hnamed, q, hq, rfl⟩)
      exact List.mem_map.2 ⟨object, (hmem object).2 ⟨.inl hobject, by
        rw [hkey]
        exact hother q hq hne hnamed⟩, hkey⟩
    · rcases hadded with ⟨-, hempty⟩ | ⟨content, rfl, -⟩
      · exact absurd hempty hnamed
      · refine List.mem_map.2 ⟨(q.avatarKey, content), (hmem _).2 ⟨.inr List.mem_cons_self, ?_⟩,
          rfl⟩
        intro heq
        have hsame : q.avatarKey = avatarKeyOf s.db memberPk := heq
        exact hfresh hnamed (hsame ▸ hold (hsame ▸ hnamed))
  · intro object hobject q hq hkey
    obtain ⟨hobject, -⟩ := (hmem object).1 hobject
    rcases (hrows q).1 hq with ⟨hq, -⟩ | rfl
    · rcases hobject with hobject | hobject
      · exact h.avatarRows object hobject q hq hkey
      · obtain ⟨hnew, hnamed, -⟩ := hbrought object hobject
        have hqkey : q.avatarKey = p.avatarKey := hkey.trans hnew
        exact absurd hqkey (hapart q hq (hqkey ▸ hnamed))
    · rcases hobject with hobject | hobject
      · have hthere : object.1 ∈ s.outside.avatars.keys := List.mem_map_of_mem hobject
        have hnamed := ((h.avatars object.1).1 hthere).1
        exact absurd (hkey ▸ hthere) (hfresh (hkey ▸ hnamed))
      · exact (hbrought object hobject).2.2
  · intro q hq r hr hnamed hkey
    rcases (hrows q).1 hq with ⟨hq, -⟩ | rfl
    · rcases (hrows r).1 hr with ⟨hr, -⟩ | rfl
      · exact h.owned q hq r hr hnamed hkey
      · exact absurd hkey (hapart q hq hnamed)
    · rcases (hrows r).1 hr with ⟨hr, -⟩ | rfl
      · exact absurd hkey.symm (hapart r hr (hkey ▸ hnamed))
      · rfl

/-! ## Calls and runs -/

/-- The gateway accepts the key of the member's avatar for deletion in the world of the call. -/
def AvatarDeletable (st : FilesState rt) (memberPk : Nat) (worldId : String) : Prop :=
  avatarKeyOf st.db memberPk ≠ "" →
    requireDeletableAvatarKey (avatarKeyOf st.db memberPk) worldId =
      .ok (avatarKeyOf st.db memberPk)

/-- Deleting objects succeeds in the call. -/
def DeletionsSucceed (st : FilesState rt) : FileCall → Prop
  | .replaceAvatar member worldId _ => AvatarDeletable st member.pk worldId
  | .removeOwnAvatar member worldId => AvatarDeletable st member.pk worldId
  | .removeAvatarAsAdministrator _ target worldId => AvatarDeletable st target.pk worldId
  | _ => True

theorem StoresAgree.deletable {memberPk : Nat} (h : StoresAgree files (stateOf s))
    (hdelete : AvatarDeletable (stateOf s) memberPk worldId) : Deletable worldId s memberPk where
  named hempty := ((h.avatars "").1 hempty).1 rfl
  stored hnamed := ⟨h.avatar_stored hnamed, hdelete hnamed⟩

theorem same_stateOf (h : Same s s') : stateOf s' = stateOf s := by
  simp only [stateOf, h.db, h.attachments, h.avatars]

/-- What a call returns is dropped. -/
theorem meets_drop {m : FileService rt α} {P E : Site (FilesDb rt) Outside → Prop}
    (h : m.Meets s (fun _ => P) E) :
    (do
      let _ ← m
      return () : FileService rt Unit).Meets s (fun _ => P) E :=
  meets_bind h fun _ _ hP => meets_pure hP

/-- **Calls.** A call keeps the agreement, and one that raises changes nothing. -/
theorem service_meets (call : FileCall) (hdepth : s.depth = 0) (hhooks : s.hooks = [])
    (h : StoresAgree files (stateOf s)) (hdelete : DeletionsSucceed (stateOf s) call) :
    (call.service env files : FileService rt Unit).Meets s
      (fun _ s' => StoresAgree files (stateOf s')) fun s' => stateOf s' = stateOf s := by
  have hgrow : ∀ s' : Site (FilesDb rt) Outside, Grown files (stateOf s) (stateOf s') →
      StoresAgree files (stateOf s') := fun _ hgrown => h.grow hgrown
  cases call with
  | submit claimant args uploads worldId requireEvidence =>
    exact meets_drop ((submitExpenseClaim_meets hdepth hhooks).mono (fun _ => hgrow) fun _ hE => hE)
  | markPaid claim payer paymentDate paymentMethod note uploads worldId requireEvidence =>
    exact meets_drop ((markExpenseClaimPaid_meets hdepth hhooks).mono (fun _ => hgrow)
      fun _ hE => hE)
  | publishCopy claim sourceAttachment uploadedBy upload worldId =>
    exact meets_drop ((publishExpenseAttachmentCopy_meets hdepth hhooks).mono (fun _ => hgrow)
      fun _ hE => hE)
  | correct claim replacedAttachment uploadedBy upload worldId =>
    exact meets_drop ((correctExpenseAttachment_meets hdepth hhooks).mono (fun _ => hgrow)
      fun _ hE => hE)
  | replaceAvatar member worldId upload =>
    exact meets_drop ((replaceOwnAvatar_meets hdepth hhooks (h.deletable hdelete)).mono
      (fun _ _ hch => h.avatarChanged hch) fun _ hE => same_stateOf hE)
  | removeOwnAvatar member worldId =>
    exact meets_drop ((removeOwnAvatar_meets hdepth hhooks (h.deletable hdelete)).mono
      (fun _ _ hch => h.avatarChanged hch) fun _ hE => same_stateOf hE)
  | removeAvatarAsAdministrator actor target worldId =>
    exact meets_drop ((removeAvatarAsAdministrator_meets hdepth hhooks (h.deletable hdelete)).mono
      (fun _ _ hch => h.avatarChanged hch) fun _ hE => same_stateOf hE)

theorem serveCall_agrees {c : FileStep rt} (h : StoresAgree files st)
    (hdelete : DeletionsSucceed st c.call) :
    StoresAgree files (serveCall files st c).2 ∧
      ∀ e, (serveCall files st c).1 = .error e → (serveCall files st c).2 = st := by
  have hmeets : (c.call.service c.env files : FileService rt Unit).Meets
      ⟨st.db, ⟨st.attachments, st.avatars, [], []⟩, [], 0⟩
      (fun _ s' => StoresAgree files (stateOf s')) fun s' => stateOf s' = st :=
    service_meets c.call rfl rfl h hdelete
  unfold serveCall
  match hserve : c.call.service c.env files c.faults
      ⟨st.db, ⟨st.attachments, st.avatars, [], []⟩, [], 0⟩ with
  | (.ok u, _, site) =>
    refine ⟨hmeets.returns hserve, fun e he => ?_⟩
    cases he
  | (.error e, _, site) =>
    have hstate : stateOf site = st := hmeets.raises hserve
    refine ⟨?_, fun _ _ => hstate⟩
    show StoresAgree files (stateOf site)
    rwa [hstate]

/-- After every call the stores agree with the database, and a call that raises has left both as
they were. -/
structure FilesHistory (files : FileRuntime) (st : FilesState rt) (cs : List (FileStep rt)) :
    Prop where
  agree : ∀ before after, cs = before ++ after →
    StoresAgree files (runCalls (fileStep files) st before)
  undone : ∀ before c after, cs = before ++ c :: after → ∀ e,
    (serveCall files (runCalls (fileStep files) st before) c).1 = .error e →
      (serveCall files (runCalls (fileStep files) st before) c).2 =
        runCalls (fileStep files) st before

/-- **Runs.** -/
theorem fileRun_history (st : FilesState rt) (h : StoresAgree files st) (cs : List (FileStep rt))
    (hdelete : EachCall (fileStep files) (fun st c => DeletionsSucceed st c.call) st cs) :
    FilesHistory files st cs := by
  have hstep : ∀ (st : FilesState rt) (c : FileStep rt) st', StoresAgree files st →
      DeletionsSucceed st c.call → fileStep files st c = .ok st' → StoresAgree files st' := by
    intro st c st' h hdelete hok
    obtain rfl := Except.ok.inj hok
    exact (serveCall_agrees h hdelete).1
  constructor
  · rintro before after rfl
    exact hdelete.of_append.1.invariant hstep h
  · rintro before c after rfl e herror
    obtain ⟨hbefore, hcall, -⟩ := hdelete.of_append
    exact (serveCall_agrees (hbefore.invariant hstep h) hcall).2 e herror

/-! ## A portrait -/

def portraitHex : String := "00112233445566778899aabbccddeeff"

theorem portraitHex_digits : ∀ c ∈ portraitHex.toList, c ∈ "0123456789abcdef".toList := by
  simp [portraitHex]

theorem portraitHex_length : portraitHex.toList.length = 32 := by
  decide

/-- A runtime whose avatars are the uploaded bytes. -/
def plainFiles : FileRuntime where
  sha256Hex := fun _ => portraitHex ++ portraitHex
  identify := fun _ => some "csv"
  validateImage := fun _ => .ok ()
  readableCsv := fun _ => true
  renderAvatar := .ok
  upper := id
  attachmentMaxFiles := 5
  attachmentMaxTotalBytes := 1000
  attachmentMaxUploadBytes := 100
  avatarMaxUploadBytes := 100

def portraitEnv : FilesEnv where
  permits := fun _ _ => false
  localDate := 0
  parseDate := fun _ => .ok none
  paymentBackend := "liveos_manual"
  hex := "a"
  executionHex := "b"
  now := 7
  uuid := fun _ => ⟨portraitHex, portraitHex_digits, portraitHex_length⟩

def emptyFiles : FilesState textRuntime where
  db := ⟨⟨Table.empty, Table.empty, Table.empty, Table.empty, Table.empty, Journal.empty⟩,
    Table.empty, Table.empty, Table.empty, Table.empty⟩
  attachments := []
  avatars := []

def sitter : Member := ⟨121, "m-121", none, "", .active, []⟩

/-- A portrait that is stored, a removal whose commit fails, and one that is committed. -/
def portraitCalls : List (FileStep textRuntime) := [
  ⟨portraitEnv, [], .replaceAvatar sitter "sim" ⟨"a.png", some 2, [[1], [2]], false⟩⟩,
  ⟨portraitEnv, [none, none, none, some (.integrity, emptyFiles.db)],
    .removeOwnAvatar sitter "sim"⟩,
  ⟨portraitEnv, [], .removeOwnAvatar sitter "sim"⟩]

theorem portraitCalls_history : FilesHistory plainFiles emptyFiles portraitCalls := by
  refine fileRun_history emptyFiles (storesAgree_empty rfl rfl rfl fun p hp => ?_) portraitCalls
    ⟨?_, ?_, ?_, trivial⟩
  · cases hp
  · exact fun hnamed => absurd rfl hnamed
  all_goals
    show AvatarDeletable _ _ _
    unfold AvatarDeletable
    decide +kernel

/-! ## Other worlds -/

/-- The key is under `world_runtime_prefix(world_id)`. -/
def isOf (worldId key : String) : Bool := (worldId ++ "/runtime/").toList.isPrefixOf key.toList

/-- The objects of a world. -/
def objectsOf (worldId : String) (store : ObjectStore) : ObjectStore :=
  store.filter fun o => isOf worldId o.1

section

variable {other key expected value : String} {store : ObjectStore} {content : Bytes}

/-- A key that a gateway accepts for a world is under the root of no other. -/
theorem requireKeyUnder_apart {path : String} {foreign invalid : Error}
    (hother : isWorldId other = true) (hne : worldId ≠ other)
    (hpath : path.toList.head? = some '/')
    (hroot : (do return (← requireSafeWorldId worldId) ++ path) = Except.ok expected)
    (h : requireKeyUnder expected key foreign invalid = .ok value) :
    value = key ∧ isOf other key = false := by
  obtain ⟨w, hsafe, hroot⟩ := bind_eq_ok.1 hroot
  obtain ⟨hworld, hw⟩ := rejectIf_bind_eq_ok.1 hsafe
  obtain rfl := pure_eq_ok.1 hw
  obtain rfl := pure_eq_ok.1 hroot
  obtain ⟨hforeign, h⟩ := rejectIf_bind_eq_ok.1 h
  obtain ⟨-, h⟩ := rejectIf_bind_eq_ok.1 h
  obtain rfl := pure_eq_ok.1 h
  simp only [Bool.or_eq_true, not_or, Bool.not_eq_true, Bool.not_eq_false'] at hforeign
  obtain ⟨name, hname⟩ := List.isPrefixOf_iff_prefix.1 hforeign.1.1
  obtain ⟨rest, hpath⟩ := List.head?_eq_some_iff.1 hpath
  refine ⟨rfl, ?_⟩
  rw [← Bool.not_eq_true]
  intro hunder
  obtain ⟨below, hbelow⟩ := List.isPrefixOf_iff_prefix.1 hunder
  have hsplit : worldId.toList ++ '/' :: (rest ++ name) =
      other.toList ++ '/' :: ("runtime/".toList ++ below) := by
    rw [← List.cons_append, ← hpath, ← List.append_assoc, ← String.toList_append, hname, ← hbelow,
      String.toList_append]
    simp
  exact hne (String.ext (segment_eq (isWorldId_noSlash (by simpa using hworld))
    (isWorldId_noSlash hother) hsplit).1)

theorem requireBusinessAttachmentKey_apart (hother : isWorldId other = true)
    (hne : worldId ≠ other) (h : requireBusinessAttachmentKey key worldId = .ok value) :
    value = key ∧ isOf other key = false := by
  obtain ⟨expected, hroot, h⟩ := bind_eq_ok.1 h
  exact requireKeyUnder_apart hother hne (by decide) hroot h

theorem requireDeletableAvatarKey_apart (hother : isWorldId other = true)
    (hne : worldId ≠ other) (h : requireDeletableAvatarKey key worldId = .ok value) :
    value = key ∧ isOf other key = false := by
  obtain ⟨expected, hroot, h⟩ := bind_eq_ok.1 h
  exact requireKeyUnder_apart hother hne (by decide) hroot h

theorem objectsOf_snoc (h : isOf other key = false) :
    objectsOf other (store ++ [(key, content)]) = objectsOf other store := by
  rw [objectsOf, List.filter_append]
  simp [objectsOf, h]

theorem objectsOf_delete (h : isOf other key = false) :
    objectsOf other (store.delete key) = objectsOf other store := by
  unfold objectsOf ObjectStore.delete
  rw [List.filter_filter]
  refine List.filter_congr fun o _ => ?_
  by_cases heq : o.1 = key
  · simp [heq, h]
  · simp [heq]

end

section

variable {other : String} {attachments avatars : ObjectStore}

/-- The objects of the other world, in both stores. -/
def OthersAre (other : String) (attachments avatars : ObjectStore) (o : Outside) : Prop :=
  objectsOf other o.attachments = attachments ∧ objectsOf other o.avatars = avatars

theorem deleteLogged_others (hother : isWorldId other = true) (hne : worldId ≠ other)
    {key : String} {o : Outside} (h : OthersAre other attachments avatars o) :
    OthersAre other attachments avatars (deleteLogged worldId key o) := by
  unfold deleteLogged
  split
  · rename_i hkey
    obtain ⟨rfl, hapart⟩ := requireDeletableAvatarKey_apart hother hne hkey
    exact ⟨h.1, (objectsOf_delete hapart).trans h.2⟩
  · exact h

theorem deleteUncommitted_keeps (hother : isWorldId other = true) (hne : worldId ≠ other)
    (key : String) : (deleteUncommitted worldId key : FileService rt Unit).Keeps
      (OthersAre other attachments avatars) := by
  refine keeps_sure fun o o' h hI => ?_
  obtain ⟨value, hkey, h⟩ := bind_eq_ok.1 h
  obtain rfl := pure_eq_ok.1 h
  obtain ⟨rfl, hapart⟩ := requireBusinessAttachmentKey_apart hother hne hkey
  exact ⟨(objectsOf_delete hapart).trans hI.1, hI.2⟩

theorem saveImmutable_keeps (hother : isWorldId other = true) (hne : worldId ≠ other)
    {uuid : Uuid} {content : Bytes} : (saveImmutable worldId uuid content :
      FileService rt String).Keeps (OthersAre other attachments avatars) := by
  refine keeps_onOutside fun o a o' h hI => ?_
  obtain ⟨key, hkey, h⟩ := bind_eq_ok.1 h
  obtain ⟨saved, hsave, h⟩ := bind_eq_ok.1 h
  obtain ⟨-, rfl⟩ := Prod.mk.inj (pure_eq_ok.1 h)
  obtain ⟨-, rfl⟩ := ObjectStore.save_ok hsave
  have hapart := (requireBusinessAttachmentKey_apart hother hne
    (newBusinessAttachmentKey_deletable hkey)).2
  exact ⟨(objectsOf_snoc hapart).trans hI.1, hI.2⟩

theorem saveProcessed_keeps (hother : isWorldId other = true) (hne : worldId ≠ other)
    {uuid : Uuid} {content : Bytes} : (saveProcessed worldId uuid content :
      FileService rt String).Keeps (OthersAre other attachments avatars) := by
  refine keeps_onOutside fun o a o' h hI => ?_
  obtain ⟨key, hkey, h⟩ := bind_eq_ok.1 h
  obtain ⟨saved, hsave, h⟩ := bind_eq_ok.1 h
  obtain ⟨-, rfl⟩ := Prod.mk.inj (pure_eq_ok.1 h)
  obtain ⟨-, rfl⟩ := ObjectStore.save_ok hsave
  have hapart := (requireDeletableAvatarKey_apart hother hne (newAvatarKey_deletable hkey).1).2
  exact ⟨hI.1, (objectsOf_snoc hapart).trans hI.2⟩

theorem saveItems_keeps (hother : isWorldId other = true) (hne : fields.worldId ≠ other)
    (items : List (ProcessedBusinessAttachment files)) (n : Nat) :
    (saveItems env fields items n : FileService rt _).Keeps
      (OthersAre other attachments avatars) := by
  induction items generalizing n with
  | nil => exact keeps_pure _
  | cons item items ih =>
    exact keeps_bind (saveImmutable_keeps hother hne) fun key =>
      keeps_bind (keeps_sure fun o o' h hI => by cases h; exact hI) fun _ =>
        keeps_bind keeps_onDb fun _ => keeps_bind keeps_onDb fun _ =>
          keeps_bind (ih (n + 1)) fun _ => keeps_pure _

theorem deleteSaved_keeps (hother : isWorldId other = true) (hne : worldId ≠ other) :
    (deleteSaved worldId : FileService rt Unit).Keeps (OthersAre other attachments avatars) :=
  keeps_chosen (m := fun s => forEach (deleteUncommitted worldId) s.outside.savedKeys)
    fun _ => keeps_forEach (deleteUncommitted_keeps hother hne) _

theorem createExpenseAttachments_keeps (hother : isWorldId other = true)
    (hne : fields.worldId ≠ other) (uploads : List Upload) :
    (createExpenseAttachments env files fields uploads : FileService rt _).Keeps
      (OthersAre other attachments avatars) :=
  keeps_bind keeps_check fun _ => keeps_bind keeps_check fun _ => keeps_bind keeps_check fun _ =>
    keeps_bind (keeps_sure fun o o' h hI => by cases h; exact hI) fun _ =>
      keeps_onError (keeps_atomic (saveItems_keeps hother hne _ 0)) (deleteSaved_keeps hother hne)

theorem cleanup_keeps (hother : isWorldId other = true) (hne : worldId ≠ other) :
    (cleanupUncommittedExpenseAttachments worldId : FileService rt Unit).Keeps
      (OthersAre other attachments avatars) :=
  keeps_chosen (m := fun s => forEach (fun link : ExpenseClaimAttachment =>
    deleteUncommitted worldId link.attachment.objectKey) s.outside.createdLinks)
    fun _ => keeps_forEach (fun _ => deleteUncommitted_keeps hother hne _) _

theorem withEvidence_keeps (hother : isWorldId other = true) (hne : worldId ≠ other)
    {body : FileService rt α} (hbody : body.Keeps (OthersAre other attachments avatars)) :
    (withEvidence worldId body).Keeps (OthersAre other attachments avatars) :=
  keeps_bind (keeps_sure fun o o' h hI => by cases h; exact hI) fun _ =>
    keeps_onError (keeps_atomic hbody) (cleanup_keeps hother hne)

theorem storeEvidence_keeps (hother : isWorldId other = true) (hne : fields.worldId ≠ other)
    {uploads : Option (List Upload)} {requireEvidence : Bool} :
    (storeEvidence env files fields uploads requireEvidence : FileService rt Unit).Keeps
      (OthersAre other attachments avatars) := by
  unfold storeEvidence
  split
  · exact keeps_bind (createExpenseAttachments_keeps hother hne _) fun _ =>
      keeps_sure fun o o' h hI => by cases h; exact hI
  · exact keeps_pure _

theorem firstLink_keeps (links : List ExpenseClaimAttachment) :
    (firstLink links : FileService rt ExpenseClaimAttachment).Keeps
      (OthersAre other attachments avatars) := by
  cases links with
  | nil =>
    intro s hs
    constructor
    · intro faults a faults' s' h
      cases h
    · intro faults e faults' s' h
      cases h
      exact hs
  | cons link links => exact keeps_pure link

theorem removeAvatar_keeps (hother : isWorldId other = true) (hne : worldId ≠ other)
    (member : Member) : (removeAvatar env member worldId : FileService rt _).Keeps
      (OthersAre other attachments avatars) := by
  refine keeps_atomic (keeps_bind keeps_onDb fun profile => ?_)
  dsimp only
  split
  · exact keeps_pure _
  · exact keeps_bind keeps_check fun _ => keeps_bind keeps_onDb fun _ =>
      keeps_bind (keeps_onCommit fun _ => deleteLogged_others hother hne) fun _ => keeps_pure _

theorem replaceOwnAvatar_keeps (hother : isWorldId other = true) (hne : worldId ≠ other)
    (member : Member) (upload : Upload) :
    (replaceOwnAvatar env files member worldId upload : FileService rt _).Keeps
      (OthersAre other attachments avatars) := by
  refine keeps_bind keeps_check fun processed => keeps_bind
    (keeps_mapError (saveProcessed_keeps hother hne)) fun newKey => keeps_onError (keeps_atomic ?_)
      (keeps_sure fun o o' h hI => ?_)
  · refine keeps_bind keeps_onDb fun profile => keeps_bind keeps_check fun _ =>
      keeps_bind keeps_onDb fun _ => ?_
    split
    · exact keeps_bind (keeps_onCommit fun _ => deleteLogged_others hother hne) fun _ =>
        keeps_pure _
    · exact keeps_pure _
  · cases h
    exact deleteLogged_others hother hne hI

theorem removeAvatarAsAdministrator_keeps (hother : isWorldId other = true) (hne : worldId ≠ other)
    (actor target : Member) :
    (removeAvatarAsAdministrator env actor target worldId : FileService rt _).Keeps
      (OthersAre other attachments avatars) := by
  refine keeps_bind keeps_check fun _ => keeps_atomic ?_
  exact keeps_bind (removeAvatar_keeps hother hne target) fun _ =>
    keeps_bind keeps_onDb fun _ => keeps_pure _

/-- **Other worlds.** No call touches an object of a world that it is not made in. -/
theorem service_keeps (env : FilesEnv) (files : FileRuntime) (call : FileCall)
    (hother : isWorldId other = true) (hne : call.worldId ≠ other) :
    (call.service env files : FileService rt Unit).Keeps
      (OthersAre other attachments avatars) := by
  cases call with
  | submit claimant args uploads worldId requireEvidence =>
    exact keeps_bind (withEvidence_keeps hother hne (keeps_bind keeps_onDb fun _ =>
      keeps_bind (storeEvidence_keeps hother hne) fun _ => keeps_bind keeps_onDb fun _ =>
        keeps_pure _)) fun _ => keeps_pure _
  | markPaid claim payer paymentDate paymentMethod note uploads worldId requireEvidence =>
    exact keeps_bind (withEvidence_keeps hother hne (keeps_bind keeps_check fun _ =>
      keeps_bind keeps_onDb fun _ => keeps_bind (storeEvidence_keeps hother hne) fun _ =>
        keeps_bind keeps_onDb fun _ => keeps_pure _)) fun _ => keeps_pure _
  | publishCopy claim sourceAttachment uploadedBy upload worldId =>
    exact keeps_bind (keeps_bind keeps_check fun _ => keeps_bind keeps_query fun _ =>
      keeps_bind keeps_check fun _ => keeps_bind (createExpenseAttachments_keeps hother hne _)
        firstLink_keeps) fun _ => keeps_pure _
  | correct claim replacedAttachment uploadedBy upload worldId =>
    exact keeps_bind (keeps_bind keeps_query fun _ => keeps_bind keeps_check fun _ =>
      keeps_bind (createExpenseAttachments_keeps hother hne _) firstLink_keeps)
        fun _ => keeps_pure _
  | replaceAvatar member worldId upload =>
    exact keeps_bind (replaceOwnAvatar_keeps hother hne member upload) fun _ => keeps_pure _
  | removeOwnAvatar member worldId =>
    exact keeps_bind (removeAvatar_keeps hother hne member) fun _ => keeps_pure _
  | removeAvatarAsAdministrator actor target worldId =>
    exact keeps_bind (removeAvatarAsAdministrator_keeps hother hne actor target) fun _ =>
      keeps_pure _

end

/-- Whatever calls on claims, attachments and avatars are made in other worlds, and whichever of
their steps raise: the objects under the root of a world are the same, in both stores. -/
theorem other_world_untouched (files : FileRuntime) (other : String)
    (hother : isWorldId other = true) (st : FilesState rt) (cs : List (FileStep rt))
    (h : ∀ c ∈ cs, c.call.worldId ≠ other) :
    objectsOf other (runCalls (fileStep files) st cs).attachments = objectsOf other st.attachments ∧
      objectsOf other (runCalls (fileStep files) st cs).avatars = objectsOf other st.avatars := by
  have hcs : EachCall (fileStep files) (fun _ c => c.call.worldId ≠ other) st cs :=
    EachCall.of_forall st fun c hc _ => h c hc
  have hstep : ∀ (st₁ : FilesState rt) (c : FileStep rt) (st₂ : FilesState rt),
      (objectsOf other st₁.attachments = objectsOf other st.attachments ∧
        objectsOf other st₁.avatars = objectsOf other st.avatars) →
      c.call.worldId ≠ other → fileStep files st₁ c = .ok st₂ →
      objectsOf other st₂.attachments = objectsOf other st.attachments ∧
        objectsOf other st₂.avatars = objectsOf other st.avatars := by
    intro st₁ c st₂ hI hne hok
    have hmeets := service_keeps c.env files c.call hother hne
      ⟨st₁.db, ⟨st₁.attachments, st₁.avatars, [], []⟩, [], 0⟩
      ⟨hI, fun _ hmem => absurd hmem List.not_mem_nil⟩
    obtain rfl := Except.ok.inj hok
    unfold serveCall
    match hserve : c.call.service c.env files c.faults
        ⟨st₁.db, ⟨st₁.attachments, st₁.avatars, [], []⟩, [], 0⟩ with
    | (.ok u, _, site) => exact (hmeets.returns hserve).outside
    | (.error e, _, site) => exact (hmeets.raises hserve).outside
  exact hcs.invariant hstep ⟨rfl, rfl⟩

/-- Another world has an avatar under the same storage. -/
def twoWorlds : FilesState textRuntime :=
  { emptyFiles with avatars := [("real/runtime/current-assets/avatars/old.webp", [9])] }

theorem other_world_untouched_portrait :
    objectsOf "real" (runCalls (fileStep plainFiles) twoWorlds portraitCalls).attachments =
      objectsOf "real" twoWorlds.attachments ∧
    objectsOf "real" (runCalls (fileStep plainFiles) twoWorlds portraitCalls).avatars =
      objectsOf "real" twoWorlds.avatars :=
  other_world_untouched plainFiles "real" (by decide +kernel) twoWorlds portraitCalls
    (by decide +kernel)

end LiveOs.Finance
