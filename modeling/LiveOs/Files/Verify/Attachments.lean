import LiveOs.Files.Attachments
import LiveOs.Lib.Outcomes
import Mathlib.Data.List.Forall2

/-!
# What attachments leave behind

An object and its row appear together: a batch that returns has added one row for each object it has
stored, and a batch that raises has deleted every object again.
-/

namespace LiveOs.Files

open Lib EventLedger Roles Finance Service

variable {rt : Runtime} {files : FileRuntime} {env : FilesEnv} {worldId : String}
  {s s' : Site (FilesDb rt) Outside} {o o₁ o₂ : Outside} {objects objects' : ObjectStore}

theorem ObjectStore.keys_append : ObjectStore.keys (objects ++ objects') =
    objects.keys ++ objects'.keys :=
  List.map_append

theorem ObjectStore.save_ok {store store' : ObjectStore} {key : String} {content : Bytes}
    {changed : Error} (h : store.save key content changed = .ok store') :
    key ∉ store.keys ∧ store' = store ++ [(key, content)] := by
  obtain ⟨hfresh, h⟩ := rejectIf_bind_eq_ok.1 h
  exact ⟨hfresh, (pure_eq_ok.1 h).symm⟩

/-- Deleting what was added to a store gives the store back. -/
theorem ObjectStore.filter_added {store added : ObjectStore}
    (hfresh : ∀ key ∈ added.keys, key ∉ store.keys) :
    (store ++ added).filter (fun o => o.1 ∉ added.keys) = store := by
  rw [List.filter_append, List.filter_eq_self.2, List.filter_eq_nil_iff.2, List.append_nil]
  · intro o ho
    have hkey : o.1 ∈ added.keys := List.mem_map_of_mem ho
    simpa using hkey
  · intro o ho
    simp only [decide_eq_true_eq]
    exact fun hadded => hfresh o.1 hadded (List.mem_map_of_mem ho)

/-! ## Deleting -/

/-- Deleting objects whose keys the gateway accepts. -/
theorem deleteAll_meets {keys : List String}
    (hdeletable : ∀ key ∈ keys, requireBusinessAttachmentKey key worldId = .ok key) :
    (forEach (deleteUncommitted worldId) keys : FileService rt Unit).Meets s
      (fun _ s' => s' = { s with outside := { s.outside with
        attachments := s.outside.attachments.filter fun o => o.1 ∉ keys } }) fun _ => False := by
  induction keys generalizing s with
  | nil =>
    refine meets_pure ?_
    simp
  | cons key keys ih =>
    refine meets_bind (R := fun _ s₁ => s₁ = { s with outside := { s.outside with
      attachments := s.outside.attachments.delete key } }) ?_ fun _ s₁ h₁ => ?_
    · refine meets_sure (o := { s.outside with
        attachments := s.outside.attachments.delete key }) ?_ rfl
      rw [hdeletable key List.mem_cons_self]
      rfl
    · refine (ih fun k hk => hdeletable k (List.mem_cons_of_mem _ hk)).mono (fun _ s₂ h₂ => ?_)
        fun _ hfalse => hfalse
      rw [h₂, h₁]
      simp only [ObjectStore.delete, List.filter_filter]
      congr 3
      funext entry
      by_cases hkey : entry.1 = key <;> simp [hkey]

theorem forEach_map {ε δ ω α β : Type} {f : β → Service ε δ ω Unit} {g : α → β} (xs : List α) :
    forEach (fun x => f (g x)) xs = forEach f (xs.map g) := by
  induction xs with
  | nil => rfl
  | cons x xs ih => rw [forEach, ih, List.map_cons, forEach]

/-! ## Saving -/

/-- The objects are all that was added outside the database, under keys that may be deleted. -/
structure Saved (worldId : String) (o o' : Outside) (objects : ObjectStore) : Prop where
  attachments : o'.attachments = o.attachments ++ objects
  avatars : o'.avatars = o.avatars
  createdLinks : o'.createdLinks = o.createdLinks
  savedKeys : o'.savedKeys = o.savedKeys ++ objects.keys
  fresh : ∀ key ∈ objects.keys, key ∉ o.attachments.keys
  deletable : ∀ key ∈ objects.keys, requireBusinessAttachmentKey key worldId = .ok key

theorem Saved.refl (o : Outside) : Saved worldId o o [] where
  attachments := (List.append_nil _).symm
  avatars := rfl
  createdLinks := rfl
  savedKeys := (List.append_nil _).symm
  fresh := by simp [ObjectStore.keys]
  deletable := by simp [ObjectStore.keys]

theorem Saved.trans (h : Saved worldId o o₁ objects) (h' : Saved worldId o₁ o₂ objects') :
    Saved worldId o o₂ (objects ++ objects') where
  attachments := by rw [h'.attachments, h.attachments, List.append_assoc]
  avatars := h'.avatars.trans h.avatars
  createdLinks := h'.createdLinks.trans h.createdLinks
  savedKeys := by rw [h'.savedKeys, h.savedKeys, ObjectStore.keys_append, List.append_assoc]
  fresh := by
    intro key hkey
    rw [ObjectStore.keys_append] at hkey
    rcases List.mem_append.1 hkey with hkey | hkey
    · exact h.fresh key hkey
    · have hnot := h'.fresh key hkey
      rw [h.attachments, ObjectStore.keys_append] at hnot
      exact fun hmem => hnot (List.mem_append_left _ hmem)
  deletable := by
    intro key hkey
    rw [ObjectStore.keys_append] at hkey
    rcases List.mem_append.1 hkey with hkey | hkey
    · exact h.deletable key hkey
    · exact h'.deletable key hkey

/-- The row has the key, the size and the digest of the object. -/
structure RowOf (files : FileRuntime) (object : String × Bytes) (a : Attachment) : Prop where
  objectKey : a.objectKey = object.1
  byteSize : a.byteSize = object.2.length
  sha256 : a.sha256 = files.sha256Hex object.2

/-- The links are all that was added to the database, with one row for each object. -/
structure RowsAdded (files : FileRuntime) (db db' : FilesDb rt) (objects : ObjectStore)
    (links : List ExpenseClaimAttachment) : Prop where
  attachments : db'.attachments.rows =
    db.attachments.rows ++ links.map ExpenseClaimAttachment.attachment
  rows : List.Forall₂ (RowOf files) objects (links.map ExpenseClaimAttachment.attachment)
  finance : db'.finance = db.finance
  profiles : db'.profiles = db.profiles

theorem RowsAdded.refl (db : FilesDb rt) : RowsAdded files db db [] [] :=
  ⟨(List.append_nil _).symm, .nil, rfl, rfl⟩

variable {db db' db₁ : FilesDb rt} {fields : BatchFields} {a : Attachment}
  {link : ExpenseClaimAttachment} {links : List ExpenseClaimAttachment}

theorem createAttachment_ok {item : ProcessedBusinessAttachment files} {key : String}
    (h : createAttachment fields item key db = .ok (a, db')) :
    RowOf files (key, item.content) a ∧ db'.attachments.rows = db.attachments.rows ++ [a] ∧
      db'.finance = db.finance ∧ db'.profiles = db.profiles := by
  obtain ⟨attachments, hinsert, h⟩ := bind_eq_ok.1 h
  obtain ⟨rfl, rfl⟩ := Prod.mk.inj (pure_eq_ok.1 h)
  exact ⟨⟨rfl, item.sealed.2, item.sealed.1⟩, (Table.insert_ok hinsert).1, rfl, rfl⟩

theorem createLink_ok (h : createLink fields a db = .ok (link, db')) :
    link.attachment = a ∧ db'.attachments = db.attachments ∧ db'.finance = db.finance ∧
      db'.profiles = db.profiles := by
  obtain ⟨attachments, -, h⟩ := bind_eq_ok.1 h
  obtain ⟨rfl, rfl⟩ := Prod.mk.inj (pure_eq_ok.1 h)
  exact ⟨rfl, rfl, rfl, rfl⟩

/-- One row more, for one object more. -/
theorem RowsAdded.cons {object : String × Bytes} (hrow : RowOf files object link.attachment)
    (hrows : db₁.attachments.rows = db.attachments.rows ++ [link.attachment])
    (hfinance : db₁.finance = db.finance) (hprofiles : db₁.profiles = db.profiles)
    (h : RowsAdded files db₁ db' objects links) :
    RowsAdded files db db' (object :: objects) (link :: links) where
  attachments := by rw [h.attachments, hrows, List.append_assoc, List.map_cons, List.singleton_append]
  rows := .cons hrow h.rows
  finance := h.finance.trans hfinance
  profiles := h.profiles.trans hprofiles

/-- A save that returns has stored the content under a fresh key; one that raises nothing. -/
theorem saveImmutable_meets {uuid : Uuid} {content : Bytes} :
    (saveImmutable worldId uuid content : FileService rt String).Meets s
      (fun key s' => s' = { s with outside := { s.outside with
          attachments := s.outside.attachments ++ [(key, content)] } } ∧
        key ∉ s.outside.attachments.keys ∧ requireBusinessAttachmentKey key worldId = .ok key)
      fun s' => s' = s := by
  refine meets_onOutside (fun key outside h => ?_) rfl
  obtain ⟨key', hkey, h⟩ := bind_eq_ok.1 h
  obtain ⟨attachments, hsave, h⟩ := bind_eq_ok.1 h
  obtain ⟨rfl, rfl⟩ := Prod.mk.inj (pure_eq_ok.1 h)
  obtain ⟨hfresh, rfl⟩ := ObjectStore.save_ok hsave
  exact ⟨rfl, hfresh, newBusinessAttachmentKey_deletable hkey⟩

/-- **The loop.** However it ends, the saved keys are the keys of the objects it has stored. -/
theorem saveItems_meets (items : List (ProcessedBusinessAttachment files)) :
    ∀ {n : Nat} {s : Site (FilesDb rt) Outside}, (saveItems env fields items n).Meets s
      (fun links s' => ∃ objects, Saved fields.worldId s.outside s'.outside objects ∧
        RowsAdded files s.db s'.db objects links ∧ s'.hooks = s.hooks ∧ s'.depth = s.depth ∧
          links.length = items.length)
      fun s' => ∃ objects, Saved fields.worldId s.outside s'.outside objects := by
  induction items with
  | nil =>
    intro n s
    exact meets_pure ⟨[], Saved.refl _, RowsAdded.refl _, rfl, rfl, rfl⟩
  | cons item items ih =>
    intro n s
    refine meets_bind (saveImmutable_meets.mono (fun _ _ h => h)
      fun s' h => ⟨[], h ▸ Saved.refl _⟩) fun key s₁ ⟨h₁, hfresh, hdeletable⟩ => ?_
    -- from here on the object is stored and its key is remembered
    refine meets_bind (R := fun _ s₂ =>
      Saved fields.worldId s.outside s₂.outside [(key, item.content)] ∧ s₂.db = s.db ∧
        s₂.hooks = s.hooks ∧ s₂.depth = s.depth) ?_ fun _ s₂ ⟨hsaved, hdb, hhooks, hdepth⟩ => ?_
    · rw [h₁]
      refine meets_sure rfl ⟨⟨rfl, rfl, rfl, rfl, ?_, ?_⟩, rfl, rfl, rfl⟩
      · intro k hk
        rwa [List.mem_singleton.1 hk]
      · intro k hk
        rwa [List.mem_singleton.1 hk]
    refine meets_bind (R := fun a s₃ => s₃.outside = s₂.outside ∧ s₃.hooks = s.hooks ∧
      s₃.depth = s.depth ∧ RowOf files (key, item.content) a ∧
        s₃.db.attachments.rows = s.db.attachments.rows ++ [a] ∧
          s₃.db.finance = s.db.finance ∧ s₃.db.profiles = s.db.profiles)
      (meets_onDb (fun a db h => ?_) fun _ _ => ⟨_, hsaved⟩)
      fun a s₃ ⟨ho₃, hhooks₃, hdepth₃, hrow, hrows, hfin, hprof⟩ => ?_
    · rw [hdb] at h
      exact ⟨rfl, hhooks, hdepth, createAttachment_ok h⟩
    refine meets_bind (R := fun link s₄ => s₄.outside = s₂.outside ∧ s₄.hooks = s.hooks ∧
      s₄.depth = s.depth ∧ link.attachment = a ∧ s₄.db.attachments = s₃.db.attachments ∧
        s₄.db.finance = s₃.db.finance ∧ s₄.db.profiles = s₃.db.profiles)
      (meets_onDb (fun link db h => ⟨ho₃, hhooks₃, hdepth₃, createLink_ok h⟩)
        fun _ _ => ⟨_, ho₃ ▸ hsaved⟩)
      fun link s₄ ⟨ho₄, hhooks₄, hdepth₄, hlink, hrows₄, hfin₄, hprof₄⟩ => ?_
    have hsaved₄ : Saved fields.worldId s.outside s₄.outside [(key, item.content)] := ho₄ ▸ hsaved
    refine meets_bind ((ih (n := n + 1)).mono (fun _ _ h => h) ?_) fun created s₅ h => ?_
    · rintro s' ⟨objects, h⟩
      exact ⟨_, hsaved₄.trans h⟩
    · obtain ⟨objects, hsaved₅, hadded, hhooks₅, hdepth₅, hlength⟩ := h
      refine meets_pure ⟨_, hsaved₄.trans hsaved₅, ?_, hhooks₅.trans hhooks₄,
        hdepth₅.trans hdepth₄, by rw [List.length_cons, hlength, List.length_cons]⟩
      exact RowsAdded.cons (hlink ▸ hrow) (by rw [hrows₄, hrows, hlink]) (hfin₄.trans hfin)
        (hprof₄.trans hprof) hadded

/-! ## Batches -/

/-- Nothing is left of what was done, besides the lists that handlers read. -/
structure Undone (s s' : Site (FilesDb rt) Outside) : Prop where
  db : s'.db = s.db
  hooks : s'.hooks = s.hooks
  depth : s'.depth = s.depth
  attachments : s'.outside.attachments = s.outside.attachments
  avatars : s'.outside.avatars = s.outside.avatars
  createdLinks : s'.outside.createdLinks = s.outside.createdLinks

theorem Undone.refl (s : Site (FilesDb rt) Outside) : Undone s s := ⟨rfl, rfl, rfl, rfl, rfl, rfl⟩

/-- The batch has stored the objects and added the links. -/
structure BatchDone (files : FileRuntime) (worldId : String) (s s' : Site (FilesDb rt) Outside)
    (objects : ObjectStore) (links : List ExpenseClaimAttachment) : Prop where
  saved : Saved worldId { s.outside with savedKeys := [] } s'.outside objects
  added : RowsAdded files s.db s'.db objects links
  hooks : s'.hooks = s.hooks
  depth : s'.depth = s.depth

theorem validateBatch_ok {uploads items : List Upload} (h : validateBatch files uploads = .ok items) :
    items = uploads := by
  obtain ⟨-, h⟩ := rejectIf_bind_eq_ok.1 h
  obtain ⟨-, h⟩ := rejectIf_bind_eq_ok.1 h
  obtain ⟨-, h⟩ := rejectIf_bind_eq_ok.1 h
  exact (pure_eq_ok.1 h).symm

/-- The handler deletes every object of the batch. -/
theorem deleteSaved_meets (hsaved : Saved worldId { o with savedKeys := [] } s.outside objects) :
    (deleteSaved worldId : FileService rt Unit).Meets s
      (fun _ s' => s' = { s with outside := { s.outside with attachments := o.attachments } })
      fun _ => False := by
  have hkeys : s.outside.savedKeys = objects.keys := hsaved.savedKeys
  have hstore : s.outside.attachments.filter (fun e => e.1 ∉ s.outside.savedKeys) =
      o.attachments := by
    rw [hsaved.attachments, hkeys]
    exact ObjectStore.filter_added hsaved.fresh
  have hdelete := deleteAll_meets (s := s) (hkeys ▸ hsaved.deletable)
  rw [hstore] at hdelete
  exact ⟨fun h => hdelete.returns h, fun h => hdelete.raises h⟩

/-- **Batches.** A batch that returns has stored one object for each upload, each with its row; one
that raises has left nothing. -/
theorem createExpenseAttachments_meets {uploads : List Upload}
    (hhooks : s.depth = 0 → s.hooks = []) :
    (createExpenseAttachments env files fields uploads).Meets s
      (fun links s' => ∃ objects, BatchDone files fields.worldId s s' objects links ∧
        links.length = uploads.length)
      (Undone s) := by
  refine meets_bind (R := fun items s₁ => items = uploads ∧ s₁ = s)
    (meets_check (fun _ h => ⟨validateBatch_ok h, rfl⟩) (Undone.refl s)) fun items s₁ h => ?_
  obtain ⟨rfl, rfl⟩ := h
  refine meets_bind (R := fun processed s₂ => processed.length = items.length ∧ s₂ = s₁)
    (meets_check (fun _ h => ⟨mapM_length h, rfl⟩) (Undone.refl s₁)) fun processed s₂ h => ?_
  obtain ⟨hlength, rfl⟩ := h
  refine meets_bind (R := fun _ s₃ => s₃ = s₂) (meets_check (fun _ _ => rfl) (Undone.refl s₂))
    fun _ s₃ h => ?_
  subst h
  refine meets_bind (R := fun _ s₄ =>
    s₄ = { s₃ with outside := { s₃.outside with savedKeys := [] } }) (meets_sure rfl rfl)
    fun _ s₄ h₄ => ?_
  refine meets_onError (R := fun s' => (∃ objects, Saved fields.worldId
      { s₃.outside with savedKeys := [] } s'.outside objects) ∧ s'.db = s₃.db ∧
    s'.hooks = s₃.hooks ∧ s'.depth = s₃.depth) (meets_atomic ?_) ?_
  · refine (saveItems_meets processed).mono (fun links s' h => ?_) fun s' h => ?_
    · obtain ⟨objects, hsaved, hadded, hhooks', -, hlinks⟩ := h
      rw [h₄] at hsaved hadded hhooks'
      refine ⟨⟨objects, ?_, hlinks.trans hlength⟩, ⟨objects, hsaved⟩, by rw [h₄]; rfl,
        by rw [h₄]; rfl, by rw [h₄]; rfl⟩
      -- the outermost block has no callbacks to run
      unfold Site.close
      rw [h₄]
      split
      · rename_i hzero
        have hnone : s'.hooks = [] := hhooks'.trans (hhooks hzero)
        exact ⟨by simpa [Site.committed, hnone] using hsaved, hadded, (hhooks hzero).symm,
          hzero.symm⟩
      · exact ⟨hsaved, hadded, hhooks', rfl⟩
    · obtain ⟨objects, hsaved⟩ := h
      rw [h₄] at hsaved ⊢
      exact ⟨⟨objects, hsaved⟩, rfl, rfl, rfl⟩
  · rintro s' ⟨⟨objects, hsaved⟩, hdb, hhooks', hdepth⟩
    refine (deleteSaved_meets hsaved).mono (fun _ s'' h => ?_) fun _ hfalse => hfalse.elim
    rw [h]
    exact ⟨hdb, hhooks', hdepth, rfl, hsaved.avatars, hsaved.createdLinks⟩

end LiveOs.Files
