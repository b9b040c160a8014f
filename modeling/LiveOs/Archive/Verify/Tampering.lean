import LiveOs.Archive.Verification
import LiveOs.Archive.Verify.Dispositions
import LiveOs.Lib.JsonCanonical
import Mathlib.Data.List.Perm.Basic

/-!
# Tamper evidence

The hash of a snapshot covers the entries of its manifest one after another, and every entry is an
object, which closes itself. So one hash stands for one list of entries up to their order, as long
as the digest has no collisions; a hash of the first format covers text that ends in a digest and
never agrees with it. All of this is checked only for a manifest that is truthy.
-/

namespace LiveOs.Archive

open Lib EventLedger Planning Roles

variable {lib : Libraries} {py : Python} {fs : FileSystem} {dir : String}

@[simp] theorem failing_eq_nil {ok : Bool} {message : String} :
    failing ok message = [] ↔ ok = true := by
  cases ok <;> simp [failing]

theorem strOr_str (s : String) : strOr py (.str s) "" = s := by
  by_cases h : s = ""
  · subst h
    rfl
  · have htruthy : truthy (.str s) = true := by simpa [truthy, Json.toPy, PyVal.truthy] using h
    rw [strOr, if_pos htruthy]
    rfl

/-! ## Files -/

/-- The path of an entry lies in the archive, and its file has the hash of the entry. -/
structure FileMatches (lib : Libraries) (fs : FileSystem) (dir : String)
    (item : List (String × Json)) : Prop where
  inside : fs.resolve dir <+:
    fs.resolve (joinPath dir (strOr lib.toPython (getKey item "path") ""))
  sha : lib.digest (fs.read (fs.resolve (joinPath dir
    (strOr lib.toPython (getKey item "path") "")))) = strOr lib.toPython (getKey item "sha256") ""

theorem archiveChildPath_eq_some {relative : String} {path : List String}
    (h : archiveChildPath fs dir relative = some path) :
    path = fs.resolve (joinPath dir relative) ∧ fs.resolve dir <+: path := by
  by_cases hpre : (fs.resolve dir).isPrefixOf (fs.resolve (joinPath dir relative)) = true
  · simp only [archiveChildPath, hpre, if_true, Option.some.injEq] at h
    subst h
    exact ⟨rfl, List.isPrefixOf_iff_prefix.1 hpre⟩
  · simp only [archiveChildPath, hpre] at h
    cases h

theorem setCount_ne_nil {counts : List (String × Int)} {label : String} {n : Int} :
    setCount counts label n ≠ [] := by
  cases counts with
  | nil => exact List.cons_ne_nil _ _
  | cons c counts =>
    rw [setCount]
    split <;> exact List.cons_ne_nil _ _

theorem RawCheck.error_ne_nil {acc : RawCheck} {message : String} :
    (acc.error message).errors ≠ [] :=
  List.append_ne_nil_of_right_ne_nil _ (List.cons_ne_nil _ _)

/-- An entry that adds no error is an object whose file matches. -/
theorem verifyRawModel_clean {index : Nat} {entry : Json} {acc acc' : RawCheck}
    (h : verifyRawModel lib fs dir index entry acc = .ok acc') (hclean : acc'.errors = []) :
    acc.errors = [] ∧ acc'.tableCounts ≠ [] ∧ ∃ item, entry = .obj item ∧
      FileMatches lib fs dir item ∧
      acc'.normalizedRawModels = acc.normalizedRawModels ++ [item] := by
  cases entry with
  | scalar s =>
    obtain rfl := Except.ok.inj h
    exact absurd hclean RawCheck.error_ne_nil
  | str s =>
    obtain rfl := Except.ok.inj h
    exact absurd hclean RawCheck.error_ne_nil
  | arr xs =>
    obtain rfl := Except.ok.inj h
    exact absurd hclean RawCheck.error_ne_nil
  | obj item =>
    simp only [verifyRawModel] at h
    split at h
    · obtain rfl := Except.ok.inj h
      exact absurd hclean RawCheck.error_ne_nil
    · split at h
      · obtain rfl := Except.ok.inj h
        exact absurd hclean RawCheck.error_ne_nil
      · rename_i rawPath hpath
        obtain ⟨rfl, hinside⟩ := archiveChildPath_eq_some hpath
        split at h
        · obtain ⟨rawRecords, -, h⟩ := bind_eq_ok.1 h
          obtain ⟨count, -, h⟩ := bind_eq_ok.1 h
          obtain rfl := pure_eq_ok.1 h
          simp only [List.append_eq_nil_iff, failing_eq_nil, decide_eq_true_eq] at hclean
          obtain ⟨⟨⟨hacc, hsha⟩, -⟩, -⟩ := hclean
          exact ⟨hacc, setCount_ne_nil, item, rfl, ⟨hinside, hsha⟩, rfl⟩
        · obtain rfl := Except.ok.inj h
          exact absurd hclean RawCheck.error_ne_nil

/-- Entries that add no error. -/
theorem verifyEntries_clean {index : Nat} {entries : List Json} {acc acc' : RawCheck}
    (h : verifyEntries lib fs dir index entries acc = .ok acc') (hclean : acc'.errors = []) :
    acc.errors = [] ∧ ∃ items : List (List (String × Json)), entries = items.map Json.obj ∧
      (∀ item ∈ items, FileMatches lib fs dir item) ∧
      acc'.normalizedRawModels = acc.normalizedRawModels ++ items ∧
      (items ≠ [] → acc'.tableCounts ≠ []) := by
  induction entries generalizing index acc with
  | nil =>
    obtain rfl := Except.ok.inj h
    exact ⟨hclean, [], rfl, fun _ h => absurd h List.not_mem_nil, (List.append_nil _).symm,
      fun h => absurd rfl h⟩
  | cons entry rest ih =>
    obtain ⟨acc₁, hentry, hrest⟩ := bind_eq_ok.1 h
    obtain ⟨hclean₁, items, rfl, hfiles, hnormalized, hcounts⟩ := ih hrest
    obtain ⟨hclean₀, hcounts₁, item, rfl, hfile, hnormalized₁⟩ :=
      verifyRawModel_clean hentry hclean₁
    refine ⟨hclean₀, item :: items, rfl, ?_, ?_, ?_⟩
    · exact List.forall_mem_cons.2 ⟨hfile, hfiles⟩
    · rw [hnormalized, hnormalized₁, List.append_assoc, List.singleton_append]
    · intro _
      by_cases hitems : items = []
      · subst hitems
        obtain rfl := Except.ok.inj hrest
        exact hcounts₁
      · exact hcounts hitems

/-! ## Hashed texts -/

/-- The members of the payload of an entry, in the order of its text. -/
def stableMembers (item : List (String × Json)) : List (String × Json) :=
  (Json.byKey [("count", getKey item "count"), ("db_table", getKey item "db_table"),
    ("model", getKey item "model"), ("path", getKey item "path"),
    ("sha256", getKey item "sha256")]).map fun e => (e.1, e.2.toPy.canonicalTree)

theorem stablePayload_tree (item : List (String × Json)) :
    (stablePayload item).toPy.canonicalTree = .obj (stableMembers item) :=
  Json.canonicalTree_toPy_obj _

theorem stableMembers_ne_nil (item : List (String × Json)) : stableMembers item ≠ [] := by
  intro h
  have hlength := congrArg List.length h
  rw [stableMembers, List.length_map, (Json.byKey_perm _).length_eq] at hlength
  cases hlength

theorem stableText_eq (item : List (String × Json)) :
    stableText item = (Json.obj (stableMembers item)).text := by
  rw [stableText, stablePayload_tree]

/-- The entries in the order of their hash. -/
def hashOrder (py : Python) (items : List (List (String × Json))) :
    List (List (String × Json)) :=
  items.insertionSort fun a b => sortLabel py a ≤ sortLabel py b

theorem hashOrder_perm (items : List (List (String × Json))) : (hashOrder py items).Perm items :=
  items.perm_insertionSort _

theorem hashedText_eq (items : List (List (String × Json))) : hashedText py items =
    (((hashOrder py items).map stableMembers).map fun es => (Json.obj es).text).flatten := by
  rw [List.map_map]
  exact congrArg (List.flatten ∘ fun f => List.map f (hashOrder py items)) (funext stableText_eq)

/-- Equal values under a key of payloads that are the same, when one is a text or a number. -/
theorem same_text {v : Json} {s : String} (h : Json.Same v (.str s)) : v = .str s := by
  cases h
  rfl

theorem same_scalar {v : Json} {x : Scalar} (h : Json.Same v (.scalar x)) : v = .scalar x := by
  cases h
  rfl

/-- The keys that the hash of an entry covers. -/
def stableKeys : List String := ["count", "db_table", "model", "path", "sha256"]

theorem stableKeys_nodup : stableKeys.Nodup := by decide

/-- The hashed payload has the values of the entry under its keys. -/
theorem stablePayload_eq (item : List (String × Json)) :
    stablePayload item = .obj (stableKeys.map fun key => (key, getKey item key)) := rfl

theorem same_stableKey {item item' : List (String × Json)}
    (h : Json.Same (stablePayload item) (stablePayload item')) {key : String}
    (hkey : key ∈ stableKeys) : Json.Same (getKey item key) (getKey item' key) := by
  rw [stablePayload_eq, stablePayload_eq] at h
  refine h.member ?_ (List.mem_map.2 ⟨key, hkey, rfl⟩) (List.mem_map.2 ⟨key, hkey, rfl⟩)
  rw [List.map_map]
  exact (List.map_id stableKeys).symm ▸ stableKeys_nodup

/-- An entry gives a model as it was archived. -/
structure Lists (lib : Libraries) (item : List (String × Json)) (m : RawModel) : Prop where
  count : getKey item "count" = .scalar (.int m.count)
  dbTable : getKey item "db_table" = .str m.dbTable
  model : getKey item "model" = .str m.label
  path : getKey item "path" = .str m.path
  sha256 : getKey item "sha256" = .str (lib.digest m.content.toUTF8)

theorem lists_entry (m : RawModel) : Lists lib (m.entry lib) m := by
  constructor <;> rfl

theorem lists_of_same {item : List (String × Json)} {m : RawModel}
    (h : Json.Same (stablePayload item) (stablePayload (m.entry lib))) : Lists lib item m := by
  have hentry : Lists lib (m.entry lib) m := lists_entry m
  refine ⟨?_, ?_, ?_, ?_, ?_⟩
  · exact same_scalar (hentry.count ▸ same_stableKey h (by decide))
  · exact same_text (hentry.dbTable ▸ same_stableKey h (by decide))
  · exact same_text (hentry.model ▸ same_stableKey h (by decide))
  · exact same_text (hentry.path ▸ same_stableKey h (by decide))
  · exact same_text (hentry.sha256 ▸ same_stableKey h (by decide))

/-- **One text stands for one list of entries**, up to their order. -/
theorem hashedText_inj {items items' : List (List (String × Json))}
    (h : hashedText py items = hashedText py items') :
    List.Forall₂ (fun item item' => Json.Same (stablePayload item) (stablePayload item'))
      (hashOrder py items) (hashOrder py items') := by
  rw [hashedText_eq, hashedText_eq] at h
  have hnonempty : ∀ items : List (List (String × Json)),
      ∀ es ∈ (hashOrder py items).map stableMembers, es ≠ [] := by
    intro items es hes
    obtain ⟨item, -, rfl⟩ := List.mem_map.1 hes
    exact stableMembers_ne_nil item
  have hmembers := Json.flatten_texts_inj (hnonempty items) (hnonempty items') h
  have hforall : List.Forall₂ (· = ·) ((hashOrder py items).map stableMembers)
      ((hashOrder py items').map stableMembers) := by
    rw [List.forall₂_eq_eq_eq]
    exact hmembers
  have htrees := List.forall₂_map_left_iff.1 (List.forall₂_map_right_iff.1 hforall)
  refine htrees.imp fun item item' hsame => ?_
  refine Json.same_of_canonicalTree _ _ ?_
  rw [stablePayload_tree, stablePayload_tree, hsame]

/-- Entries with the text of the entries of models are entries of these models. -/
theorem exists_lists {items : List (List (String × Json))} {models : List RawModel}
    (h : hashedText py items = hashedText py (models.map (RawModel.entry lib))) :
    ∃ ms : List RawModel, ms.Perm models ∧ List.Forall₂ (Lists lib) items ms := by
  -- in the order of the hash the entries pair off; permutations carry that over
  obtain ⟨items', hsame, hperm⟩ :=
    List.perm_comp_forall₂ (hashOrder_perm (models.map (RawModel.entry lib))).symm
      (hashedText_inj h).flip
  have hlists : List.Forall₂ (Lists lib) items' models :=
    (List.forall₂_map_right_iff.1 hsame.flip).imp fun _ _ => lists_of_same
  obtain ⟨ms, hms, hmodels⟩ :=
    List.perm_comp_forall₂ ((hashOrder_perm items).symm.trans hperm.symm) hlists
  exact ⟨ms, hmodels, hms⟩

/-! ## Digests -/

/-- A digest without collisions that is written in hexadecimal digits. -/
structure HexDigest (digest : ByteArray → String) : Prop where
  injective : Function.Injective digest
  hex : ∀ data, ∀ c ∈ (digest data).toList, c ∈ "0123456789abcdef".toList
  nonempty : ∀ data, digest data ≠ ""

/-- Texts with one digest are one text. -/
theorem HexDigest.text_inj (h : HexDigest lib.digest) {a b : List Char}
    (hab : lib.digest (String.ofList a).toUTF8 = lib.digest (String.ofList b).toUTF8) : a = b :=
  String.ofList_injective (String.toByteArray_inj.1 (h.injective hab))

theorem getLast?_flatten {α : Type} {a : α} : ∀ {xs : List (List α)},
    xs.flatten.getLast? = some a → ∃ x ∈ xs, x.getLast? = some a
  | [], h => by cases h
  | x :: xs, h => by
    rw [List.flatten_cons, List.getLast?_append] at h
    cases hrest : xs.flatten.getLast? with
    | none =>
      rw [hrest] at h
      exact ⟨x, List.mem_cons_self, h⟩
    | some b =>
      rw [hrest] at h
      obtain ⟨y, hy, hlast⟩ := getLast?_flatten (hrest.trans h)
      exact ⟨y, List.mem_cons_of_mem _ hy, hlast⟩

theorem text_obj_getLast? {es : List (String × Json)} :
    (Json.obj es).text.getLast? = some '\x7d' := by
  cases es with
  | nil => rfl
  | cons e es =>
    rw [Json.text, List.getLast?_append]
    rfl

/-- The text of entries ends in the brace of the last one. -/
theorem hashedText_getLast? {items : List (List (String × Json))} (h : items ≠ []) :
    (hashedText py items).getLast? = some '\x7d' := by
  have hbraces : ∀ c, (hashedText py items).getLast? = some c → c = '\x7d' := by
    intro c hc
    rw [hashedText_eq] at hc
    obtain ⟨text, htext, hlast⟩ := getLast?_flatten hc
    obtain ⟨es, -, rfl⟩ := List.mem_map.1 htext
    exact (Option.some.inj (text_obj_getLast?.symm.trans hlast)).symm
  cases hlast : (hashedText py items).getLast? with
  | some c => rw [hbraces c hlast]
  | none =>
    -- an entry has a text, which would be part of the empty one
    obtain ⟨item, hitem⟩ := List.exists_mem_of_ne_nil items h
    have hnil := List.getLast?_eq_none_iff.1 hlast
    have htext : stableText item = [] := List.flatten_eq_nil_iff.1 hnil _
      (List.mem_map_of_mem ((hashOrder_perm items).mem_iff.2 hitem))
    rw [stableText_eq] at htext
    have hbrace := @text_obj_getLast? (stableMembers item)
    rw [htext] at hbrace
    cases hbrace

/-- The text of the first format ends in a digest. -/
theorem legacyText_getLast? (h : HexDigest lib.digest) {manifest : List (String × Json)} {c : Char}
    (hc : (legacyText lib fs dir manifest).getLast? = some c) :
    c ∈ "0123456789abcdef".toList := by
  obtain ⟨chunk, hchunk, hlast⟩ := getLast?_flatten hc
  obtain ⟨relative, -, rfl⟩ := List.mem_map.1 hchunk
  rw [List.getLast?_append] at hlast
  generalize (if relative = "manifest.json" then
    (lib.dumps (.obj (Json.upsert manifest ("raw_archive_hash", .str "")))).toUTF8
    else fs.read (fs.resolve (joinPath dir relative))) = data at hlast
  cases hdigest : (lib.digest data).toList.getLast? with
  | none =>
    have hnil := List.getLast?_eq_none_iff.1 hdigest
    exact absurd (String.toList_eq_nil_iff.1 hnil) (h.nonempty data)
  | some d =>
    rw [hdigest] at hlast
    obtain rfl := Option.some.inj hlast
    exact h.hex data d (List.mem_of_getLast? hdigest)

/-- No text of the first format is the text of entries. -/
theorem legacyText_ne (h : HexDigest lib.digest) {manifest : List (String × Json)}
    {items : List (List (String × Json))}
    (htexts : hashedText py items = legacyText lib fs dir manifest) : items = [] := by
  by_contra hitems
  have hlast := @hashedText_getLast? py items hitems
  rw [htexts] at hlast
  exact absurd (legacyText_getLast? h hlast) (by decide)

/-! ## Manifests -/

/-- What a manifest without errors says. -/
theorem verifyRawModels_clean {snapshot : Snapshot} {manifest : List (String × Json)}
    {entries : List Json} {found : List String × List String}
    (h : verifyRawModels lib fs snapshot manifest entries = .ok found) (hclean : found.1 = []) :
    ∃ items : List (List (String × Json)), entries = items.map Json.obj ∧
      (∀ item ∈ items, FileMatches lib fs snapshot.rawArchivePath item) ∧
      (snapshot.rawTableCounts = [] → items = []) ∧
      (snapshot.rawArchiveHash = "" ∨ snapshot.rawArchiveHash = hashRawManifestEntries lib items ∨
        snapshot.rawArchiveHash =
          legacyHashArchiveFilesV1 lib fs snapshot.rawArchivePath manifest) := by
  obtain ⟨check, hcheck, h⟩ := bind_eq_ok.1 h
  obtain ⟨version, -, h⟩ := bind_eq_ok.1 h
  obtain rfl := pure_eq_ok.1 h
  simp only [List.append_eq_nil_iff, failing_eq_nil, decide_eq_true_eq, Bool.or_eq_true,
    List.isPerm_iff] at hclean
  obtain ⟨⟨⟨herrors, hcounts⟩, hexpected⟩, hhash⟩ := hclean
  obtain ⟨-, items, rfl, hfiles, hnormalized, hnonempty⟩ := verifyEntries_clean hcheck herrors
  refine ⟨items, rfl, hfiles, ?_, ?_⟩
  · intro hrow
    by_contra hitems
    rw [hrow] at hcounts
    exact hnonempty hitems hcounts.eq_nil
  · rw [hexpected] at hhash
    rcases hhash with hempty | hhash
    · exact .inl hempty
    · right
      rw [List.nil_append] at hnormalized
      split at hhash
      · exact .inl (by rw [← hhash, hnormalized])
      · exact .inr hhash.symm

/-! ## The theorem -/

/-- An entry gives a model as it was archived, and the file of the model is the archived one. -/
structure Attested (lib : Libraries) (fs : FileSystem) (dir : String)
    (item : List (String × Json)) (m : RawModel) : Prop where
  lists : Lists lib item m
  bytes : fs.read (fs.resolve (joinPath dir m.path)) = m.content.toUTF8
  inside : fs.resolve dir <+: fs.resolve (joinPath dir m.path)

/-- A manifest lists exactly the models, and each of them is attested. -/
def TamperEvident (lib : Libraries) (fs : FileSystem) (dir : String) (models : List RawModel)
    (manifest : Json) : Prop :=
  ∃ es items ms, manifest = .obj es ∧ getKey es "raw_models" = .arr (items.map .obj) ∧
    ms.Perm models ∧ List.Forall₂ (Attested lib fs dir) items ms

theorem RawModel.path_ne_empty (m : RawModel) : m.path ≠ "" := by
  intro h
  have hlength := congrArg String.length h
  rw [RawModel.path, String.length_append, String.length_append] at hlength
  have hraw : "raw/".length = 4 := rfl
  have hempty : "".length = 0 := rfl
  omega

theorem attested {item : List (String × Json)} {m : RawModel} (hdigest : HexDigest lib.digest)
    (hfile : FileMatches lib fs dir item) (hlists : Lists lib item m) :
    Attested lib fs dir item m := by
  have hinside := hfile.inside
  have hsha := hfile.sha
  rw [hlists.path, strOr_str] at hinside hsha
  rw [hlists.sha256, strOr_str] at hsha
  exact ⟨hlists, hdigest.injective hsha, hinside⟩

/-- What archiving a run without a snapshot writes. -/
structure Archived (lib : Libraries) (env : ArchiveEnv) (s : ArchiveState) (world : World)
    (run : RunRow) (args : ArchiveArgs) (snapshotId : String)
    (r : ArchiveState × ArchiveResult) : Prop where
  found : related (env.source world).runs run.runId "SimulationRun" = .ok run
  absent : snapshotOf s world run = none
  snapshot : r.2.snapshot = newSnapshot lib env s world run ((env.source world).records run.runId)
    args snapshotId
  snapshots : r.1.snapshots.rows = s.snapshots.rows ++ [r.2.snapshot]
  items : bulkCreate s.items (normalizedItems snapshotId run
    ((env.source world).records run.runId)) = .ok r.1.items
  files : r.1.files = s.files ++ newFiles lib env world run
    ((env.source world).records run.runId) snapshotId
  disposition : (dispositionOf r.1 world run).isSome = true

theorem archived_of_created {env : ArchiveEnv} {s : ArchiveState} {world : World} {runId : String}
    {args : ArchiveArgs} {r : ArchiveState × ArchiveResult}
    (h : archiveSimulationRun lib env s world runId args = .ok r) (hcreated : r.2.created = true) :
    ∃ run snapshotId, run.runId = runId ∧ Archived lib env s world run args snapshotId r := by
  obtain ⟨run, rfl, hrun, heffect⟩ := archiveSimulationRun_effect h
  cases heffect with
  | kept hp hrecord => cases hcreated
  | written hp hsnapshots hitems hrecord =>
    obtain ⟨hsnap, hitem, hfiles, hdisposition⟩ := recordDisposition_frame hrecord
    refine ⟨run, _, rfl, hrun, hp, rfl, ?_, ?_, hfiles, ?_⟩
    · rw [hsnap]
      exact (Table.insert_ok hsnapshots).1
    · rw [hitem]
      exact hitems
    · rw [hdisposition]
      rfl

theorem Archived.row {env : ArchiveEnv} {s : ArchiveState} {world : World} {run : RunRow}
    {args : ArchiveArgs} {snapshotId : String} {r : ArchiveState × ArchiveResult}
    (h : Archived lib env s world run args snapshotId r) :
    r.1.snapshots.get? r.2.snapshot.snapshotId = some r.2.snapshot := by
  refine Table.get?_eq_some.2 ⟨?_, rfl⟩
  rw [h.snapshots]
  exact List.mem_append_right _ (List.mem_singleton_self _)

/-- A manifest that passes the checks of a created snapshot. -/
theorem tamperEvident_of_clean {snapshot : Snapshot} {models : List RawModel} {manifest : Json}
    {check : ManifestCheck} (hdigest : HexDigest lib.digest)
    (hhash : snapshot.rawArchiveHash =
      hashRawManifestEntries lib (models.map (RawModel.entry lib)))
    (hcounts : snapshot.rawTableCounts = models.map fun m => (m.label, (m.count : Int)))
    (htruthy : truthy manifest = true)
    (h : verifyManifest lib fs snapshot manifest = .ok check) (hclean : check.errors = []) :
    TamperEvident lib fs snapshot.rawArchivePath models manifest := by
  unfold verifyManifest at h
  rw [if_pos htruthy] at h
  cases manifest with
  | scalar s => cases h
  | str s => cases h
  | arr xs => cases h
  | obj es =>
    dsimp only at h
    cases hraw : getKey es "raw_models" with
    | arr entries =>
      rw [hraw] at h
      obtain ⟨found, hfound, h⟩ := bind_eq_ok.1 h
      obtain rfl := pure_eq_ok.1 h
      obtain ⟨-, hclean⟩ := List.append_eq_nil_iff.1 hclean
      obtain ⟨items, rfl, hfiles, hnone, hhashes⟩ := verifyRawModels_clean hfound hclean
      have htexts : hashedText lib.toPython items =
          hashedText lib.toPython (models.map (RawModel.entry lib)) := by
        rw [hhash] at hhashes
        rcases hhashes with hempty | hentries | hlegacy
        · exact absurd hempty (hdigest.nonempty _)
        · exact (hdigest.text_inj hentries).symm
        · -- the first format leaves no model, and then no entry
          have hmodels : models = [] := List.map_eq_nil_iff.1
            (legacyText_ne hdigest (hdigest.text_inj hlegacy))
          subst hmodels
          rw [hnone hcounts]
          rfl
      obtain ⟨ms, hperm, hlists⟩ := exists_lists htexts
      refine ⟨es, items, ms, rfl, hraw, hperm, ?_⟩
      exact ((List.forall₂_and_left items ms).2 ⟨hfiles, hlists⟩).imp
        fun _ _ h => attested hdigest h.1 h.2
    | scalar s | str s | obj fs' =>
      rw [hraw] at h
      obtain ⟨found, -, h⟩ := bind_eq_ok.1 h
      obtain rfl := pure_eq_ok.1 h
      cases hclean

theorem truthy_of_tamperEvident {models : List RawModel} {manifest : Json}
    (h : TamperEvident lib fs dir models manifest) : truthy manifest = true := by
  obtain ⟨es, items, ms, rfl, hraw, -⟩ := h
  cases es with
  | nil => cases hraw
  | cons e es => rfl

/-- **Tamper evidence.** A snapshot that verifies against whatever its directory holds now has the
archived manifest entries and files exactly when its manifest is truthy. -/
theorem verifySimulationSnapshot_evidence_iff {env : ArchiveEnv} {s s' : ArchiveState}
    {world : World} {runId : String} {args : ArchiveArgs} {archived : ArchiveResult}
    {result : ArchiveVerificationResult} (hdigest : HexDigest lib.digest)
    (harchive : archiveSimulationRun lib env s world runId args = .ok (s', archived))
    (hcreated : archived.created = true) (fs : FileSystem) (later : ArchiveState)
    (hrow : later.snapshots.get? archived.snapshot.snapshotId = some archived.snapshot)
    (hverify : verifySimulationSnapshot lib fs later archived.snapshot.snapshotId = .ok result)
    (hok : result.ok = true) :
    (∃ manifest, loadManifest lib fs archived.snapshot = .ok (manifest, []) ∧
      TamperEvident lib fs archived.snapshot.rawArchivePath (env.source world).rawModels manifest) ↔
    ∃ manifest, loadManifest lib fs archived.snapshot = .ok (manifest, []) ∧
      truthy manifest = true := by
  constructor
  · rintro ⟨manifest, hload, hevident⟩
    exact ⟨manifest, hload, truthy_of_tamperEvident hevident⟩
  · rintro ⟨manifest, hload, htruthy⟩
    refine ⟨manifest, hload, ?_⟩
    rw [verifySimulationSnapshot, hrow] at hverify
    obtain ⟨loaded, hloaded, hverify⟩ := bind_eq_ok.1 hverify
    obtain rfl := Except.ok.inj (hload.symm.trans hloaded)
    obtain ⟨check, hcheck, hverify⟩ := bind_eq_ok.1 hverify
    obtain ⟨indexed, -, hverify⟩ := bind_eq_ok.1 hverify
    obtain rfl := pure_eq_ok.1 hverify
    have herrors := List.isEmpty_iff.1 hok
    simp only [List.append_eq_nil_iff] at herrors
    obtain ⟨⟨⟨-, hclean⟩, -⟩, -⟩ := herrors
    obtain ⟨run, snapshotId, -, harchived⟩ := archived_of_created harchive hcreated
    have hsnapshot : archived.snapshot = newSnapshot lib env s world run
        ((env.source world).records run.runId) args snapshotId := harchived.snapshot
    exact tamperEvident_of_clean hdigest (by rw [hsnapshot]; rfl) (by rw [hsnapshot]; rfl) htruthy
      hcheck hclean

/-! ## A pilot archive -/

/-- A digest for texts that are not hashed here: every byte in unary. -/
def unaryDigest (data : ByteArray) : String :=
  String.ofList ('a' :: data.data.toList.flatMap fun b => List.replicate b.toNat 'a' ++ ['b'])

theorem unary_append_inj : ∀ {m n : Nat} {r r' : List Char},
    List.replicate m 'a' ++ 'b' :: r = List.replicate n 'a' ++ 'b' :: r' → m = n ∧ r = r'
  | 0, 0, _, _, h => ⟨rfl, (List.cons.inj h).2⟩
  | 0, n + 1, _, _, h => absurd (List.cons.inj h).1 (by decide)
  | m + 1, 0, _, _, h => absurd (List.cons.inj h).1 (by decide)
  | m + 1, n + 1, _, _, h => by
    obtain ⟨rfl, hr⟩ := unary_append_inj (List.cons.inj h).2
    exact ⟨rfl, hr⟩

theorem unary_inj : ∀ {xs ys : List UInt8},
    (xs.flatMap fun b => List.replicate b.toNat 'a' ++ ['b']) =
      (ys.flatMap fun b => List.replicate b.toNat 'a' ++ ['b']) → xs = ys
  | [], [], _ => rfl
  | [], y :: ys, h => by simp at h
  | x :: xs, [], h => by simp at h
  | x :: xs, y :: ys, h => by
    simp only [List.flatMap_cons, List.append_assoc, List.singleton_append] at h
    obtain ⟨hbyte, hrest⟩ := unary_append_inj h
    rw [UInt8.toNat_inj.1 hbyte, unary_inj hrest]

theorem unaryDigest_injective : Function.Injective unaryDigest := by
  intro a b h
  exact ByteArray.ext (Array.toList_inj.1 (unary_inj (List.cons.inj (String.ofList_injective h)).2))

theorem mem_unaryDigest {data : ByteArray} {c : Char} (h : c ∈ (unaryDigest data).toList) :
    c = 'a' ∨ c = 'b' := by
  rw [unaryDigest, String.toList_ofList, List.mem_cons, List.mem_flatMap] at h
  rcases h with rfl | ⟨b, -, hc⟩
  · exact .inl rfl
  · rcases List.mem_append.1 hc with hc | hc
    · exact .inl (List.eq_of_mem_replicate hc)
    · exact .inr (List.mem_singleton.1 hc)

/-- The export of a table without rows. -/
def pilotContent : String := "[\n]\n"

/-- The text of the one entry of the manifest. -/
def pilotEntryText : String :=
  "\x7b\"count\":0,\"db_table\":\"core_member\",\"model\":\"core.Member\"," ++
  "\"path\":\"raw/core.Member.json\"," ++
  "\"sha256\":\"3fbbd4c6d76130399b0c79cdf41758669224a91e05b7b216953f0c9728750865\"\x7d"

/-- The digests of the two texts that are hashed, and some digest of every other one. -/
def pilotDigest (data : ByteArray) : String :=
  if data.data.toList = pilotContent.toUTF8.data.toList then
    "3fbbd4c6d76130399b0c79cdf41758669224a91e05b7b216953f0c9728750865"
  else if data.data.toList = pilotEntryText.toUTF8.data.toList then
    "d7073d2cb454f576bcce1b5dfb9c2c73be42679f4e6c17f7b8b60e613478cb42"
  else unaryDigest data

theorem ne_unaryDigest {text : String} {data : ByteArray} (h : '7' ∈ text.toList) :
    text ≠ unaryDigest data := by
  rintro rfl
  rcases mem_unaryDigest h with h | h <;> exact absurd h (by decide)

theorem pilotDigest_hexDigest : HexDigest pilotDigest where
  injective := by
    intro a b h
    unfold pilotDigest at h
    split_ifs at h with ha hb hb' ha' hb hb' hb hb'
    · exact ByteArray.ext (Array.toList_inj.1 (ha.trans hb.symm))
    · exact absurd h (by decide)
    · exact absurd h (ne_unaryDigest (by decide))
    · exact absurd h (by decide)
    · exact ByteArray.ext (Array.toList_inj.1 (ha'.trans hb'.symm))
    · exact absurd h (ne_unaryDigest (by decide))
    · exact absurd h.symm (ne_unaryDigest (by decide))
    · exact absurd h.symm (ne_unaryDigest (by decide))
    · exact unaryDigest_injective h
  hex := by
    intro data c hc
    unfold pilotDigest at hc
    split_ifs at hc with hcontent hentry
    · have hall : "3fbbd4c6d76130399b0c79cdf41758669224a91e05b7b216953f0c9728750865".toList.all
          (fun d => "0123456789abcdef".toList.contains d) = true := by decide +kernel
      exact List.contains_iff_mem.1 (List.all_eq_true.1 hall c hc)
    · have hall : "d7073d2cb454f576bcce1b5dfb9c2c73be42679f4e6c17f7b8b60e613478cb42".toList.all
          (fun d => "0123456789abcdef".toList.contains d) = true := by decide +kernel
      exact List.contains_iff_mem.1 (List.all_eq_true.1 hall c hc)
    · rcases mem_unaryDigest hc with rfl | rfl <;> decide
  nonempty := by
    intro data
    unfold pilotDigest
    split_ifs
    · decide
    · decide
    · intro h
      exact absurd (String.ofList_injective h) (List.cons_ne_nil _ _)

/-- The manifest of the pilot archive on disk. -/
@[irreducible] def pilotManifestText : String :=
  "\x7b\n  \"archive_path\": \"/archives/snapshot-a\",\n  \"code_version\": \"\",\n" ++
  "  \"created_at\": \"1970-01-01T00:00:00+00:00\",\n  \"migrations\": \x7b\n" ++
  "    \"control\": [],\n    \"source\": []\n  \x7d,\n" ++
  "  \"raw_archive_format_version\": 2,\n" ++
  "  \"raw_archive_hash\": \"d7073d2cb454f576bcce1b5dfb9c2c73be42679f4e6c17f7b8b60e613478cb42\",\n" ++
  "  \"raw_models\": [\n    \x7b\n      \"count\": 0,\n" ++
  "      \"db_table\": \"core_member\",\n      \"model\": \"core.Member\",\n" ++
  "      \"path\": \"raw/core.Member.json\",\n" ++
  "      \"sha256\": \"3fbbd4c6d76130399b0c79cdf41758669224a91e05b7b216953f0c9728750865\"\n" ++
  "    \x7d\n  ],\n  \"raw_scope\": \"all_core_domain_models\",\n" ++
  "  \"snapshot_id\": \"snapshot-a\",\n  \"snapshot_schema_version\": 1,\n" ++
  "  \"source\": \x7b\n    \"database_alias\": \"default\",\n" ++
  "    \"database_name\": \"rehearsal\",\n    \"plan_revision_id\": \"pilot-rev-v0_0_1\",\n" ++
  "    \"run_id\": \"run-1\",\n    \"run_status\": \"failed\",\n" ++
  "    \"world_id\": \"rehearsal\",\n    \"world_type\": \"simulation\"\n  \x7d\n\x7d"

/-- What is read from it: the members come in the order of their keys. -/
def pilotManifest : Json := .obj [
  ("archive_path", .str "/archives/snapshot-a"),
  ("code_version", .str ""),
  ("created_at", .str "1970-01-01T00:00:00+00:00"),
  ("migrations", .obj [("control", .arr []), ("source", .arr [])]),
  ("raw_archive_format_version", .scalar (.int 2)),
  ("raw_archive_hash", .str "d7073d2cb454f576bcce1b5dfb9c2c73be42679f4e6c17f7b8b60e613478cb42"),
  ("raw_models", .arr [.obj [
    ("count", .scalar (.int 0)),
    ("db_table", .str "core_member"),
    ("model", .str "core.Member"),
    ("path", .str "raw/core.Member.json"),
    ("sha256", .str "3fbbd4c6d76130399b0c79cdf41758669224a91e05b7b216953f0c9728750865")]]),
  ("raw_scope", .str "all_core_domain_models"),
  ("snapshot_id", .str "snapshot-a"),
  ("snapshot_schema_version", .scalar (.int 1)),
  ("source", .obj [
    ("database_alias", .str "default"),
    ("database_name", .str "rehearsal"),
    ("plan_revision_id", .str "pilot-rev-v0_0_1"),
    ("run_id", .str "run-1"),
    ("run_status", .str "failed"),
    ("world_id", .str "rehearsal"),
    ("world_type", .str "simulation")])]

/-- The texts on the disk of the pilot archive, read back. -/
def pilotLoads (text : String) : Except String Json :=
  if text = pilotManifestText then .ok pilotManifest
  else if text = pilotContent then .ok (.arr [])
  else if text = "\x7b\x7d" then .ok (.obj [])
  else .error "Expecting value: line 1 column 1 (char 0)"

/-- The libraries on the texts of the pilot archive. -/
def pilotLibraries : Libraries where
  toPython := textPython
  digest := pilotDigest
  loads := pilotLoads
  dumps := fun _ => pilotManifestText
  report := fun _ => "<!doctype html>"

/-- A world whose members have left no rows, with a run of one turn. -/
def pilotDb : SourceDb where
  runs := ⟨[rehearsalRun "run-1"], by decide, by decide⟩
  records := fun _ => ⟨[], [⟨"turn-1", 1, "", .obj []⟩], [], [], [], []⟩
  models := [⟨"core.Member", "core_member", pilotContent, 0⟩]
  sorted := List.pairwise_singleton _ _
  name := "rehearsal"
  migrations := .arr []

def pilotEnv : ArchiveEnv where
  now := 0
  snapshotDraws := ["a"]
  dispositionDraws := ["a"]
  routing := false
  databases := fun _ => pilotDb
  archiveRoot := "/archives"
  onDisk := fun _ => false
  codeVersion := ""
  controlMigrations := .arr []

/-- The parts of a path without links. -/
def pathParts (path : String) : List String := (path.toList.splitOn '/').map String.ofList

/-- A disk with the given files. -/
def diskOf (files : List (String × String)) : FileSystem where
  resolve := pathParts
  isDir := fun p => files.any fun f => p.isPrefixOf (pathParts f.1) && p != pathParts f.1
  isFile := fun p => files.any fun f => p = pathParts f.1
  read := fun p => ((files.find? fun f => p = pathParts f.1).map (·.2.toUTF8)).getD .empty
  readText := fun p => (files.find? fun f => p = pathParts f.1).map Prod.snd
  filesUnder := fun dir => ((files.filter fun f =>
    (dir ++ "/").toList.isPrefixOf f.1.toList).map fun f =>
      String.ofList (f.1.toList.drop (dir.length + 1))).insertionSort (· ≤ ·)

/-- The files of the pilot archive, with a given manifest. -/
def pilotFiles (manifest : String) : List (String × String) := [
  ("/archives/snapshot-a/raw/core.Member.json", pilotContent),
  ("/archives/snapshot-a/manifest.json", manifest),
  ("/archives/snapshot-a/report.html", "<!doctype html>")]

/-- The pilot run is archived, and its snapshot verifies with the given manifest on disk. -/
def pilotVerifies (manifest : String) : Bool :=
  match archiveSimulationRun pilotLibraries pilotEnv emptyArchive rehearsalWorld "run-1" {} with
  | .error _ => false
  | .ok (s, archived) =>
    archived.created &&
      match verifySimulationSnapshot pilotLibraries (diskOf (pilotFiles manifest)) s
        archived.snapshot.snapshotId with
      | .error _ => false
      | .ok result => result.ok

/-- The pilot archive has a manifest, and it is truthy. -/
def pilotTruthy (manifest : String) : Bool :=
  match archiveSimulationRun pilotLibraries pilotEnv emptyArchive rehearsalWorld "run-1" {} with
  | .error _ => true
  | .ok (_, archived) =>
    match loadManifest pilotLibraries (diskOf (pilotFiles manifest)) archived.snapshot with
    | .error _ => true
    | .ok (v, _) => truthy v

/-- What `pilotVerifies` says. -/
structure PilotVerified (manifest : String) (s : ArchiveState) (archived : ArchiveResult)
    (result : ArchiveVerificationResult) : Prop where
  archive : archiveSimulationRun pilotLibraries pilotEnv emptyArchive rehearsalWorld "run-1" {} =
    .ok (s, archived)
  created : archived.created = true
  row : s.snapshots.get? archived.snapshot.snapshotId = some archived.snapshot
  verify : verifySimulationSnapshot pilotLibraries (diskOf (pilotFiles manifest)) s
    archived.snapshot.snapshotId = .ok result
  ok : result.ok = true

theorem exists_pilotVerified {manifest : String} (h : pilotVerifies manifest = true) :
    ∃ s archived result, PilotVerified manifest s archived result := by
  unfold pilotVerifies at h
  split at h
  · cases h
  · rename_i s archived harchive
    obtain ⟨hcreated, h⟩ := (Bool.and_eq_true _ _).mp h
    obtain ⟨run, snapshotId, -, hrow⟩ := archived_of_created harchive hcreated
    split at h
    · cases h
    · rename_i result hverify
      exact ⟨s, archived, result, harchive, hcreated, hrow.row, hverify, h⟩

/-- The pilot archive as it was written. -/
theorem verifySimulationSnapshot_evidence_pilot : ∃ s archived result,
    PilotVerified pilotManifestText s archived result ∧
    ((∃ manifest, loadManifest pilotLibraries (diskOf (pilotFiles pilotManifestText))
        archived.snapshot = .ok (manifest, []) ∧
      TamperEvident pilotLibraries (diskOf (pilotFiles pilotManifestText))
        archived.snapshot.rawArchivePath (pilotEnv.source rehearsalWorld).rawModels manifest) ↔
    ∃ manifest, loadManifest pilotLibraries (diskOf (pilotFiles pilotManifestText))
        archived.snapshot = .ok (manifest, []) ∧ truthy manifest = true) := by
  obtain ⟨s, archived, result, h⟩ :=
    exists_pilotVerified (by decide +kernel : pilotVerifies pilotManifestText = true)
  exact ⟨s, archived, result, h, verifySimulationSnapshot_evidence_iff pilotDigest_hexDigest
    h.archive h.created _ s h.row h.verify h.ok⟩

/-- The manifest is replaced by an empty object: the snapshot still verifies, and nothing is
listed. -/
theorem verifySimulationSnapshot_emptyManifest : ∃ s archived result,
    PilotVerified "\x7b\x7d" s archived result ∧
    ¬ ∃ manifest, loadManifest pilotLibraries (diskOf (pilotFiles "\x7b\x7d"))
        archived.snapshot = .ok (manifest, []) ∧
      TamperEvident pilotLibraries (diskOf (pilotFiles "\x7b\x7d"))
        archived.snapshot.rawArchivePath (pilotEnv.source rehearsalWorld).rawModels manifest := by
  obtain ⟨s, archived, result, h⟩ :=
    exists_pilotVerified (by decide +kernel : pilotVerifies "\x7b\x7d" = true)
  refine ⟨s, archived, result, h, ?_⟩
  rintro ⟨manifest, hload, hevident⟩
  have hempty : pilotTruthy "\x7b\x7d" = false := by decide +kernel
  simp only [pilotTruthy, h.archive, hload, truthy_of_tamperEvident hevident] at hempty
  cases hempty

end LiveOs.Archive
