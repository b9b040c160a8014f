import LiveOs.Lib.RevisionLog
import LiveOs.Roles.Assignments
import LiveOs.Roles.Verify.Assignments

/-!
# Covenanter numbers over whole runs

A call either leaves the numbers alone or gives the next one to a member that has none. From there
the members with a number are those that a call has served, in the order in which they were first
served, and their numbers count from one.
-/

namespace LiveOs.Roles

open Lib EventLedger

variable {rt : Runtime} {env : RoleEnv} {s s' : RoleState rt} {member : Member}
  {issuedBy : Option Nat} {g : CredentialGrant} {c : RoleEnv × CredentialChange}

/-! ## Templates -/

/-- Every built-in template has its row. -/
def TemplatesThere (templates : TemplateTable) : Prop :=
  ∀ spec ∈ builtinTemplates, ∃ t ∈ templates.rows, t.code = spec.code

theorem getOrCreate_grows {templates templates' : TemplateTable} {spec t : CredentialTemplate}
    {created : Bool} (h : templates.getOrCreate (fun t => t.code = spec.code) spec
      Error.multipleObjects Error.integrity = .ok (templates', t, created)) :
    (∀ t ∈ templates.rows, t ∈ templates'.rows) ∧ ∃ t ∈ templates'.rows, t.code = spec.code := by
  rcases Table.getOrCreate_ok h with ⟨rfl, ht, hcode⟩ | ⟨hrows, rfl, -⟩
  · exact ⟨fun _ h => h, t, ht, by simpa using hcode⟩
  · rw [hrows]
    exact ⟨fun _ h => List.mem_append_left _ h, t,
      List.mem_append_right _ (List.mem_singleton_self t), rfl⟩

/-- A fold whose steps keep the rows and leave one for what they are given. -/
theorem foldlM_there {f : TemplateTable → CredentialTemplate → Except Error TemplateTable}
    (hf : ∀ {templates templates' spec}, f templates spec = .ok templates' →
      (∀ t ∈ templates.rows, t ∈ templates'.rows) ∧ ∃ t ∈ templates'.rows, t.code = spec.code)
    {specs : List CredentialTemplate} {templates templates' : TemplateTable}
    (h : specs.foldlM f templates = .ok templates') :
    (∀ t ∈ templates.rows, t ∈ templates'.rows) ∧
      ∀ spec ∈ specs, ∃ t ∈ templates'.rows, t.code = spec.code := by
  induction specs generalizing templates with
  | nil =>
    obtain rfl := pure_eq_ok.1 h
    exact ⟨fun _ h => h, fun _ h => by cases h⟩
  | cons spec specs ih =>
    rw [List.foldlM_cons] at h
    obtain ⟨templates₁, hone, h⟩ := bind_eq_ok.1 h
    obtain ⟨hkept, u, hu, hcode⟩ := hf hone
    obtain ⟨hgrown, hthere⟩ := ih h
    refine ⟨fun t ht => hgrown t (hkept t ht), fun x hx => ?_⟩
    rcases List.mem_cons.1 hx with rfl | hx
    · exact ⟨u, hgrown u hu, hcode⟩
    · exact hthere x hx

/-- What `ensure_builtin_credential_templates()` leaves. -/
theorem ensureBuiltin_there {templates templates' : TemplateTable}
    (h : ensureBuiltinCredentialTemplates templates = .ok templates') :
    TemplatesThere templates' := by
  unfold ensureBuiltinCredentialTemplates at h
  refine (foldlM_there (fun hone => ?_) h).2
  obtain ⟨⟨templates₂, t, created⟩, hget, hone⟩ := bind_eq_ok.1 hone
  obtain rfl := pure_eq_ok.1 hone
  exact getOrCreate_grows hget

theorem getOrCreate_there {templates : TemplateTable} {spec t : CredentialTemplate}
    (ht : t ∈ templates.rows) (hcode : t.code = spec.code) :
    templates.getOrCreate (fun t => t.code = spec.code) spec Error.multipleObjects Error.integrity =
      .ok (templates, t, false) := by
  have hfilter : templates.rows.filter (fun t => t.code = spec.code) = [t] := by
    refine List.perm_singleton.1 ((List.perm_ext_iff_of_nodup ?_ (List.nodup_singleton t)).2 ?_)
    · exact (List.Nodup.of_map _ templates.pkUnique).filter _
    · intro u
      rw [List.mem_filter, List.mem_singleton, decide_eq_true_eq]
      constructor
      · rintro ⟨hu, hu'⟩
        exact templates.eq_of_pk hu ht (hu'.trans hcode.symm)
      · rintro rfl
        exact ⟨ht, hcode⟩
  unfold Table.getOrCreate
  rw [hfilter]

/-- A fold whose steps change nothing. -/
theorem foldlM_unchanged {f : TemplateTable → CredentialTemplate → Except Error TemplateTable}
    {specs : List CredentialTemplate} {templates : TemplateTable}
    (hf : ∀ spec ∈ specs, f templates spec = .ok templates) :
    specs.foldlM f templates = .ok templates := by
  induction specs with
  | nil => rfl
  | cons spec specs ih =>
    rw [List.foldlM_cons, hf spec List.mem_cons_self]
    exact ih fun x hx => hf x (List.mem_cons_of_mem _ hx)

/-- Templates that are there are found again. -/
theorem ensureBuiltin_of_there {templates : TemplateTable} (h : TemplatesThere templates) :
    ensureBuiltinCredentialTemplates templates = .ok templates := by
  unfold ensureBuiltinCredentialTemplates
  refine foldlM_unchanged fun spec hspec => ?_
  obtain ⟨t, ht, hcode⟩ := h spec hspec
  exact bind_eq_ok.2 ⟨_, getOrCreate_there ht hcode, rfl⟩

/-! ## One number -/

/-- The two ways in which a number is issued. -/
inductive Issued (s s' : RoleState rt) (member : Nat) (g : CredentialGrant) : Prop
  | existing (mem : g ∈ covenanterGrants s) (holder : g.member = member)
    (same : s'.grants = s.grants)
  | next (none : ∀ x ∈ covenanterGrants s, x.member ≠ member)
    (rows : s'.grants.rows = s.grants.rows ++ [g]) (template : g.template = covenanterNumberCode)
    (holder : g.member = member)
    (serial : g.serialNo = some
      (((covenanterGrants s).filterMap CredentialGrant.serialNo).foldr max 0 + 1))

theorem issueCovenanterNumber_ok
    (h : issueCovenanterNumber env s member issuedBy = .ok (s', g)) :
    Issued s s' member.pk g ∧ TemplatesThere s'.templates := by
  obtain ⟨templates, htemplates, h⟩ := bind_eq_ok.1 h
  have hthere := ensureBuiltin_there htemplates
  dsimp only at h
  split at h
  · cases h
  · rename_i template hget
    obtain ⟨-, hcode⟩ := Table.get?_eq_some.1 hget
    split at h
    · rename_i existing hhead
      obtain ⟨rfl, rfl⟩ := Prod.mk.inj (pure_eq_ok.1 h)
      have hmem := List.mem_of_head? hhead
      rw [List.mem_insertionSort, List.mem_filter] at hmem
      simp only [Bool.and_eq_true, decide_eq_true_eq] at hmem
      refine ⟨.existing (List.mem_filter.2 ⟨hmem.1, ?_⟩) hmem.2.2 rfl, hthere⟩
      rw [decide_eq_true_eq, hmem.2.1, hcode]
      rfl
    · rename_i hhead
      obtain ⟨-, hsame, hrows, htemplate, hholder, hserial⟩ := issueCredentialUnlocked_ok h
      have hcode' : template.code = covenanterNumberCode := hcode
      refine ⟨.next (fun x hx hxm => ?_) hrows (htemplate.trans hcode') hholder ?_, ?_⟩
      · obtain ⟨hx, hxt⟩ := List.mem_filter.1 hx
        have hmem : x ∈ (s.grants.rows.filter fun g =>
            g.template = template.code && g.member = member.pk).insertionSort
              fun a b => serialLe a b := by
          rw [List.mem_insertionSort, List.mem_filter]
          rw [decide_eq_true_eq] at hxt
          simp [hx, hxm, hxt, hcode']
        rw [List.head?_eq_none_iff.1 hhead] at hmem
        cases hmem
      · rw [hserial]
        simp only [covenanterGrants, hcode']
      · rw [hsame]
        exact hthere

/-! ## The numbers of a state -/

/-- What a grant keeps for good. -/
def numberOf (g : CredentialGrant) : String × Nat × Option Nat × String :=
  (g.grantId, g.member, g.serialNo, g.displayNo)

/-- The members have one number each, counted from one, in this order. -/
structure NumbersGiven (s : RoleState rt) (members : List Nat) : Prop where
  holders : (covenanterGrants s).map CredentialGrant.member = members
  serials : (covenanterGrants s).map CredentialGrant.serialNo =
    (List.range' 1 members.length).map some
  nodup : members.Nodup
  templates : covenanterGrants s ≠ [] → TemplatesThere s.templates

variable {members : List Nat}

theorem NumbersGiven.highest (h : NumbersGiven s members) :
    ((covenanterGrants s).filterMap CredentialGrant.serialNo).foldr max 0 = members.length := by
  have hserials : (covenanterGrants s).filterMap CredentialGrant.serialNo =
      List.range' 1 members.length := by
    have hmap : (covenanterGrants s).filterMap CredentialGrant.serialNo =
        ((covenanterGrants s).map CredentialGrant.serialNo).filterMap id := by
      rw [List.filterMap_map]
      rfl
    rw [hmap, h.serials, List.filterMap_map]
    exact List.filterMap_some
  rw [hserials, RevisionLog.foldr_max_range', Nat.zero_max]

/-- The same numbers, whatever became of the credentials. -/
theorem NumbersGiven.of_same (h : NumbersGiven s members)
    (hsame : (covenanterGrants s').map numberOf = (covenanterGrants s).map numberOf)
    (htemplates : TemplatesThere s.templates → TemplatesThere s'.templates) :
    NumbersGiven s' members := by
  have hproject : ∀ {β : Type} (f : String × Nat × Option Nat × String → β),
      (covenanterGrants s').map (f ∘ numberOf) = (covenanterGrants s).map (f ∘ numberOf) := by
    intro β f
    rw [← List.map_map, hsame, List.map_map]
  refine ⟨?_, ?_, h.nodup, fun hne => htemplates (h.templates ?_)⟩
  · rw [← h.holders]
    exact hproject fun k => k.2.1
  · rw [← h.serials]
    exact hproject fun k => k.2.2.1
  · rintro hnil
    rw [hnil] at hsame
    exact hne (List.map_eq_nil_iff.1 hsame)

theorem covenanterGrants_append {extra : List CredentialGrant}
    (h : s'.grants.rows = s.grants.rows ++ extra) :
    covenanterGrants s' = covenanterGrants s ++
      extra.filter fun g => g.template = covenanterNumberCode := by
  rw [covenanterGrants, h, List.filter_append]
  rfl

theorem covenanterGrants_of_same (h : s'.grants = s.grants) :
    covenanterGrants s' = covenanterGrants s := by
  rw [covenanterGrants, h]
  rfl

/-- **A number that is issued is the old one or the next.** -/
theorem NumbersGiven.issued (h : NumbersGiven s members) {m : Nat} (hissued : Issued s s' m g)
    (hthere : TemplatesThere s'.templates) :
    NumbersGiven s' (addNew members [m]) ∧
      (covenanterGrants s).map numberOf <+: (covenanterGrants s').map numberOf := by
  cases hissued with
  | existing mem holder same =>
    have hgrants := covenanterGrants_of_same same
    have hmem : m ∈ members := by
      rw [← h.holders, ← holder]
      exact List.mem_map_of_mem mem
    rw [addNew, List.foldl_cons, List.foldl_nil, if_pos hmem]
    refine ⟨h.of_same (by rw [hgrants]) fun _ => hthere, [], ?_⟩
    rw [hgrants, List.append_nil]
  | next none rows template holder serial =>
    have hgrants : covenanterGrants s' = covenanterGrants s ++ [g] := by
      rw [covenanterGrants_append rows, List.filter_cons_of_pos (by simpa using template)]
      rfl
    have hmem : m ∉ members := by
      rw [← h.holders]
      rintro hm
      obtain ⟨x, hx, hxm⟩ := List.mem_map.1 hm
      exact none x hx hxm
    rw [addNew, List.foldl_cons, List.foldl_nil, if_neg hmem]
    refine ⟨⟨?_, ?_, ?_, fun _ => hthere⟩, ?_⟩
    · rw [hgrants, List.map_append, h.holders, List.map_singleton, holder]
    · rw [hgrants, List.map_append, h.serials, List.map_singleton, serial, h.highest,
        List.length_append, List.length_singleton, List.range'_concat, List.map_append, Nat.one_mul,
        Nat.add_comm]
      rfl
    · refine List.nodup_append.2 ⟨h.nodup, List.nodup_singleton m, fun a ha b hb => ?_⟩
      obtain rfl := List.mem_singleton.1 hb
      rintro rfl
      exact hmem ha
    · rw [hgrants, List.map_append]
      exact List.prefix_append _ _

/-! ## One call -/

theorem isCovenanterRole_of_same {db db' : Directory} {role : Role}
    (h : db'.organizations = db.organizations) :
    isCovenanterRole db' role = isCovenanterRole db role := by
  simp only [isCovenanterRole, catalogRoleDefinitionForRole, h]

/-- What a grant of a role does to the numbers. -/
theorem createRoleAssignment_numbers {memberPk : Nat} {role : Role} {grantedBy : Option Nat}
    {startAt endAt : Option Nat} {sourceType : SourceType} {skipValidation : Bool}
    {a : RoleAssignment} (h : createRoleAssignment env s memberPk role grantedBy startAt endAt
      sourceType skipValidation = .ok (s', a)) :
    if isCovenanterRole s.db role then
      (∃ g, Issued s s' memberPk g) ∧ TemplatesThere s'.templates
    else s'.grants = s.grants ∧ s'.templates = s.templates := by
  have horganizations : ∀ db' : Directory, ∀ b, reuseOrCreate
      (expireAssignments s.db memberPk role.pk (startAt.getD env.now)) memberPk role.pk
      (startAt.getD env.now) (endAt.getD (defaultRoleAssignmentEndAt (startAt.getD env.now)))
      grantedBy sourceType = .ok (db', b) → db'.organizations = s.db.organizations := by
    intro db' b hassign
    cases reuseOrCreate_ok hassign with
    | reused mem current same =>
      rw [same]
      rfl
    | created rows fresh free row window same => exact same.organizations
  replace h := createRoleAssignment_skipValidation h
  unfold createRoleAssignment at h
  split at h
  · cases h
  · rename_i member hget
    obtain ⟨-, hpk⟩ := Table.get?_eq_some.1 hget
    obtain ⟨-, h⟩ := rejectIf_bind_eq_ok.1 h
    obtain ⟨⟨db, b⟩, hassign, hrest⟩ := bind_eq_ok.1 h
    rw [hpk] at hassign
    have hcatalog : isCovenanterRole db role = isCovenanterRole s.db role :=
      isCovenanterRole_of_same (horganizations db b hassign)
    dsimp only at hrest
    rw [← hcatalog, isCovenanterRole]
    split at hrest
    · rename_i hnone
      obtain ⟨rfl, -⟩ := Prod.mk.inj (pure_eq_ok.1 hrest)
      rw [hnone]
      exact ⟨rfl, rfl⟩
    · rename_i definition hsome
      rw [hsome, Option.any_some]
      split at hrest
      · rename_i hname
        obtain ⟨⟨s₁, grant⟩, hissue, hrest⟩ := bind_eq_ok.1 hrest
        obtain ⟨rfl, -⟩ := Prod.mk.inj (pure_eq_ok.1 hrest)
        obtain ⟨hissued, hthere⟩ := issueCovenanterNumber_ok hissue
        rw [if_pos (by simpa using hname)]
        rw [hpk] at hissued
        refine ⟨⟨grant, ?_⟩, hthere⟩
        cases hissued with
        | existing mem holder same => exact .existing mem holder same
        | next none rows template holder serial => exact .next none rows template holder serial
      · rename_i hname
        obtain ⟨rfl, -⟩ := Prod.mk.inj (pure_eq_ok.1 hrest)
        rw [if_neg (by simpa using hname)]
        exact ⟨rfl, rfl⟩

theorem map_eq_ok {ε α β : Type} {x : Except ε α} {f : α → β} {b : β} (h : x.map f = .ok b) :
    ∃ a, x = .ok a ∧ f a = b := by
  cases x with
  | error e => cases h
  | ok a => exact ⟨a, rfl, Except.ok.inj h⟩

theorem Issued.with_db (h : Issued s s' n g) (db : Directory) :
    Issued s { s' with db := db } n g := by
  cases h with
  | existing mem holder same => exact .existing mem holder same
  | next none rows template holder serial => exact .next none rows template holder serial

/-- The numbers are as they were. -/
structure NumbersKept (s s' : RoleState rt) : Prop where
  numbers : (covenanterGrants s').map numberOf = (covenanterGrants s).map numberOf
  templates : s'.templates = s.templates

/-- **What a call does to the numbers.** -/
theorem credentialStep_numbers (h : credentialStep s c = .ok s') :
    (servedBy s c = none ∧ NumbersKept s s') ∨
      ∃ m g, servedBy s c = some m ∧ Issued s s' m g ∧ TemplatesThere s'.templates := by
  obtain ⟨env, change⟩ := c
  cases change with
  | number member issuedBy =>
    obtain ⟨⟨s₁, g⟩, hissue, rfl⟩ := map_eq_ok h
    obtain ⟨hissued, hthere⟩ := issueCovenanterNumber_ok hissue
    refine .inr ⟨member.pk, g, ?_, hissued, hthere⟩
    simp only [servedBy, h]
  | credential template other member dedupeKey sourceType issuedBy serialNo title =>
    obtain ⟨⟨s₁, g⟩, hissue, rfl⟩ := map_eq_ok h
    obtain ⟨-, htemplates, hrows, htemplate, -⟩ := issueCredentialUnlocked_ok hissue
    refine .inl ⟨rfl, ?_, htemplates⟩
    have hother : g.template ≠ covenanterNumberCode := by
      rw [htemplate]
      exact other
    rw [covenanterGrants_append hrows, List.filter_cons_of_neg (by simpa using hother),
      List.filter_nil, List.append_nil]
  | revokeCredential grantId =>
    obtain rfl := Except.ok.inj h
    refine .inl ⟨rfl, ?_, rfl⟩
    have hfilter : covenanterGrants (revokeCredential s grantId) = (covenanterGrants s).map fun g =>
        if g.grantId = grantId then { g with status := .revoked } else g := by
      unfold covenanterGrants revokeCredential
      simp only [Table.modify_rows]
      rw [List.filter_map]
      congr 1
      refine List.filter_congr fun g _ => ?_
      simp only [Function.comp_apply]
      split <;> rfl
    rw [hfilter, List.map_map]
    refine List.map_congr_left fun g _ => ?_
    simp only [Function.comp_apply]
    split <;> rfl
  | role change =>
    cases change with
    | create memberPk role grantedBy startAt endAt sourceType skipValidation =>
      obtain ⟨⟨s₁, a⟩, hcreate, hs₁⟩ := bind_eq_ok.1 h
      obtain rfl := pure_eq_ok.1 hs₁
      have hnumbers := createRoleAssignment_numbers hcreate
      by_cases hrole : isCovenanterRole s.db role = true
      · rw [if_pos hrole] at hnumbers
        obtain ⟨⟨g, hissued⟩, hthere⟩ := hnumbers
        refine .inr ⟨memberPk, g, ?_, hissued, hthere⟩
        simp only [servedBy, roleGrantedBy, h, hrole, if_true]
      · rw [if_neg hrole] at hnumbers
        refine .inl ⟨?_, by rw [covenanterGrants_of_same hnumbers.1], hnumbers.2⟩
        simp only [servedBy, roleGrantedBy, h, hrole]
        rfl
    | revoke assignment revokedBy endAt =>
      obtain ⟨⟨s₁, a⟩, hrevoke, hs₁⟩ := bind_eq_ok.1 h
      obtain rfl := pure_eq_ok.1 hs₁
      have hkept : s₁.grants = s.grants ∧ s₁.templates = s.templates := by
        unfold revokeRoleAssignment at hrevoke
        split at hrevoke
        · cases hrevoke
        · obtain ⟨-, -, hrevoke⟩ := bind_eq_ok.1 hrevoke
          obtain ⟨rfl, -⟩ := Prod.mk.inj (pure_eq_ok.1 hrevoke)
          exact ⟨rfl, rfl⟩
      exact .inl ⟨rfl, by rw [covenanterGrants_of_same hkept.1], hkept.2⟩
    | surroundings db =>
      obtain rfl := Except.ok.inj h
      exact .inl ⟨rfl, rfl, rfl⟩

/-- A call that raises serves nobody. -/
theorem servedBy_of_error {e : Error} (h : credentialStep s c = .error e) :
    servedBy s c = none := by
  unfold servedBy roleGrantedBy
  rw [h]
  cases c.2 with
  | role change => cases change <;> rfl
  | _ => rfl

/-- **One step**, whether or not the call raises. -/
theorem NumbersGiven.step (h : NumbersGiven s members) :
    NumbersGiven (afterCall credentialStep s c) (addNew members (servedBy s c).toList) ∧
      (covenanterGrants s).map numberOf <+:
        (covenanterGrants (afterCall credentialStep s c)).map numberOf := by
  cases hstep : credentialStep s c with
  | error e =>
    rw [afterCall_error hstep, servedBy_of_error hstep]
    exact ⟨h, List.prefix_rfl⟩
  | ok s' =>
    rw [afterCall_ok hstep]
    rcases credentialStep_numbers hstep with ⟨hnone, hkept⟩ | ⟨m, g, hsome, hissued, hthere⟩
    · rw [hnone]
      refine ⟨h.of_same hkept.numbers fun hthere => ?_, ?_⟩
      · rw [hkept.templates]
        exact hthere
      · refine ⟨[], ?_⟩
        rw [hkept.numbers, List.append_nil]
    · rw [hsome]
      exact h.issued hissued hthere

/-! ## Whole runs -/

theorem addNew_append (known l₁ l₂ : List Nat) :
    addNew known (l₁ ++ l₂) = addNew (addNew known l₁) l₂ :=
  List.foldl_append

theorem NumbersGiven.run (h : NumbersGiven s members) (cs : List (RoleEnv × CredentialChange)) :
    NumbersGiven (runCalls credentialStep s cs) (addNew members (servedIn servedBy s cs)) ∧
      (covenanterGrants s).map numberOf <+:
        (covenanterGrants (runCalls credentialStep s cs)).map numberOf := by
  induction cs generalizing s members with
  | nil => exact ⟨h, List.prefix_rfl⟩
  | cons c cs ih =>
    obtain ⟨hnext, hprefix⟩ := h.step (c := c)
    obtain ⟨hrun, hprefix'⟩ := ih hnext
    rw [servedIn, addNew_append]
    exact ⟨hrun, hprefix.trans hprefix'⟩

/-- **A member that has a number gets the same one again.** -/
theorem NumbersGiven.again (h : NumbersGiven s members) (hg : g ∈ covenanterGrants s)
    (hholder : g.member = member.pk) :
    issueCovenanterNumber env s member issuedBy = .ok (s, g) := by
  have hthere := h.templates (List.ne_nil_of_mem hg)
  have hnodup : ((covenanterGrants s).map CredentialGrant.member).Nodup := by
    rw [h.holders]
    exact h.nodup
  obtain ⟨t, ht, hcode⟩ := hthere _ (show _ ∈ builtinTemplates from List.mem_cons_self)
  have hget : s.templates.get? "covenanter_number" = some t := Table.get?_eq_some.2 ⟨ht, hcode⟩
  obtain ⟨hmem, htemplate⟩ := List.mem_filter.1 hg
  have hcode' : t.code = covenanterNumberCode := hcode
  have hhead : ((s.grants.rows.filter fun g => g.template = t.code && g.member = member.pk)
      |>.insertionSort fun a b => serialLe a b).head? = some g := by
    cases hcase : ((s.grants.rows.filter fun g => g.template = t.code && g.member = member.pk)
        |>.insertionSort fun a b => serialLe a b).head? with
    | none =>
      have hin : g ∈ (s.grants.rows.filter fun g =>
          g.template = t.code && g.member = member.pk).insertionSort fun a b => serialLe a b := by
        rw [List.mem_insertionSort, List.mem_filter, hcode']
        simpa [hmem, hholder] using htemplate
      rw [List.head?_eq_none_iff.1 hcase] at hin
      cases hin
    | some x =>
      have hx := List.mem_of_head? hcase
      rw [List.mem_insertionSort, List.mem_filter] at hx
      simp only [Bool.and_eq_true, decide_eq_true_eq] at hx
      have hxg : x ∈ covenanterGrants s :=
        List.mem_filter.2 ⟨hx.1, by rw [decide_eq_true_eq, hx.2.1, hcode']⟩
      rw [List.inj_on_of_nodup_map hnodup hxg hg (hx.2.2.trans hholder.symm)]
  unfold issueCovenanterNumber
  rw [ensureBuiltin_of_there hthere, ok_bind]
  simp only [hget, hhead]
  rfl

theorem numbersGiven_fresh (h : covenanterGrants s = []) : NumbersGiven s [] := by
  refine ⟨by rw [h]; rfl, by rw [h]; rfl, List.nodup_nil, fun hne => absurd h hne⟩

/-- **Covenanter numbers**: over every run from a state without any, the members with a number are
those to whom a call granted the role or issued a number, each once and in the order of the first
time; the numbers count from one; none is lost or changed; and asking again returns the same
credential. -/
theorem credentialRun_numbers (hfresh : covenanterGrants s = [])
    (cs : List (RoleEnv × CredentialChange)) :
    (covenanterGrants (runCalls credentialStep s cs)).map CredentialGrant.member =
        addNew [] (servedIn servedBy s cs) ∧
      ((covenanterGrants (runCalls credentialStep s cs)).map CredentialGrant.member).Nodup ∧
      (covenanterGrants (runCalls credentialStep s cs)).map CredentialGrant.serialNo =
        (List.range' 1 (covenanterGrants (runCalls credentialStep s cs)).length).map some ∧
      (∀ before after, cs = before ++ after →
        (covenanterGrants (runCalls credentialStep s before)).map numberOf <+:
          (covenanterGrants (runCalls credentialStep s cs)).map numberOf) ∧
      ∀ g ∈ covenanterGrants (runCalls credentialStep s cs), ∀ (env : RoleEnv) (member : Member)
        (issuedBy : Option Nat), member.pk = g.member →
          issueCovenanterNumber env (runCalls credentialStep s cs) member issuedBy =
            .ok (runCalls credentialStep s cs, g) := by
  have hrun := ((numbersGiven_fresh hfresh).run cs).1
  refine ⟨hrun.holders, hrun.holders ▸ hrun.nodup, ?_, ?_, ?_⟩
  · rw [hrun.serials, ← hrun.holders, List.length_map]
  · rintro before after rfl
    rw [runCalls_append]
    exact ((numbersGiven_fresh hfresh).run before).1.run after |>.2
  · intro g hg env member issuedBy hmember
    exact hrun.again hg hmember.symm

/-- No template, no credential; the calls read nothing else. -/
def noCredentials : RoleState textRuntime := ⟨lapsedReviewer, .empty, .empty, .empty⟩

/-- Two members, the first of them twice. -/
def threeCalls : List (RoleEnv × CredentialChange) := [
  (⟨1, "a"⟩, .number ⟨7, "M-7", none, "", .active, []⟩ none),
  (⟨2, "b"⟩, .number ⟨3, "M-3", none, "", .active, []⟩ none),
  (⟨3, "c"⟩, .number ⟨7, "M-7", none, "", .active, []⟩ none)]

theorem credentialRun_numbers_three :
    (covenanterGrants (runCalls credentialStep noCredentials threeCalls)).map
      CredentialGrant.member = [7, 3] :=
  (credentialRun_numbers (s := noCredentials) rfl threeCalls).1.trans (by decide +kernel)

/-- A number that is asked for by itself goes to a member that was never granted the role. -/
theorem credentialRun_withoutRole : ¬ ∀ (s : RoleState textRuntime)
    (cs : List (RoleEnv × CredentialChange)), covenanterGrants s = [] →
      (covenanterGrants (runCalls credentialStep s cs)).map CredentialGrant.member =
        addNew [] (servedIn roleGrantedBy s cs) := by
  intro h
  have hmembers := h noCredentials threeCalls rfl
  have hfails : (covenanterGrants (runCalls credentialStep noCredentials threeCalls)).map
      CredentialGrant.member ≠ addNew [] (servedIn roleGrantedBy noCredentials threeCalls) := by
    decide +kernel
  exact hfails hmembers

end LiveOs.Roles
