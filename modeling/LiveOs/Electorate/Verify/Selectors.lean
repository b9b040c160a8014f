import LiveOs.Electorate.Selectors
import LiveOs.Lib.Formula
import LiveOs.Roles.Verify.Permissions

/-!
# What selectors mean

An accepted configuration is the JSON of a formula over three kinds of conditions, and evaluating
it gives the value of the formula. Two of the conditions are asked of the services that own them;
a professional domain is looked up in the qualification rows alone, without the covenanter
qualification that makes a qualification usable.
-/

namespace LiveOs.Electorate

open Lib Roles

/-! ## Formulas of conditions -/

/-- A condition of a selector. -/
inductive Condition where
  | roleCode (code : String)
  | participationStatus (status : String)
  | professionalDomain (code : String)
deriving DecidableEq

namespace Condition

def key : Condition → String
  | roleCode _ => "role_code"
  | participationStatus _ => "participation_status"
  | professionalDomain _ => "professional_domain"

def value : Condition → String
  | roleCode code | professionalDomain code => code
  | participationStatus status => status

end Condition

abbrev Selector := Formula Condition

/-- The configuration of a selector. -/
def Selector.toJson : Selector → Json
  | .leaf c => .obj [(c.key, .str c.value)]
  | .all fs => .obj [("all", .arr (items fs))]
  | .any fs => .obj [("any", .arr (items fs))]
  | .not f => .obj [("not", toJson f)]
where
  items : List (Formula Condition) → List Json
    | [] => []
    | f :: fs => toJson f :: items fs

theorem Selector.toJson_items (fs : List Selector) :
    Selector.toJson.items fs = fs.map Selector.toJson := by
  induction fs with
  | nil => rfl
  | cons f fs ih => rw [Selector.toJson.items, ih, List.map_cons]

/-- A condition the catalogues know. -/
def Condition.Known (db : Directory) : Condition → Prop
  | roleCode code => ∃ definition, roleDefinitionForCode code = some definition
  | participationStatus status => status ∈ supportedParticipationStatuses
  | professionalDomain code => isActiveDomain db code = true

/-- What validation accepts at a depth. -/
inductive Admissible (db : Directory) : Nat → Selector → Prop
  | leaf {depth : Nat} {c : Condition} (hdepth : depth ≤ maxSelectorDepth) (h : c.Known db) :
      Admissible db depth (.leaf c)
  | all {depth : Nat} {fs : List Selector} (hdepth : depth ≤ maxSelectorDepth) (hne : fs ≠ [])
      (h : ∀ f ∈ fs, Admissible db (depth + 1) f) : Admissible db depth (.all fs)
  | any {depth : Nat} {fs : List Selector} (hdepth : depth ≤ maxSelectorDepth) (hne : fs ≠ [])
      (h : ∀ f ∈ fs, Admissible db (depth + 1) f) : Admissible db depth (.any fs)
  | not {depth : Nat} {f : Selector} (hdepth : depth ≤ maxSelectorDepth)
      (h : Admissible db (depth + 1) f) : Admissible db depth (.not f)

theorem Admissible.leaves {db : Directory} {f : Selector} : ∀ {depth : Nat},
    Admissible db depth f → f.Leaves (Condition.Known db) := by
  induction f using Formula.induct with
  | leaf c =>
    rintro depth (⟨-, h⟩)
    exact .leaf h
  | all fs ih =>
    intro depth h
    cases h with
    | all _ _ h => exact .all fun f hf => ih f hf (h f hf)
  | any fs ih =>
    intro depth h
    cases h with
    | any _ _ h => exact .any fun f hf => ih f hf (h f hf)
  | not f ih =>
    intro depth h
    cases h with
    | not _ h => exact .not (ih h)

/-- A selector that one state admits is admitted by a state that knows its conditions. -/
theorem Admissible.of_leaves {db db' : Directory} {f : Selector} : ∀ {depth : Nat},
    Admissible db depth f → f.Leaves (Condition.Known db') → Admissible db' depth f := by
  induction f using Formula.induct with
  | leaf c =>
    rintro depth (⟨hdepth, -⟩) (⟨h⟩)
    exact .leaf hdepth h
  | all fs ih =>
    intro depth h hl
    cases h with
    | all hdepth hne h =>
      cases hl with
      | all hl => exact .all hdepth hne fun f hf => ih f hf (h f hf) (hl f hf)
  | any fs ih =>
    intro depth h hl
    cases h with
    | any hdepth hne h =>
      cases hl with
      | any hl => exact .any hdepth hne fun f hf => ih f hf (h f hf) (hl f hf)
  | not f ih =>
    intro depth h hl
    cases h with
    | not hdepth h =>
      cases hl with
      | not hl => exact .not hdepth (ih h hl)

/-! ## Validation -/

theorem validateLeaf_iff {db : Directory} {key : String} {value : Json} :
    validateLeaf db key value = .ok () ↔
      ∃ c : Condition, key = c.key ∧ value = .str c.value ∧ c.Known db := by
  constructor
  · intro h
    unfold validateLeaf at h
    by_cases hrole : key = "role_code"
    · rw [if_pos hrole] at h
      cases value with
      | str code =>
        have hsome : (roleDefinitionForCode code).isSome := by
          simpa [Option.isSome_iff_ne_none] using rejectIf_eq_ok.1 h
        exact ⟨.roleCode code, hrole, rfl, Option.isSome_iff_exists.1 hsome⟩
      | scalar | arr | obj => cases h
    · rw [if_neg hrole] at h
      by_cases hstatus : key = "participation_status"
      · rw [if_pos hstatus] at h
        cases value with
        | str status =>
          have hmem : supportedParticipationStatuses.contains status = true := by
            simpa using rejectIf_eq_ok.1 h
          exact ⟨.participationStatus status, hstatus, rfl, List.contains_iff_mem.1 hmem⟩
        | scalar | arr | obj => cases h
      · rw [if_neg hstatus] at h
        by_cases hdomain : key = "professional_domain"
        · rw [if_pos hdomain] at h
          cases value with
          | str code =>
            have hactive : isActiveDomain db code = true := by
              simpa using rejectIf_eq_ok.1 h
            exact ⟨.professionalDomain code, hdomain, rfl, hactive⟩
          | scalar | arr | obj => cases h
        · rw [if_neg hdomain] at h
          cases h
  · rintro ⟨c, rfl, rfl, hknown⟩
    cases c with
    | roleCode code =>
      obtain ⟨definition, hdef⟩ := hknown
      exact rejectIf_neg (by simp [hdef, Condition.value])
    | participationStatus status =>
      have hmem : status ∈ supportedParticipationStatuses := hknown
      exact rejectIf_neg (by simpa [Condition.value] using hmem)
    | professionalDomain code =>
      have hactive : isActiveDomain db code = true := hknown
      exact rejectIf_neg (by simp [Condition.value, hactive])

theorem validateSelectorNode_single {db : Directory} {depth : Nat} {key : String} {value : Json} :
    validateSelectorNode db depth (.obj [(key, value)]) =
      (rejectIf (maxSelectorDepth < depth) (.domain "选民规则嵌套层级过深。") >>= fun _ =>
        if key = "all" || key = "any" then
          match value with
          | .arr (x :: xs) => validateSelectorNode.children db (depth + 1) (x :: xs)
          | _ => .error (.domain (key ++ " 条件必须包含至少一个子条件。"))
        else if key = "not" then validateSelectorNode db (depth + 1) value
        else validateLeaf db key value) :=
  (validateSelectorNode.eq_def ..).trans rfl

/-- Only objects with one entry are accepted. -/
theorem validateSelectorNode_ok {db : Directory} {depth : Nat} {j : Json}
    (h : validateSelectorNode db depth j = .ok ()) : ∃ key value, j = .obj [(key, value)] := by
  rw [validateSelectorNode.eq_def] at h
  split at h
  · exact ⟨_, _, rfl⟩
  · obtain ⟨-, -, h⟩ := bind_eq_ok.1 h
    cases h

theorem validateSelectorNode_children {db : Directory} {depth : Nat} {xs : List Json} :
    validateSelectorNode.children db depth xs = .ok () ↔
      ∀ x ∈ xs, validateSelectorNode db depth x = .ok () := by
  induction xs with
  | nil => simp [validateSelectorNode.children]
  | cons x xs ih =>
    rw [validateSelectorNode.children, bind_eq_ok, List.forall_mem_cons, ← ih]
    constructor
    · rintro ⟨⟨⟩, hx, hxs⟩
      exact ⟨hx, hxs⟩
    · rintro ⟨hx, hxs⟩
      exact ⟨(), hx, hxs⟩

theorem Condition.key_ne (c : Condition) : c.key ≠ "all" ∧ c.key ≠ "any" ∧ c.key ≠ "not" := by
  cases c <;> simp [Condition.key]

/-- The items of a list are the configurations of admissible selectors. -/
theorem exists_items {db : Directory} {depth : Nat} {xs : List Json}
    (h : ∀ x ∈ xs, ∃ f, Admissible db depth f ∧ x = Selector.toJson f) :
    ∃ fs : List Selector, (∀ f ∈ fs, Admissible db depth f) ∧ xs = fs.map Selector.toJson := by
  induction xs with
  | nil => exact ⟨[], fun _ hf => absurd hf List.not_mem_nil, rfl⟩
  | cons x xs ih =>
    obtain ⟨⟨f, hf, rfl⟩, hxs⟩ := List.forall_mem_cons.1 h
    obtain ⟨fs, hfs, rfl⟩ := ih hxs
    exact ⟨f :: fs, List.forall_mem_cons.2 ⟨hf, hfs⟩, rfl⟩

/-- **Accepted configurations.** Validation accepts the configurations of admissible selectors and
nothing else. -/
theorem validateSelectorNode_of_admissible {db : Directory} {f : Selector} : ∀ {depth : Nat},
    Admissible db depth f → validateSelectorNode db depth f.toJson = .ok () := by
  induction f using Formula.induct with
  | leaf c =>
    rintro depth (⟨hdepth, h⟩)
    obtain ⟨hall, hany, hnot⟩ := c.key_ne
    rw [Selector.toJson, validateSelectorNode_single, rejectIf_neg (not_lt.2 hdepth), ok_bind,
      if_neg (by simp [hall, hany]), if_neg hnot]
    exact validateLeaf_iff.2 ⟨c, rfl, rfl, h⟩
  | all fs ih =>
    intro depth h
    cases h with
    | all hdepth hne h =>
      obtain ⟨g, gs, rfl⟩ := List.exists_cons_of_ne_nil hne
      have hitems : ∀ x ∈ (g :: gs).map Selector.toJson,
          validateSelectorNode db (depth + 1) x = .ok () := by
        intro x hx
        obtain ⟨f, hf, rfl⟩ := List.mem_map.1 hx
        exact ih f hf (h f hf)
      rw [Selector.toJson, Selector.toJson_items, validateSelectorNode_single,
        rejectIf_neg (not_lt.2 hdepth), ok_bind, if_pos (by decide)]
      exact validateSelectorNode_children.2 hitems
  | any fs ih =>
    intro depth h
    cases h with
    | any hdepth hne h =>
      obtain ⟨g, gs, rfl⟩ := List.exists_cons_of_ne_nil hne
      have hitems : ∀ x ∈ (g :: gs).map Selector.toJson,
          validateSelectorNode db (depth + 1) x = .ok () := by
        intro x hx
        obtain ⟨f, hf, rfl⟩ := List.mem_map.1 hx
        exact ih f hf (h f hf)
      rw [Selector.toJson, Selector.toJson_items, validateSelectorNode_single,
        rejectIf_neg (not_lt.2 hdepth), ok_bind, if_pos (by decide)]
      exact validateSelectorNode_children.2 hitems
  | not f ih =>
    intro depth h
    cases h with
    | not hdepth h =>
      rw [Selector.toJson, validateSelectorNode_single, rejectIf_neg (not_lt.2 hdepth), ok_bind,
        if_neg (by decide), if_pos rfl]
      exact ih h

/-- Validation reads a document back, and so do the validations of the items of a list. -/
theorem admissible_of_validate_and_items {db : Directory} (j : Json) :
    (∀ depth, validateSelectorNode db depth j = .ok () →
      ∃ f, Admissible db depth f ∧ j = Selector.toJson f) ∧
    ∀ xs, j = .arr xs → ∀ x ∈ xs, ∀ depth, validateSelectorNode db depth x = .ok () →
      ∃ f, Admissible db depth f ∧ x = Selector.toJson f := by
  induction j with
  | scalar s =>
    refine ⟨fun depth h => ?_, nofun⟩
    obtain ⟨_, _, h⟩ := validateSelectorNode_ok h
    cases h
  | str s =>
    refine ⟨fun depth h => ?_, nofun⟩
    obtain ⟨_, _, h⟩ := validateSelectorNode_ok h
    cases h
  | arr xs ih =>
    refine ⟨fun depth h => ?_, ?_⟩
    · obtain ⟨_, _, h⟩ := validateSelectorNode_ok h
      cases h
    · intro ys heq x hx
      obtain rfl := Json.arr.inj heq
      exact (ih x hx).1
  | obj es ih =>
    refine ⟨fun depth h => ?_, nofun⟩
    obtain ⟨key, value, heq⟩ := validateSelectorNode_ok h
    obtain rfl := Json.obj.inj heq
    obtain ⟨hvalue, hitems⟩ := ih (key, value) List.mem_cons_self
    rw [validateSelectorNode_single] at h
    obtain ⟨hdepth, h⟩ := rejectIf_bind_eq_ok.1 h
    replace hdepth := not_lt.1 hdepth
    by_cases hlist : (key = "all" || key = "any") = true
    · rw [if_pos hlist] at h
      match value with
      | .scalar _ | .str _ | .obj _ | .arr [] => cases h
      | .arr (x :: xs) =>
        obtain ⟨fs, hfs, hxs⟩ := exists_items fun y hy =>
          hitems (x :: xs) rfl y hy (depth + 1) (validateSelectorNode_children.1 h y hy)
        have hne : fs ≠ [] := by
          rintro rfl
          cases hxs
        rw [hxs]
        rcases Bool.or_eq_true_iff.1 hlist with hkey | hkey
        · obtain rfl := of_decide_eq_true hkey
          exact ⟨.all fs, .all hdepth hne hfs, by rw [Selector.toJson, Selector.toJson_items]⟩
        · obtain rfl := of_decide_eq_true hkey
          exact ⟨.any fs, .any hdepth hne hfs, by rw [Selector.toJson, Selector.toJson_items]⟩
    · rw [if_neg hlist] at h
      by_cases hnot : key = "not"
      · rw [if_pos hnot] at h
        obtain ⟨f, hf, rfl⟩ := hvalue (depth + 1) h
        exact ⟨.not f, .not hdepth hf, by rw [hnot, Selector.toJson]⟩
      · rw [if_neg hnot] at h
        obtain ⟨c, rfl, rfl, hknown⟩ := validateLeaf_iff.1 h
        exact ⟨.leaf c, .leaf hdepth hknown, rfl⟩

theorem admissible_of_validateSelectorNode {db : Directory} {j : Json} {depth : Nat}
    (h : validateSelectorNode db depth j = .ok ()) :
    ∃ f, Admissible db depth f ∧ j = Selector.toJson f :=
  (admissible_of_validate_and_items j).1 depth h

theorem Condition.key_inj {c c' : Condition} (hkey : c.key = c'.key)
    (hvalue : c.value = c'.value) : c = c' := by
  cases c <;> cases c' <;> simp_all [Condition.key, Condition.value]

/-- The list of a conjunction or disjunction is validated item by item. -/
theorem admissible_items {db : Directory} {depth : Nat} {key : String} {fs : List Selector}
    (ih : ∀ f ∈ fs, ∀ {depth : Nat}, validateSelectorNode db depth f.toJson = .ok () →
      Admissible db depth f)
    (h : (match Json.arr (fs.map Selector.toJson) with
      | .arr (x :: xs) => validateSelectorNode.children db (depth + 1) (x :: xs)
      | _ => .error (.domain (key ++ " 条件必须包含至少一个子条件。"))) = .ok ()) :
    fs ≠ [] ∧ ∀ f ∈ fs, Admissible db (depth + 1) f := by
  cases fs with
  | nil => cases h
  | cons g gs =>
    refine ⟨List.cons_ne_nil g gs, fun f hf => ih f hf ?_⟩
    exact validateSelectorNode_children.1 h _ (List.mem_map_of_mem hf)

/-- A selector whose configuration is accepted is admissible. -/
theorem admissible_of_toJson {db : Directory} {f : Selector} : ∀ {depth : Nat},
    validateSelectorNode db depth f.toJson = .ok () → Admissible db depth f := by
  induction f using Formula.induct with
  | leaf c =>
    intro depth h
    obtain ⟨hall, hany, hnot⟩ := c.key_ne
    rw [Selector.toJson, validateSelectorNode_single, if_neg (by simp [hall, hany]),
      if_neg hnot] at h
    obtain ⟨hdepth, h⟩ := rejectIf_bind_eq_ok.1 h
    obtain ⟨c', hkey, hvalue, hknown⟩ := validateLeaf_iff.1 h
    obtain rfl := Condition.key_inj hkey (Json.str.inj hvalue)
    exact .leaf (not_lt.1 hdepth) hknown
  | all fs ih =>
    intro depth h
    rw [Selector.toJson, Selector.toJson_items, validateSelectorNode_single,
      if_pos (by decide)] at h
    obtain ⟨hdepth, h⟩ := rejectIf_bind_eq_ok.1 h
    obtain ⟨hne, hfs⟩ := admissible_items ih h
    exact .all (not_lt.1 hdepth) hne hfs
  | any fs ih =>
    intro depth h
    rw [Selector.toJson, Selector.toJson_items, validateSelectorNode_single,
      if_pos (by decide)] at h
    obtain ⟨hdepth, h⟩ := rejectIf_bind_eq_ok.1 h
    obtain ⟨hne, hfs⟩ := admissible_items ih h
    exact .any (not_lt.1 hdepth) hne hfs
  | not f ih =>
    intro depth h
    rw [Selector.toJson, validateSelectorNode_single, if_neg (by decide), if_pos rfl] at h
    obtain ⟨hdepth, h⟩ := rejectIf_bind_eq_ok.1 h
    exact .not (not_lt.1 hdepth) (ih h)

/-! ## Evaluation -/

variable {db : Directory} {now t : Nat} {m : Member}

/-- What a condition finds in the rows. -/
def Condition.matched (db : Directory) (now t : Nat) (m : Member) : Condition → Bool
  | roleCode code =>
    (roleDefinitionForCode code).isSome && memberHasPlatformRole db now m code (some t)
  | participationStatus status => Roles.participationStatus db now m (some t) = some status
  | professionalDomain code => (activeProfessionalDomainCodes db m t).contains code

theorem matchLeaf_eq (c : Condition) :
    matchLeaf db now m t c.key (.str c.value) = .ok (c.matched db now t m) := by
  cases c with
  | roleCode code => rfl
  | participationStatus status =>
    rw [Condition.key, Condition.value, Condition.matched, matchLeaf, if_neg (by decide), if_pos rfl]
    cases Roles.participationStatus db now m (some t) <;> simp
  | professionalDomain code => rfl

theorem evaluateSelectorNode_single {evidence : List Json} {key : String} {value : Json} :
    evaluateSelectorNode db now m t evidence (.obj [(key, value)]) =
      if key = "all" then
        match value with
        | .arr xs => evaluateSelectorNode.allOf db now m t evidence xs
        | .str s => if s = "" then .ok (true, evidence) else .error .attribute
        | .obj es => if es.isEmpty then .ok (true, evidence) else .error .attribute
        | .scalar _ => .error .type
      else if key = "any" then
        match value with
        | .arr xs => evaluateSelectorNode.anyOf db now m t evidence xs
        | .str s => if s = "" then .ok (false, evidence) else .error .attribute
        | .obj es => if es.isEmpty then .ok (false, evidence) else .error .attribute
        | .scalar _ => .error .type
      else if key = "not" then
        (evaluateSelectorNode db now m t evidence value >>= fun r => pure (!r.1, r.2))
      else matchLeaf db now m t key value >>= fun matched =>
        pure (matched, evidence ++ [leafEvidence key value matched]) :=
  (evaluateSelectorNode.eq_def ..).trans rfl

/-- **Evaluation.** Evaluating the configuration of a selector gives its value. -/
theorem evaluateSelectorNode_toJson (f : Selector) : ∀ evidence, ∃ evidence',
    evaluateSelectorNode db now m t evidence f.toJson =
      .ok (f.eval (Condition.matched db now t m), evidence') := by
  induction f using Formula.induct with
  | leaf c =>
    intro evidence
    obtain ⟨hall, hany, hnot⟩ := c.key_ne
    rw [Selector.toJson, evaluateSelectorNode_single, if_neg hall, if_neg hany, if_neg hnot,
      matchLeaf_eq]
    exact ⟨_, rfl⟩
  | all fs ih =>
    intro evidence
    rw [Formula.eval_all, Selector.toJson, Selector.toJson_items, evaluateSelectorNode_single,
      if_pos rfl]
    show ∃ evidence', evaluateSelectorNode.allOf db now m t evidence (fs.map Selector.toJson) = _
    induction fs generalizing evidence with
    | nil => exact ⟨evidence, rfl⟩
    | cons f fs ihs =>
      obtain ⟨hf, hfs⟩ := List.forall_mem_cons.1 ih
      obtain ⟨evidence₁, h₁⟩ := hf evidence
      obtain ⟨evidence₂, h₂⟩ := ihs hfs evidence₁
      rw [List.map_cons, evaluateSelectorNode.allOf, h₁, ok_bind, List.all_cons]
      cases Formula.eval (Condition.matched db now t m) f with
      | true => exact ⟨evidence₂, h₂⟩
      | false => exact ⟨evidence₁, rfl⟩
  | any fs ih =>
    intro evidence
    rw [Formula.eval_any, Selector.toJson, Selector.toJson_items, evaluateSelectorNode_single,
      if_neg (by decide), if_pos rfl]
    show ∃ evidence', evaluateSelectorNode.anyOf db now m t evidence (fs.map Selector.toJson) = _
    induction fs generalizing evidence with
    | nil => exact ⟨evidence, rfl⟩
    | cons f fs ihs =>
      obtain ⟨hf, hfs⟩ := List.forall_mem_cons.1 ih
      obtain ⟨evidence₁, h₁⟩ := hf evidence
      obtain ⟨evidence₂, h₂⟩ := ihs hfs evidence₁
      rw [List.map_cons, evaluateSelectorNode.anyOf, h₁, ok_bind, List.any_cons]
      cases Formula.eval (Condition.matched db now t m) f with
      | true => exact ⟨evidence₁, rfl⟩
      | false => exact ⟨evidence₂, h₂⟩
  | not f ih =>
    intro evidence
    obtain ⟨evidence', h⟩ := ih evidence
    rw [Selector.toJson, evaluateSelectorNode_single, if_neg (by decide), if_neg (by decide),
      if_pos rfl, h]
    exact ⟨evidence', rfl⟩

/-! ## The meaning of conditions -/

/-- What a condition asks of the services that own it. -/
def Condition.meaning (db : Directory) (now t : Nat) (m : Member) : Condition → Bool
  | roleCode code => (roleDefinitionForCode code).any fun definition =>
      memberHasRole db now m [definition.displayName] (some t)
  | participationStatus status => Roles.participationStatus db now m (some t) = some status
  | professionalDomain code => db.domains.rows.any fun d =>
      d.code = code && hasCurrentProfessionalQualification db now m d (some t)

/-- The member has a row of the domain that is in force, whatever else the member holds. -/
def HasOpenRow (db : Directory) (m : Member) (t : Nat) (code : String) : Prop :=
  ∃ d ∈ db.domains.rows, d.code = code ∧ ∃ q, Started db m d t q ∧ q.openAt t = true

theorem roleDefinition_named {code : String} {definition : RoleDefinition}
    (h : roleDefinitionForCode code = some definition) :
    roleDefinitionForName definition.displayName = some definition := by
  have hall : ∀ item ∈ roleDefinitions, roleDefinitionForName item.displayName = some item := by
    decide
  exact hall definition (List.mem_of_find?_eq_some h)

theorem matched_roleCode (code : String) :
    (Condition.roleCode code).matched db now t m = (Condition.roleCode code).meaning db now t m := by
  rw [Condition.matched, Condition.meaning, memberHasPlatformRole]
  cases hdef : roleDefinitionForCode code with
  | none => rfl
  | some definition =>
    simp only [Option.isSome_some, Bool.true_and, Option.any_some, memberHasRole,
      List.isEmpty_cons, List.any_cons, List.any_nil, roleDefinition_named hdef, Option.isNone_some,
      Bool.or_false, Bool.false_eq_true, if_false]
    rw [Bool.eq_iff_iff, List.contains_iff_mem, List.any_eq_true]
    simp

theorem mem_activeProfessionalDomainCodes {code : String} :
    code ∈ activeProfessionalDomainCodes db m t ↔ HasOpenRow db m t code := by
  simp only [activeProfessionalDomainCodes, List.mem_filterMap, List.mem_filter, Bool.and_eq_true,
    decide_eq_true_eq, Option.map_eq_some_iff, Table.get?_eq_some]
  constructor
  · rintro ⟨q, ⟨mem, ⟨⟨hmember, hactive⟩, hfrom⟩, hopen⟩, d, ⟨hd, hpk⟩, hcode⟩
    exact ⟨d, hd, hcode, q, ⟨mem, hmember, hpk.symm, hactive, hfrom⟩, hopen⟩
  · rintro ⟨d, hd, hcode, q, hq, hopen⟩
    exact ⟨q, ⟨hq.mem, ⟨⟨hq.member, hq.active⟩, hq.started⟩, hopen⟩, d, ⟨hd, hq.domain.symm⟩,
      hcode⟩

theorem isActiveDomain_iff {code : String} : isActiveDomain db code = true ↔
    ∃ d ∈ db.domains.rows, d.code = code ∧ d.status = .active := by
  simp only [isActiveDomain, List.any_eq_true, Bool.and_eq_true, decide_eq_true_eq]

/-- A qualification is usable when its row is in force and the member is a covenanter. -/
theorem meaning_professionalDomain {code : String} (hm : m ∈ db.members.rows)
    (hactive : isActiveDomain db code = true) :
    (Condition.professionalDomain code).meaning db now t m = true ↔
      Covenanter db m t ∧ HasOpenRow db m t code := by
  obtain ⟨d, hd, hcode, hstatus⟩ := isActiveDomain_iff.1 hactive
  have hunique : ∀ d' ∈ db.domains.rows, d'.code = code → d' = d := by
    intro d' hd' hcode'
    exact db.domains.eq_of_alt hd' hd (congrArg some hcode') (congrArg some hcode)
  simp only [Condition.meaning, List.any_eq_true, Bool.and_eq_true, decide_eq_true_eq]
  constructor
  · rintro ⟨d', hd', hcode', h⟩
    obtain ⟨hcov, -, hrow⟩ := (hasCurrentProfessionalQualification_iff hm hd').1 h
    exact ⟨hcov, d', hd', hcode', hrow⟩
  · rintro ⟨hcov, d', hd', hcode', hrow⟩
    refine ⟨d', hd', hcode', (hasCurrentProfessionalQualification_iff hm hd').2 ⟨hcov, ?_, hrow⟩⟩
    rw [hunique d' hd' hcode', hstatus]

theorem matched_professionalDomain (code : String) :
    (Condition.professionalDomain code).matched db now t m = true ↔ HasOpenRow db m t code := by
  rw [Condition.matched, List.contains_iff_mem, mem_activeProfessionalDomainCodes]

/-! ## Rules -/

/-- A rule is evaluated for a member that may hold roles by validating its configuration again. -/
theorem evaluateRuleForMember_ok {selectorConfig : Json} {excluded : Option Nat}
    (hexcluded : excluded ≠ some m.pk) (hallows : memberAllowsRoleFacts m = true)
    {result : ElectorateEligibility}
    (h : evaluateRuleForMember db now selectorConfig m (some t) excluded = .ok result) :
    validateSelectorNode db 0 selectorConfig = .ok () := by
  unfold evaluateRuleForMember at h
  simp only [if_neg hexcluded, hallows, Bool.not_true, Bool.false_eq_true, if_false] at h
  obtain ⟨⟨⟩, hvalid, -⟩ := bind_eq_ok.1 h
  exact hvalid

theorem evaluateRuleForMember_toJson {f : Selector} {excluded : Option Nat}
    (hexcluded : excluded ≠ some m.pk) (hallows : memberAllowsRoleFacts m = true)
    (hvalid : validateSelectorNode db 0 f.toJson = .ok ()) : ∃ result,
    evaluateRuleForMember db now f.toJson m (some t) excluded = .ok result ∧
      result.allowed = f.eval (Condition.matched db now t m) := by
  obtain ⟨evidence, heval⟩ := @evaluateSelectorNode_toJson db now t m f []
  unfold evaluateRuleForMember
  simp only [if_neg hexcluded, hallows, Bool.not_true, Bool.false_eq_true, if_false, hvalid,
    Option.getD_some, heval, ok_bind]
  cases f.eval (Condition.matched db now t m) with
  | true => exact ⟨_, rfl, rfl⟩
  | false => exact ⟨_, rfl, rfl⟩

/-- Configurations accepted in one state mean in another what the services say, as long as they
name only the given domains. -/
structure OneMeaning (accepted db : Directory) (now t : Nat) (m : Member) (domains : String → Prop) :
    Prop where
  /-- An accepted configuration is a formula over conditions. -/
  formula : ∀ j, validateSelectorNode accepted 0 j = .ok () → ∃ f : Selector, j = f.toJson
  /-- Its evaluation raises no error and gives the value of the formula. -/
  value : ∀ f : Selector, validateSelectorNode accepted 0 f.toJson = .ok () →
    (f.Leaves fun c => ∀ code, c = .professionalDomain code → domains code) →
    ∀ excluded, excluded ≠ some m.pk → ∃ result,
      evaluateRuleForMember db now f.toJson m (some t) excluded = .ok result ∧
      result.allowed = (memberAllowsRoleFacts m && f.eval (Condition.meaning db now t m))

/-- **One meaning.** Accepted selectors over some domains mean for a member what the services say
exactly if the member may hold no roles, or every such domain is still active and the member is a
covenanter or has no row of it in force. -/
theorem oneMeaning_iff (accepted db : Directory) (now t : Nat) (m : Member)
    (hm : m ∈ db.members.rows) (domains : String → Prop) :
    OneMeaning accepted db now t m domains ↔ (memberAllowsRoleFacts m = true →
      ∀ code, domains code → isActiveDomain accepted code = true → isActiveDomain db code = true ∧
        (memberHasRole db now m [roleCovenanter] (some t) = true ∨ ¬ HasOpenRow db m t code)) := by
  constructor
  · intro h hallows code hcode haccepted
    -- the selector that asks for this domain alone
    have hadmissible : Admissible accepted 0 (.leaf (.professionalDomain code)) :=
      .leaf (Nat.zero_le _) haccepted
    obtain ⟨result, hrun, hresult⟩ := h.value _ (validateSelectorNode_of_admissible hadmissible)
      (.leaf fun code' hc => Condition.professionalDomain.inj hc ▸ hcode) none nofun
    have hvalid := evaluateRuleForMember_ok (Option.some_ne_none _).symm hallows hrun
    have hactive : isActiveDomain db code = true := by
      obtain ⟨-, hknown⟩ := admissible_of_toJson hvalid
      exact hknown
    refine ⟨hactive, ?_⟩
    obtain ⟨result', hrun', hresult'⟩ := @evaluateRuleForMember_toJson db now t m _ none
      (Option.some_ne_none _).symm hallows hvalid
    obtain rfl := Except.ok.inj (hrun.symm.trans hrun')
    rw [hresult', hallows, Bool.true_and, Formula.eval, Formula.eval, Bool.eq_iff_iff,
      matched_professionalDomain, meaning_professionalDomain hm hactive] at hresult
    rw [memberHasRole_covenanter_at hm]
    by_cases hrow : HasOpenRow db m t code
    · exact .inl (hresult.1 hrow).1
    · exact .inr hrow
  · intro hcond
    refine ⟨fun j hj => ?_, ?_⟩
    · obtain ⟨f, -, rfl⟩ := admissible_of_validateSelectorNode hj
      exact ⟨f, rfl⟩
    · intro f haccepted hdomains excluded hexcluded
      by_cases hallows : memberAllowsRoleFacts m = true
      · have hleaves := (admissible_of_toJson haccepted).leaves
        have hknown : f.Leaves (Condition.Known db) := by
          refine hleaves.map₂ (fun c hc hd => ?_) hdomains
          cases c with
          | roleCode | participationStatus => exact hc
          | professionalDomain code => exact (hcond hallows code (hd code rfl) hc).1
        have hmeaning : f.Leaves fun c => c.matched db now t m = c.meaning db now t m := by
          refine hleaves.map₂ (fun c hc hd => ?_) hdomains
          cases c with
          | roleCode code => exact matched_roleCode code
          | participationStatus => rfl
          | professionalDomain code =>
            obtain ⟨hactive, hcov⟩ := hcond hallows code (hd code rfl) hc
            rw [memberHasRole_covenanter_at hm] at hcov
            rw [Bool.eq_iff_iff, matched_professionalDomain, meaning_professionalDomain hm hactive]
            constructor
            · intro hrow
              exact ⟨hcov.resolve_right (not_not.2 hrow), hrow⟩
            · rintro ⟨-, hrow⟩
              exact hrow
        have hvalid : validateSelectorNode db 0 f.toJson = .ok () :=
          validateSelectorNode_of_admissible ((admissible_of_toJson haccepted).of_leaves hknown)
        obtain ⟨result, hrun, hresult⟩ :=
          @evaluateRuleForMember_toJson db now t m f excluded hexcluded hallows hvalid
        refine ⟨result, hrun, ?_⟩
        rw [hresult, hallows, Bool.true_and, Formula.eval_congr hmeaning]
      · refine ⟨⟨false, "member_inactive", "当前成员或登录账号不可参与。", .obj []⟩, ?_, ?_⟩
        · unfold evaluateRuleForMember
          simp only [if_neg hexcluded, hallows, Bool.not_false, if_true]
        · simp [hallows]

/-- A member with an open qualification whose covenanter role ends at 10. -/
def formerCovenanter : Member := ⟨3, "m", none, "", .active, []⟩

def formerCovenanterDirectory : Directory where
  members := ⟨[formerCovenanter], by decide, by decide⟩
  organizations := ⟨[⟨4, roleCatalogOrganizationName, some roleCatalogOrganizationKey, .active⟩],
    by decide, by decide⟩
  roles := ⟨[⟨5, 4, roleCovenanter, "", .active⟩], by decide, by decide⟩
  assignments := ⟨[⟨6, 3, 5, .active, 0, 10, none, none, .direct⟩], by decide, by decide⟩
  rolePermissions := []
  domains := ⟨[⟨8, "law", .active⟩], by decide, by decide⟩
  qualifications := ⟨[⟨7, 3, 8, .active, 0, none⟩], by decide, by decide⟩

/-- At 50 the selector of the domain lets the former covenanter vote. -/
theorem formerCovenanter_outsider : ¬ OneMeaning formerCovenanterDirectory
    formerCovenanterDirectory 50 50 formerCovenanter fun _ => True := by
  intro h
  have hadmissible : Admissible formerCovenanterDirectory 0 (.leaf (.professionalDomain "law")) :=
    .leaf (Nat.zero_le _) (show isActiveDomain formerCovenanterDirectory "law" = true by decide)
  obtain ⟨result, hrun, hresult⟩ := h.value _ (validateSelectorNode_of_admissible hadmissible)
    (.leaf fun _ _ => trivial) none (Option.some_ne_none _).symm
  have hallowed : (evaluateRuleForMember formerCovenanterDirectory 50
      (Selector.toJson (.leaf (.professionalDomain "law"))) formerCovenanter (some 50)
      none).toOption.map ElectorateEligibility.allowed = some true := by
    decide +kernel
  have hmeaning : (memberAllowsRoleFacts formerCovenanter && Formula.eval
      (Condition.meaning formerCovenanterDirectory 50 50 formerCovenanter)
      (.leaf (.professionalDomain "law"))) = false := by
    decide +kernel
  rw [hrun, Except.toOption, Option.map_some, hresult, hmeaning] at hallowed
  cases hallowed

/-- At 5 every selector means what the services say. -/
theorem formerCovenanter_oneMeaning : OneMeaning formerCovenanterDirectory
    formerCovenanterDirectory 50 5 formerCovenanter fun _ => True :=
  (oneMeaning_iff formerCovenanterDirectory formerCovenanterDirectory 50 5 formerCovenanter
    (List.mem_singleton_self _) _).2 fun _ _ _ hactive =>
      ⟨hactive, .inl (by decide +kernel)⟩

end LiveOs.Electorate
