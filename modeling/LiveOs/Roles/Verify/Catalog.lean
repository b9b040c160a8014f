import LiveOs.Roles.Catalog
import LiveOs.Roles.Verify.Assignments

/-!
# The role catalogue after it was ensured

Ensuring the catalogue adds or restores its organization and its roles; members and assignments are
not touched, and the role asked for is in the table under its name.
-/

namespace LiveOs.Roles

open Lib

variable {db db' : Directory}

/-- Only organizations and roles differ. -/
structure SameMembers (db db' : Directory) : Prop where
  members : db'.members = db.members
  assignments : db'.assignments = db.assignments

theorem SameMembers.trans {db₁ db₂ db₃ : Directory} (h : SameMembers db₁ db₂)
    (h' : SameMembers db₂ db₃) : SameMembers db₁ db₃ :=
  ⟨h'.members.trans h.members, h'.assignments.trans h.assignments⟩

theorem ensureCatalogOrganization_ok {organization : Organization}
    (h : ensureCatalogOrganization db = .ok (db', organization)) : SameMembers db db' := by
  obtain ⟨⟨organizations, o, created⟩, -, h⟩ := bind_eq_ok.1 h
  obtain ⟨rfl, -⟩ := Prod.mk.inj (pure_eq_ok.1 h)
  exact ⟨rfl, rfl⟩

theorem ensureDefinedRole_ok {organization : Organization} {definition : RoleDefinition}
    {role : Role} (h : ensureDefinedRole db organization definition = .ok (db', role)) :
    SameMembers db db' ∧ role ∈ db'.roles.rows ∧ role.name = definition.displayName ∧
      ∀ r ∈ db.roles.rows, r.name ≠ definition.displayName → r ∈ db'.roles.rows := by
  obtain ⟨⟨roles, r, created⟩, hcreate, h⟩ := bind_eq_ok.1 h
  obtain ⟨rfl, rfl⟩ := Prod.mk.inj (pure_eq_ok.1 h)
  obtain ⟨hmem, hname, hkept⟩ : r ∈ roles.rows ∧ r.name = definition.displayName ∧
      ∀ x ∈ db.roles.rows, x ∈ roles.rows := by
    rcases Table.getOrCreate_ok hcreate with ⟨rfl, hmem, htest⟩ | ⟨hrows, rfl, -⟩
    · have hboth : r.organization = organization.pk ∧ r.name = definition.displayName := by
        simpa using htest
      exact ⟨hmem, hboth.2, fun x hx => hx⟩
    · exact ⟨hrows ▸ List.mem_append_right _ (List.mem_singleton_self _), rfl,
        fun x hx => hrows ▸ List.mem_append_left _ hx⟩
  refine ⟨⟨rfl, rfl⟩, List.mem_map.2 ⟨r, hmem, if_pos rfl⟩, hname, fun x hx hne => ?_⟩
  refine List.mem_map.2 ⟨x, hkept x hx, if_neg fun hpk => hne ?_⟩
  rw [roles.eq_of_pk (hkept x hx) hmem hpk, hname]

/-- The organization is ensured, then each of the three roles in turn. -/
theorem ensureCatalogRoles_ok {c d a : RoleDefinition} {roles : List (String × Role)}
    (hdefinitions : roleDefinitions = [c, d, a]) (h : ensureCatalogRoles db = .ok (db', roles)) :
    ∃ db₀ organization db₁ covenanter db₂ deliberator administrator,
      ensureCatalogOrganization db = .ok (db₀, organization) ∧
      ensureDefinedRole db₀ organization c = .ok (db₁, covenanter) ∧
      ensureDefinedRole db₁ organization d = .ok (db₂, deliberator) ∧
      ensureDefinedRole db₂ organization a = .ok (db', administrator) ∧
      roles = [(c.code, covenanter), (d.code, deliberator), (a.code, administrator)] := by
  obtain ⟨⟨db₀, organization⟩, horganization, h⟩ := bind_eq_ok.1 h
  simp only [hdefinitions, List.foldlM_cons, List.foldlM_nil] at h
  obtain ⟨⟨db₁, e₁⟩, hfirst, h⟩ := bind_eq_ok.1 h
  obtain ⟨⟨db₁', covenanter⟩, hcovenanter, hfirst⟩ := bind_eq_ok.1 hfirst
  obtain ⟨rfl, rfl⟩ := Prod.mk.inj (pure_eq_ok.1 hfirst)
  obtain ⟨⟨db₂, e₂⟩, hsecond, h⟩ := bind_eq_ok.1 h
  obtain ⟨⟨db₂', deliberator⟩, hdeliberator, hsecond⟩ := bind_eq_ok.1 hsecond
  obtain ⟨rfl, rfl⟩ := Prod.mk.inj (pure_eq_ok.1 hsecond)
  obtain ⟨⟨db₃, e₃⟩, hthird, h⟩ := bind_eq_ok.1 h
  obtain ⟨⟨db₃', administrator⟩, hadministrator, hthird⟩ := bind_eq_ok.1 hthird
  obtain ⟨rfl, rfl⟩ := Prod.mk.inj (pure_eq_ok.1 hthird)
  obtain ⟨rfl, rfl⟩ := Prod.mk.inj (pure_eq_ok.1 h)
  exact ⟨_, _, _, _, _, _, _, horganization, hcovenanter, hdeliberator, hadministrator, rfl⟩

/-- `ensure_catalog_role(ROLE_COVENANTER)` gives a row of the role table with that name. -/
theorem ensureCatalogRole_covenanter {role : Role}
    (h : ensureCatalogRole db roleCovenanter = .ok (db', role)) :
    SameMembers db db' ∧ role ∈ db'.roles.rows ∧ role.name = roleCovenanter := by
  have hdefinition : roleDefinitionForName roleCovenanter = roleDefinitions.head? := rfl
  rw [ensureCatalogRole, hdefinition] at h
  obtain ⟨⟨db₁, roles⟩, hroles, h⟩ := bind_eq_ok.1 h
  obtain ⟨db₀, organization, d₁, covenanter, d₂, deliberator, administrator, horganization,
    hcovenanter, hdeliberator, hadministrator, rfl⟩ := ensureCatalogRoles_ok rfl hroles
  obtain ⟨rfl, rfl⟩ := Prod.mk.inj (pure_eq_ok.1 h)
  have h₀ := ensureCatalogOrganization_ok horganization
  obtain ⟨h₁, hmem, hname, -⟩ := ensureDefinedRole_ok hcovenanter
  obtain ⟨h₂, -, -, hkept₂⟩ := ensureDefinedRole_ok hdeliberator
  obtain ⟨h₃, -, -, hkept₃⟩ := ensureDefinedRole_ok hadministrator
  refine ⟨h₀.trans (h₁.trans (h₂.trans h₃)), ?_, hname⟩
  -- the other two roles have other names
  refine hkept₃ _ (hkept₂ _ hmem ?_) ?_ <;> rw [hname] <;> decide

/-! ## Catalogue roles -/

/-- Organizations and roles are still there under their keys and names. -/
structure RolesKept (db db' : Directory) : Prop where
  roles : ∀ r ∈ db.roles.rows, ∃ r' ∈ db'.roles.rows, r'.pk = r.pk ∧
    r'.organization = r.organization ∧ r'.name = r.name
  organizations : ∀ o ∈ db.organizations.rows, ∃ o' ∈ db'.organizations.rows, o'.pk = o.pk ∧
    o'.roleCatalogKey = o.roleCatalogKey

theorem RolesKept.of_same (hroles : db'.roles = db.roles)
    (horganizations : db'.organizations = db.organizations) : RolesKept db db' := by
  constructor
  · intro r hr
    exact ⟨r, hroles ▸ hr, rfl, rfl, rfl⟩
  · intro o ho
    exact ⟨o, horganizations ▸ ho, rfl, rfl⟩

theorem RolesKept.trans {db₁ db₂ db₃ : Directory} (h : RolesKept db₁ db₂)
    (h' : RolesKept db₂ db₃) : RolesKept db₁ db₃ := by
  constructor
  · intro r hr
    obtain ⟨r₂, hr₂, hpk, horganization, hname⟩ := h.roles r hr
    obtain ⟨r₃, hr₃, hpk', horganization', hname'⟩ := h'.roles r₂ hr₂
    exact ⟨r₃, hr₃, hpk'.trans hpk, horganization'.trans horganization, hname'.trans hname⟩
  · intro o ho
    obtain ⟨o₂, ho₂, hpk, hkey⟩ := h.organizations o ho
    obtain ⟨o₃, ho₃, hpk', hkey'⟩ := h'.organizations o₂ ho₂
    exact ⟨o₃, ho₃, hpk'.trans hpk, hkey'.trans hkey⟩

/-- The key is that of a role of the catalogue with the name. -/
def CatalogRole (db : Directory) (name : String) (rolePk : Nat) : Prop :=
  ∃ r ∈ db.roles.rows, r.pk = rolePk ∧ r.name = name ∧ ∃ o ∈ db.organizations.rows,
    o.pk = r.organization ∧ o.roleCatalogKey = some roleCatalogOrganizationKey

theorem CatalogRole.kept {name : String} {rolePk : Nat} (h : CatalogRole db name rolePk)
    (hkept : RolesKept db db') : CatalogRole db' name rolePk := by
  obtain ⟨r, hr, hpk, hname, o, ho, hopk, hkey⟩ := h
  obtain ⟨r', hr', hpk', horganization, hname'⟩ := hkept.roles r hr
  obtain ⟨o', ho', hopk', hkey'⟩ := hkept.organizations o ho
  exact ⟨r', hr', hpk'.trans hpk, hname'.trans hname, o', ho',
    hopk'.trans (hopk.trans horganization.symm), hkey'.trans hkey⟩

/-- The catalogue has one role of a name. -/
theorem CatalogRole.unique {name : String} {j k : Nat} (h : CatalogRole db name j)
    (h' : CatalogRole db name k) : j = k := by
  obtain ⟨r, hr, rfl, hname, o, ho, hopk, hkey⟩ := h
  obtain ⟨r', hr', rfl, hname', o', ho', hopk', hkey'⟩ := h'
  obtain rfl := db.organizations.eq_of_alt ho ho' hkey hkey'
  have hsame : r = r' := db.roles.eq_of_alt hr hr' (a := (r'.organization, r'.name))
    (by rw [← hopk, ← hopk', hname, hname']) rfl
  rw [hsame]

theorem ensureCatalogOrganization_kept {organization : Organization}
    (h : ensureCatalogOrganization db = .ok (db', organization)) : RolesKept db db' ∧
      ∃ o ∈ db'.organizations.rows, o.pk = organization.pk ∧
        o.roleCatalogKey = some roleCatalogOrganizationKey := by
  obtain ⟨⟨organizations, o, created⟩, hcreate, h⟩ := bind_eq_ok.1 h
  obtain ⟨rfl, rfl⟩ := Prod.mk.inj (pure_eq_ok.1 h)
  obtain ⟨hmem, hkey, hrows⟩ : o ∈ organizations.rows ∧
      o.roleCatalogKey = some roleCatalogOrganizationKey ∧
      ∀ x ∈ db.organizations.rows, x ∈ organizations.rows := by
    rcases Table.getOrCreate_ok hcreate with ⟨rfl, hmem, htest⟩ | ⟨hrows, rfl, -⟩
    · exact ⟨hmem, of_decide_eq_true htest, fun x hx => hx⟩
    · exact ⟨hrows ▸ List.mem_append_right _ (List.mem_singleton_self _), rfl,
        fun x hx => hrows ▸ List.mem_append_left _ hx⟩
  refine ⟨⟨fun r hr => ⟨r, hr, rfl, rfl, rfl⟩, fun x hx => ?_⟩, _,
    List.mem_map.2 ⟨o, hmem, if_pos rfl⟩, rfl, hkey⟩
  refine ⟨_, List.mem_map_of_mem (hrows x hx), ?_⟩
  split <;> exact ⟨rfl, rfl⟩

theorem ensureDefinedRole_kept {organization : Organization} {definition : RoleDefinition}
    {role : Role} (h : ensureDefinedRole db organization definition = .ok (db', role)) :
    RolesKept db db' ∧ db'.organizations = db.organizations ∧
      ∃ r ∈ db'.roles.rows, r.pk = role.pk ∧ r.name = definition.displayName ∧
        r.organization = organization.pk := by
  obtain ⟨⟨roles, r, created⟩, hcreate, h⟩ := bind_eq_ok.1 h
  obtain ⟨rfl, rfl⟩ := Prod.mk.inj (pure_eq_ok.1 h)
  obtain ⟨hmem, ⟨horganization, hname⟩, hrows⟩ : r ∈ roles.rows ∧
      (r.organization = organization.pk ∧ r.name = definition.displayName) ∧
      ∀ x ∈ db.roles.rows, x ∈ roles.rows := by
    rcases Table.getOrCreate_ok hcreate with ⟨rfl, hmem, htest⟩ | ⟨hrows, rfl, -⟩
    · exact ⟨hmem, by simpa using htest, fun x hx => hx⟩
    · exact ⟨hrows ▸ List.mem_append_right _ (List.mem_singleton_self _), ⟨rfl, rfl⟩,
        fun x hx => hrows ▸ List.mem_append_left _ hx⟩
  refine ⟨⟨fun x hx => ?_, fun o ho => ⟨o, ho, rfl, rfl⟩⟩, rfl, _,
    List.mem_map.2 ⟨r, hmem, if_pos rfl⟩, rfl, hname, horganization⟩
  refine ⟨_, List.mem_map_of_mem (hrows x hx), ?_⟩
  split <;> exact ⟨rfl, rfl, rfl⟩

/-- `ensure_catalog_role(ROLE_DELIBERATOR)` gives the deliberator role of the catalogue. -/
theorem ensureCatalogRole_deliberator {role : Role}
    (h : ensureCatalogRole db roleDeliberator = .ok (db', role)) :
    RolesKept db db' ∧ SameMembers db db' ∧ CatalogRole db' roleDeliberator role.pk := by
  have hdefinition : roleDefinitionForName roleDeliberator = roleDefinitions[1]? := rfl
  rw [ensureCatalogRole, hdefinition] at h
  obtain ⟨⟨db₁, roles⟩, hroles, h⟩ := bind_eq_ok.1 h
  obtain ⟨db₀, organization, d₁, covenanter, d₂, deliberator, administrator, horganization,
    hcovenanter, hdeliberator, hadministrator, rfl⟩ := ensureCatalogRoles_ok rfl hroles
  obtain ⟨rfl, rfl⟩ := Prod.mk.inj (pure_eq_ok.1 h)
  obtain ⟨h₀, o, ho, hopk, hkey⟩ := ensureCatalogOrganization_kept horganization
  obtain ⟨h₁, hsame₁, -⟩ := ensureDefinedRole_kept hcovenanter
  obtain ⟨h₂, hsame₂, r, hr, hrpk, hname, hrorganization⟩ := ensureDefinedRole_kept hdeliberator
  obtain ⟨h₃, -⟩ := ensureDefinedRole_kept hadministrator
  have hm₀ := ensureCatalogOrganization_ok horganization
  obtain ⟨hm₁, -⟩ := ensureDefinedRole_ok hcovenanter
  obtain ⟨hm₂, -⟩ := ensureDefinedRole_ok hdeliberator
  obtain ⟨hm₃, -⟩ := ensureDefinedRole_ok hadministrator
  refine ⟨h₀.trans (h₁.trans (h₂.trans h₃)), hm₀.trans (hm₁.trans (hm₂.trans hm₃)),
    CatalogRole.kept ⟨r, hr, hrpk, hname, o, ?_, hopk.trans hrorganization.symm, hkey⟩ h₃⟩
  rw [hsame₂, hsame₁]
  exact ho

end LiveOs.Roles
