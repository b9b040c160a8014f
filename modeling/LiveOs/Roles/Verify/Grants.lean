import LiveOs.Roles.Verify.Assignments

/-!
# What a grant leaves in force

A grant compares the rows of its member and role with the start that is asked for, not with the
time of the call. A row that is in force but over by that start is marked as expired early, and a
row that begins after it is returned as if it covered it; otherwise nothing is taken away.
-/

namespace LiveOs.Roles

open Lib EventLedger

variable {rt : Runtime} {env : RoleEnv} {s s' : RoleState rt} {db db' : Directory}

/-! ## One active row -/

/-- A row is an active assignment of the member to the role. -/
structure RoleAssignment.ActiveFor (a : RoleAssignment) (memberPk rolePk : Nat) : Prop where
  member : a.member = memberPk
  role : a.role = rolePk
  active : a.status = .active

/-- No member has two active assignments to one role. -/
def OneActive (db : Directory) : Prop :=
  ∀ a ∈ db.assignments.rows, ∀ b ∈ db.assignments.rows, a.ActiveFor b.member b.role →
    b.status = .active → a = b

theorem mem_expireAssignments {memberPk rolePk startsAt : Nat} {b : RoleAssignment}
    (hactive : b.status = .active) :
    b ∈ (expireAssignments db memberPk rolePk startsAt).assignments.rows ↔
      b ∈ db.assignments.rows ∧ elapsed memberPk rolePk startsAt b = false := by
  rw [expireAssignments_rows, List.mem_map]
  constructor
  · rintro ⟨a, ha, rfl⟩
    by_cases helapsed : elapsed memberPk rolePk startsAt a = true
    · rw [if_pos helapsed] at hactive
      cases hactive
    · rw [if_neg helapsed]
      exact ⟨ha, Bool.eq_false_iff.2 helapsed⟩
  · rintro ⟨hb, helapsed⟩
    exact ⟨b, hb, if_neg (Bool.eq_false_iff.1 helapsed)⟩

theorem elapsed_eq_false {memberPk rolePk startsAt : Nat} {b : RoleAssignment}
    (hb : b.ActiveFor memberPk rolePk) :
    elapsed memberPk rolePk startsAt b = false ↔ startsAt < b.endAt := by
  simp [elapsed, hb.member, hb.role, hb.active]

theorem OneActive.expire (h : OneActive db) {memberPk rolePk startsAt : Nat} :
    OneActive (expireAssignments db memberPk rolePk startsAt) := by
  intro a ha b hb hactive hb'
  obtain ⟨ha, -⟩ := (mem_expireAssignments hactive.active).1 ha
  obtain ⟨hb, -⟩ := (mem_expireAssignments hb').1 hb
  exact h a ha b hb hactive hb'

/-- A grant keeps at most one active row: it adds one only when none is left. -/
theorem createRoleAssignment_oneActive (h : OneActive s.db) {memberPk : Nat} {role : Role}
    {grantedBy : Option Nat} {startAt endAt : Option Nat} {sourceType : SourceType}
    {skipValidation : Bool} {a : RoleAssignment}
    (hcreate : createRoleAssignment env s memberPk role grantedBy startAt endAt sourceType
      skipValidation = .ok (s', a)) : OneActive s'.db := by
  cases createRoleAssignment_ok hcreate with
  | reused mem current same =>
    rw [same]
    exact h.expire
  | created rows fresh free row window same =>
    obtain ⟨hmember, hrole, -⟩ := row
    -- an active row of the member and role would have outlived the start and been reused
    have hnone : ∀ b ∈ (expireAssignments s.db memberPk role.pk
        (startAt.getD env.now)).assignments.rows, ¬ b.ActiveFor memberPk role.pk := by
      intro b hb hactive
      have hle := free b hb hactive.member hactive.role hactive.active
      obtain ⟨-, helapsed⟩ := (mem_expireAssignments hactive.active).1 hb
      have hlt := (elapsed_eq_false hactive).1 helapsed
      omega
    intro x hx y hy hactive hy'
    rw [rows, List.mem_append, List.mem_singleton] at hx hy
    rcases hx with hx | rfl
    · rcases hy with hy | rfl
      · exact h.expire x hx y hy hactive hy'
      · rw [hmember, hrole] at hactive
        exact absurd hactive (hnone x hx)
    · rcases hy with hy | rfl
      · have hyfor : y.ActiveFor memberPk role.pk :=
          ⟨hactive.member.symm.trans hmember, hactive.role.symm.trans hrole, hy'⟩
        exact absurd hyfor (hnone y hy)
      · rfl

theorem revokeRoleAssignment_oneActive (h : OneActive s.db) {pk : Nat}
    {revokedBy endAt : Option Nat} {a : RoleAssignment}
    (hrevoke : revokeRoleAssignment env s pk revokedBy endAt = .ok (s', a)) : OneActive s'.db := by
  obtain ⟨-, -, hrows⟩ := revokeRoleAssignment_ok hrevoke
  have hkept : ∀ b ∈ s'.db.assignments.rows, b.status = .active → b ∈ s.db.assignments.rows := by
    intro b hb hactive
    rw [hrows, List.mem_map] at hb
    obtain ⟨c, hc, rfl⟩ := hb
    by_cases hpk : c.pk = pk
    · rw [if_pos hpk] at hactive
      cases hactive
    · rwa [if_neg hpk]
  intro x hx y hy hactive hy'
  exact h x (hkept x hx hactive.active) y (hkept y hy hy') hactive hy'

theorem roleStep_oneActive {c : RoleEnv × RoleChange} (h : OneActive s.db)
    (hstep : roleStep s c = .ok s') : OneActive s'.db := by
  obtain ⟨env, c⟩ := c
  cases c with
  | create member role grantedBy startAt endAt sourceType skipValidation =>
    obtain ⟨⟨s₁, a⟩, hcreate, hstep⟩ := bind_eq_ok.1 hstep
    obtain rfl := pure_eq_ok.1 hstep
    exact createRoleAssignment_oneActive h hcreate
  | revoke assignment revokedBy endAt =>
    obtain ⟨⟨s₁, a⟩, hrevoke, hstep⟩ := bind_eq_ok.1 hstep
    obtain rfl := pure_eq_ok.1 hstep
    exact revokeRoleAssignment_oneActive h hrevoke
  | surroundings db =>
    obtain rfl := Except.ok.inj hstep
    exact h

theorem roleRun_oneActive (h : OneActive s.db) (cs : List (RoleEnv × RoleChange)) :
    OneActive (runCalls roleStep s cs).db := by
  have hstep : ∀ (s : RoleState rt) (c : RoleEnv × RoleChange) s', OneActive s.db →
      roleStep s c = .ok s' → OneActive s'.db := fun _ _ _ => roleStep_oneActive
  exact runCalls_invariant hstep h cs

/-! ## Grants -/

/-- What a grant of the role that starts at `startsAt` leaves and returns. -/
structure NothingTaken (now : Nat) (db db' : Directory) (memberPk rolePk startsAt : Nat)
    (a : RoleAssignment) : Prop where
  /-- What was in force is still active, with its window. -/
  kept : ∀ b ∈ db.assignments.rows, b.ActiveFor memberPk rolePk → b.startAt ≤ now → now < b.endAt →
    ∃ b' ∈ db'.assignments.rows, b'.pk = b.pk ∧ b'.ActiveFor memberPk rolePk ∧
      b'.startAt = b.startAt ∧ b'.endAt = b.endAt
  /-- At most one active assignment covers an instant. -/
  single : ∀ t, ∀ b ∈ db'.assignments.rows, ∀ c ∈ db'.assignments.rows,
    b.ActiveFor memberPk rolePk → c.ActiveFor memberPk rolePk → b.covers t = true →
    c.covers t = true → b = c
  /-- The assignment returned covers the start that was asked for. -/
  returned : a ∈ db'.assignments.rows ∧ a.ActiveFor memberPk rolePk ∧ a.covers startsAt = true

/-- No active assignment to the role is in force now but over by the start asked for, and none
begins only after it. -/
def NoneInTheWay (now : Nat) (db : Directory) (memberPk rolePk startsAt : Nat) : Prop :=
  ∀ b ∈ db.assignments.rows, b.ActiveFor memberPk rolePk →
    (b.endAt ≤ startsAt → ¬ (b.startAt ≤ now ∧ now < b.endAt)) ∧
      (startsAt < b.endAt → b.startAt ≤ startsAt)

theorem createRoleAssignment_nothingTaken_iff (hone : OneActive s.db) {memberPk : Nat} {role : Role}
    {grantedBy : Option Nat} {startAt endAt : Option Nat} {sourceType : SourceType}
    {skipValidation : Bool} {a : RoleAssignment}
    (h : createRoleAssignment env s memberPk role grantedBy startAt endAt sourceType
      skipValidation = .ok (s', a)) :
    NothingTaken env.now s.db s'.db memberPk role.pk (startAt.getD env.now) a ↔
      NoneInTheWay env.now s.db memberPk role.pk (startAt.getD env.now) := by
  have hone' := createRoleAssignment_oneActive hone h
  have hactive : a ∈ s'.db.assignments.rows ∧ a.ActiveFor memberPk role.pk := by
    cases createRoleAssignment_ok h with
    | reused mem current same =>
      obtain ⟨hmember, hrole, hactive, -⟩ := current
      exact ⟨same ▸ mem, hmember, hrole, hactive⟩
    | created rows fresh free row =>
      obtain ⟨hmember, hrole, hactive, -⟩ := row
      exact ⟨rows ▸ List.mem_append_right _ (List.mem_singleton_self a), hmember, hrole, hactive⟩
  -- an active row that outlives the start asked for stays, so it is the one returned
  have hstays : ∀ b ∈ s.db.assignments.rows, b.ActiveFor memberPk role.pk →
      startAt.getD env.now < b.endAt → b = a := by
    intro b hb hfor hlt
    have hmem := (mem_expireAssignments hfor.active).2 ⟨hb, (elapsed_eq_false hfor).2 hlt⟩
    have hb' : b ∈ s'.db.assignments.rows := by
      cases createRoleAssignment_ok h with
      | reused mem current same => exact same ▸ hmem
      | created rows => exact rows ▸ List.mem_append_left _ hmem
    refine hone' b hb' a hactive.1 ?_ hactive.2.active
    rw [hactive.2.member, hactive.2.role]
    exact hfor
  constructor
  · intro hnothing b hb hfor
    constructor
    · rintro hle ⟨hstart, hend⟩
      obtain ⟨b', hb', hpk, hfor', -, hend'⟩ := hnothing.kept b hb hfor hstart hend
      have heq : b' = a := by
        refine hone' b' hb' a hactive.1 ?_ hactive.2.active
        rw [hactive.2.member, hactive.2.role]
        exact hfor'
      have hcovers := RoleAssignment.covers_iff.1 hnothing.returned.2.2
      rw [← heq, hend'] at hcovers
      omega
    · intro hlt
      have hcovers := RoleAssignment.covers_iff.1 hnothing.returned.2.2
      rw [hstays b hb hfor hlt]
      exact hcovers.1
  · intro hway
    refine ⟨fun b hb hfor hstart hend => ?_, fun t b hb c hc hbfor hcfor _ _ => ?_,
      hactive.1, hactive.2, ?_⟩
    · have hlt : startAt.getD env.now < b.endAt := by
        by_contra hle
        exact (hway b hb hfor).1 (not_lt.1 hle) ⟨hstart, hend⟩
      exact ⟨a, hactive.1, hstays b hb hfor hlt ▸ ⟨rfl, hfor, rfl, rfl⟩⟩
    · refine hone' b hb c hc ?_ hcfor.active
      rw [hcfor.member, hcfor.role]
      exact hbfor
    · apply RoleAssignment.covers_iff.2
      cases createRoleAssignment_ok h with
      | reused mem current same =>
        obtain ⟨hmember, hrole, hstatus, hlt⟩ := current
        obtain ⟨hmem, -⟩ := (mem_expireAssignments hstatus).1 mem
        exact ⟨(hway a hmem ⟨hmember, hrole, hstatus⟩).2 hlt, hlt⟩
      | created rows fresh free row window =>
        obtain ⟨-, -, -, hstart, hend, -⟩ := row
        rw [hstart, hend]
        exact ⟨Nat.le_refl _, window⟩

/-- **Granting takes nothing away** exactly if no active assignment to the role is in the way: one
in force now that is over by the start asked for, or one that begins only after it. -/
theorem grant_nothingTaken_iff (s₀ : RoleState rt) (h₀ : s₀.db.assignments.rows = [])
    (cs : List (RoleEnv × RoleChange)) (env : RoleEnv) (memberPk : Nat) (role : Role)
    (grantedBy startAt endAt : Option Nat) (sourceType : SourceType) (skipValidation : Bool)
    (s' : RoleState rt) (a : RoleAssignment)
    (h : createRoleAssignment env (runCalls roleStep s₀ cs) memberPk role grantedBy startAt endAt
      sourceType skipValidation = .ok (s', a)) :
    NothingTaken env.now (runCalls roleStep s₀ cs).db s'.db memberPk role.pk
        (startAt.getD env.now) a ↔
      NoneInTheWay env.now (runCalls roleStep s₀ cs).db memberPk role.pk
        (startAt.getD env.now) := by
  have hone : OneActive s₀.db := by
    intro a ha
    rw [h₀] at ha
    cases ha
  exact createRoleAssignment_nothingTaken_iff (roleRun_oneActive hone cs) h

/-! ## A term granted ahead -/

def gardener : Member := ⟨72, "m-72", none, "", .active, []⟩

/-- A role outside the catalogue that asks for nothing. -/
def gardenRole : Role := ⟨73, 74, "园丁", "", .active⟩

def gardenRoles : RoleState textRuntime where
  db := {
    members := ⟨[gardener], List.nodup_singleton _, List.nodup_singleton _⟩
    organizations := Table.empty
    roles := ⟨[gardenRole], List.nodup_singleton _, List.nodup_singleton _⟩
    assignments := Table.empty
    rolePermissions := []
    domains := Table.empty
    qualifications := Table.empty }
  templates := Table.empty
  grants := Table.empty
  events := Journal.empty

/-- The gardener's first term, from 0 to 10. -/
def firstTerm : List (RoleEnv × RoleChange) :=
  [(⟨0, "a"⟩, .create 72 gardenRole none none (some 10) .direct false)]

/-- At 5 a term from 20 on is granted, and the term that runs until 10 is marked as expired. -/
theorem laterGrant_takes : ¬ ∀ (s₀ : RoleState textRuntime), s₀.db.assignments.rows = [] →
    ∀ (cs : List (RoleEnv × RoleChange)) (env : RoleEnv),
    (cs.map (fun c => c.1.now) ++ [env.now]).Pairwise (· ≤ ·) →
    ∀ memberPk role grantedBy startAt endAt sourceType skipValidation s' a,
    createRoleAssignment env (runCalls roleStep s₀ cs) memberPk role grantedBy startAt endAt
      sourceType skipValidation = .ok (s', a) →
    NothingTaken env.now (runCalls roleStep s₀ cs).db s'.db memberPk role.pk
      (startAt.getD env.now) a := by
  intro hclaim
  have hnothing := hclaim gardenRoles rfl firstTerm ⟨5, "b"⟩ (by decide) 72 gardenRole none
    (some 20) (some 30) .direct false _ _ rfl
  obtain ⟨b', hb', hpk, hfor, -⟩ := hnothing.kept ⟨1, 72, 73, .active, 0, 10, none, none, .direct⟩
    (List.mem_singleton_self _) ⟨rfl, rfl, rfl⟩ (by decide) (by decide)
  rcases List.mem_cons.1 hb' with rfl | hb'
  · exact absurd hfor.active (by decide)
  · rw [List.mem_singleton.1 hb'] at hpk
    exact absurd hpk (by decide)

/-- A grant that starts within the term in force returns that term. -/
theorem innerGrant_nothingTaken : ∃ s' a,
    createRoleAssignment ⟨5, "b"⟩ (runCalls roleStep gardenRoles firstTerm) 72 gardenRole none
      (some 8) (some 30) .direct false = .ok (s', a) ∧
    NothingTaken 5 (runCalls roleStep gardenRoles firstTerm).db s'.db 72 73 8 a := by
  refine ⟨_, _, rfl, ?_⟩
  refine (grant_nothingTaken_iff gardenRoles rfl firstTerm ⟨5, "b"⟩ 72 gardenRole none (some 8)
    (some 30) .direct false _ _ rfl).2 fun b hb _ => ?_
  obtain rfl := List.mem_singleton.1 hb
  exact ⟨by decide, by decide⟩

end LiveOs.Roles
