import LiveOs.Lib.Runs

/-!
# Services on a database and beside it

A service runs in nested atomic blocks over a database and has effects outside it that no rollback
undoes, so its exception handlers compensate for them by hand. Any step may be made to raise. A step
on the database that raises inside a block may leave anything behind there; a step outside that
raises has done nothing. `Service.Meets` says what holds after a service that returns and after one
that raises, whatever steps raise; it has one rule for each way to build a service.
-/

namespace LiveOs.Lib

/-- A database, what lies outside it, the callbacks for the commit and the number of open blocks. -/
structure Site (δ ω : Type) where
  db : δ
  outside : ω
  hooks : List (ω → ω)
  depth : Nat

/-- For each step to come, nothing or the exception to raise, with the database to leave behind. -/
abbrev Faults (ε δ : Type) := List (Option (ε × δ))

/-- A computation that may raise. What it has done before it raises stays done. -/
def Service (ε δ ω α : Type) : Type :=
  Faults ε δ → Site δ ω → Except ε α × Faults ε δ × Site δ ω

variable {ε δ ω α β : Type}

instance : Monad (Service ε δ ω) where
  pure a := fun faults s => (.ok a, faults, s)
  bind x f := fun faults s =>
    match x faults s with
    | (.ok a, faults, s) => f a faults s
    | (.error e, faults, s) => (.error e, faults, s)

/-- The state after a rollback to the state in which the block began. -/
def Site.rollback (s began : Site δ ω) : Site δ ω :=
  { s with db := began.db, hooks := began.hooks, depth := began.depth }

/-- The state after the outermost block: its callbacks have run. -/
def Site.committed (s : Site δ ω) : Site δ ω :=
  { s with outside := s.hooks.foldl (fun o hook => hook o) s.outside, hooks := [], depth := 0 }

/-- The state after a block that began in the given state. -/
def Site.close (s began : Site δ ω) : Site δ ω :=
  if began.depth = 0 then s.committed else { s with depth := began.depth }

namespace Service

/-- A step that changes nothing. -/
def check (x : Except ε α) : Service ε δ ω α := fun faults s =>
  match faults.head?.join with
  | some (e, _) => (.error e, faults.tail, s)
  | none => (x, faults.tail, s)

/-- A step on the database. Outside every block a step that raises is rolled back at once. -/
def onDb (f : δ → Except ε (α × δ)) : Service ε δ ω α := fun faults s =>
  match faults.head?.join with
  | some (e, db) => (.error e, faults.tail, if s.depth = 0 then s else { s with db := db })
  | none =>
    match f s.db with
    | .error e => (.error e, faults.tail, s)
    | .ok (a, db) => (.ok a, faults.tail, { s with db := db })

/-- A step outside the database. -/
def onOutside (f : ω → Except ε (α × ω)) : Service ε δ ω α := fun faults s =>
  match faults.head?.join with
  | some (e, _) => (.error e, faults.tail, s)
  | none =>
    match f s.outside with
    | .error e => (.error e, faults.tail, s)
    | .ok (a, outside) => (.ok a, faults.tail, { s with outside := outside })

/-- A step outside the database that raises only by itself. -/
def sure (f : ω → Except ε ω) : Service ε δ ω Unit := fun faults s =>
  match f s.outside with
  | .error e => (.error e, faults, s)
  | .ok outside => (.ok (), faults, { s with outside := outside })

/-- What the database answers. -/
def query (f : δ → Except ε α) : Service ε δ ω α :=
  onDb fun db => (f db).map fun a => (a, db)

/-- `transaction.on_commit(hook)`. -/
def onCommit (hook : ω → ω) : Service ε δ ω Unit := fun faults s =>
  if s.depth = 0 then (.ok (), faults, { s with outside := hook s.outside })
  else (.ok (), faults, { s with hooks := s.hooks ++ [hook] })

/-- `with transaction.atomic(): body`. The commit, or the release of the savepoint, is a step. -/
def atomic (body : Service ε δ ω α) : Service ε δ ω α := fun faults s =>
  match body faults { s with depth := s.depth + 1 } with
  | (.error e, faults, s') => (.error e, faults, s'.rollback s)
  | (.ok a, faults, s') =>
    match faults.head?.join with
    | some (e, _) => (.error e, faults.tail, s'.rollback s)
    | none => (.ok a, faults.tail, s'.close s)

/-- `try: body` with `except Exception: cleanup; raise`. -/
def onError (body : Service ε δ ω α) (cleanup : Service ε δ ω Unit) : Service ε δ ω α :=
  fun faults s =>
    match body faults s with
    | (.ok a, faults, s) => (.ok a, faults, s)
    | (.error e, faults, s) =>
      match cleanup faults s with
      | (.ok (), faults, s) => (.error e, faults, s)
      | (.error e', faults, s) => (.error e', faults, s)

/-- `try: body` with `except Exception as e: raise f(e)`. -/
def mapError (f : ε → ε) (body : Service ε δ ω α) : Service ε δ ω α := fun faults s =>
  match body faults s with
  | (.ok a, faults, s) => (.ok a, faults, s)
  | (.error e, faults, s) => (.error (f e), faults, s)

/-- `for x in xs: body(x)`. -/
def forEach (body : α → Service ε δ ω Unit) : List α → Service ε δ ω Unit
  | [] => pure ()
  | x :: xs => do
    body x
    forEach body xs

/-! ## What a service ensures -/

/-- From the state, the service returns with `Q` or raises with `E`, whatever steps raise. -/
structure Meets (m : Service ε δ ω α) (s : Site δ ω) (Q : α → Site δ ω → Prop)
    (E : Site δ ω → Prop) : Prop where
  returns : ∀ {faults a faults' s'}, m faults s = (.ok a, faults', s') → Q a s'
  raises : ∀ {faults e faults' s'}, m faults s = (.error e, faults', s') → E s'

variable {s : Site δ ω} {Q Q' : α → Site δ ω → Prop} {E E' : Site δ ω → Prop}

theorem Meets.mono {m : Service ε δ ω α} (h : m.Meets s Q E) (hQ : ∀ a s', Q a s' → Q' a s')
    (hE : ∀ s', E s' → E' s') : m.Meets s Q' E' :=
  ⟨fun hm => hQ _ _ (h.returns hm), fun hm => hE _ (h.raises hm)⟩

theorem meets_pure {a : α} (h : Q a s) : (pure a : Service ε δ ω α).Meets s Q E := by
  constructor
  · intro faults b faults' s' hm
    obtain ⟨ha, -, rfl⟩ : a = b ∧ faults = faults' ∧ s = s' := by simpa [pure] using hm
    exact ha ▸ h
  · intro faults e faults' s' hm
    simp [pure] at hm

theorem meets_bind {x : Service ε δ ω β} {f : β → Service ε δ ω α} {R : β → Site δ ω → Prop}
    (hx : x.Meets s R E) (hf : ∀ b s', R b s' → (f b).Meets s' Q E) : (x >>= f).Meets s Q E := by
  constructor
  · intro faults a faults' s' hm
    simp only [bind] at hm
    split at hm
    · rename_i b faults₁ s₁ hb
      exact (hf b s₁ (hx.returns hb)).returns hm
    · simp at hm
  · intro faults e faults' s' hm
    simp only [bind] at hm
    split at hm
    · rename_i b faults₁ s₁ hb
      exact (hf b s₁ (hx.returns hb)).raises hm
    · rename_i e₁ faults₁ s₁ he
      obtain ⟨-, -, rfl⟩ : e₁ = e ∧ faults₁ = faults' ∧ s₁ = s' := by simpa using hm
      exact hx.raises he

theorem meets_check {x : Except ε α} (hQ : ∀ a, x = .ok a → Q a s) (hE : E s) :
    (check x : Service ε δ ω α).Meets s Q E := by
  constructor
  · intro faults a faults' s' hm
    unfold check at hm
    split at hm
    · simp at hm
    · obtain ⟨hx, -, rfl⟩ := by simpa using hm
      exact hQ a hx
  · intro faults e faults' s' hm
    unfold check at hm
    split at hm
    · obtain ⟨-, -, rfl⟩ := by simpa using hm
      exact hE
    · obtain ⟨-, -, rfl⟩ := by simpa using hm
      exact hE

theorem meets_onDb {f : δ → Except ε (α × δ)}
    (hQ : ∀ a db, f s.db = .ok (a, db) → Q a { s with db := db })
    (hE : ∀ db, (s.depth = 0 → db = s.db) → E { s with db := db }) :
    (onDb f : Service ε δ ω α).Meets s Q E := by
  have hsame : E s := hE s.db fun _ => rfl
  constructor
  · intro faults a faults' s' hm
    unfold onDb at hm
    split at hm
    · simp at hm
    · split at hm
      · simp at hm
      · rename_i b db hf
        obtain ⟨rfl, -, rfl⟩ := by simpa using hm
        exact hQ _ _ hf
  · intro faults e faults' s' hm
    unfold onDb at hm
    split at hm
    · rename_i e₁ db hfault
      obtain ⟨-, -, rfl⟩ := by simpa using hm
      split
      · exact hsame
      · rename_i hdepth
        exact hE db fun hzero => absurd hzero hdepth
    · split at hm
      · obtain ⟨-, -, rfl⟩ := by simpa using hm
        exact hsame
      · simp at hm

theorem meets_onOutside {f : ω → Except ε (α × ω)}
    (hQ : ∀ a o, f s.outside = .ok (a, o) → Q a { s with outside := o }) (hE : E s) :
    (onOutside f : Service ε δ ω α).Meets s Q E := by
  constructor
  · intro faults a faults' s' hm
    unfold onOutside at hm
    split at hm
    · simp at hm
    · split at hm
      · simp at hm
      · rename_i b o hf
        obtain ⟨rfl, -, rfl⟩ := by simpa using hm
        exact hQ _ _ hf
  · intro faults e faults' s' hm
    unfold onOutside at hm
    split at hm
    · obtain ⟨-, -, rfl⟩ := by simpa using hm
      exact hE
    · split at hm
      · obtain ⟨-, -, rfl⟩ := by simpa using hm
        exact hE
      · simp at hm

/-- A sure step that does not raise. -/
theorem meets_sure {f : ω → Except ε ω} {Q : Unit → Site δ ω → Prop} {o : ω}
    (hf : f s.outside = .ok o) (hQ : Q () { s with outside := o }) :
    (sure f : Service ε δ ω Unit).Meets s Q E := by
  constructor
  · intro faults a faults' s' hm
    simp only [sure, hf] at hm
    obtain ⟨-, rfl⟩ := by simpa using hm
    exact hQ
  · intro faults e faults' s' hm
    simp [sure, hf] at hm

theorem meets_query {f : δ → Except ε α} (hQ : ∀ a, f s.db = .ok a → Q a s)
    (hE : ∀ db, (s.depth = 0 → db = s.db) → E { s with db := db }) :
    (query f : Service ε δ ω α).Meets s Q E := by
  refine meets_onDb (fun a db h => ?_) hE
  cases hf : f s.db with
  | error e => rw [hf] at h; cases h
  | ok b =>
    rw [hf] at h
    obtain ⟨rfl, rfl⟩ := Prod.mk.inj (Except.ok.inj h)
    exact hQ b hf

theorem meets_onCommit {hook : ω → ω} {Q : Unit → Site δ ω → Prop} (hdepth : s.depth ≠ 0)
    (hQ : Q () { s with hooks := s.hooks ++ [hook] }) :
    (onCommit hook : Service ε δ ω Unit).Meets s Q E := by
  constructor
  · intro faults a faults' s' hm
    simp only [onCommit, if_neg hdepth] at hm
    obtain ⟨-, rfl⟩ := by simpa using hm
    exact hQ
  · intro faults e faults' s' hm
    simp [onCommit, if_neg hdepth] at hm

/-- **Blocks.** A block that returns may still fail to commit. -/
theorem meets_atomic {body : Service ε δ ω α}
    (h : body.Meets { s with depth := s.depth + 1 }
      (fun a s' => Q a (s'.close s) ∧ E (s'.rollback s)) fun s' => E (s'.rollback s)) :
    (atomic body).Meets s Q E := by
  constructor
  · intro faults a faults' s' hm
    unfold atomic at hm
    split at hm
    · simp at hm
    · rename_i b faults₁ s₁ hb
      split at hm
      · simp at hm
      · obtain ⟨rfl, -, rfl⟩ := by simpa using hm
        exact (h.returns hb).1
  · intro faults e faults' s' hm
    unfold atomic at hm
    split at hm
    · rename_i e₁ faults₁ s₁ he
      obtain ⟨-, -, rfl⟩ := by simpa using hm
      exact h.raises he
    · rename_i b faults₁ s₁ hb
      split at hm
      · obtain ⟨-, -, rfl⟩ := by simpa using hm
        exact (h.returns hb).2
      · simp at hm

/-- **Compensation.** -/
theorem meets_onError {body : Service ε δ ω α} {cleanup : Service ε δ ω Unit}
    {R : Site δ ω → Prop} (hbody : body.Meets s Q R)
    (hcleanup : ∀ s', R s' → cleanup.Meets s' (fun _ => E) E) :
    (onError body cleanup).Meets s Q E := by
  constructor
  · intro faults a faults' s' hm
    unfold onError at hm
    split at hm
    · rename_i b faults₁ s₁ hb
      obtain ⟨rfl, -, rfl⟩ := by simpa using hm
      exact hbody.returns hb
    · split at hm <;> simp at hm
  · intro faults e faults' s' hm
    unfold onError at hm
    split at hm
    · simp at hm
    · rename_i e₁ faults₁ s₁ he
      have hclean := hcleanup s₁ (hbody.raises he)
      split at hm
      · rename_i faults₂ s₂ hc
        obtain ⟨-, -, rfl⟩ := by simpa using hm
        exact hclean.returns hc
      · rename_i e₂ faults₂ s₂ hc
        obtain ⟨-, -, rfl⟩ := by simpa using hm
        exact hclean.raises hc

theorem meets_mapError {f : ε → ε} {body : Service ε δ ω α} (h : body.Meets s Q E) :
    (mapError f body).Meets s Q E := by
  constructor
  · intro faults a faults' s' hm
    unfold mapError at hm
    split at hm
    · rename_i b faults₁ s₁ hb
      obtain ⟨rfl, -, rfl⟩ := by simpa using hm
      exact h.returns hb
    · simp at hm
  · intro faults e faults' s' hm
    unfold mapError at hm
    split at hm
    · simp at hm
    · rename_i e₁ faults₁ s₁ he
      obtain ⟨-, -, rfl⟩ := by simpa using hm
      exact h.raises he

/-- **Loops.** -/
theorem meets_forEach {body : β → Service ε δ ω Unit} {I : Site δ ω → Prop}
    (hbody : ∀ x s, I s → (body x).Meets s (fun _ => I) E) (xs : List β) (hs : I s) :
    (forEach body xs).Meets s (fun _ => I) E := by
  induction xs generalizing s with
  | nil => exact meets_pure hs
  | cons x xs ih => exact meets_bind (hbody x s hs) fun _ _ h => ih h

/-! ## Undisturbed runs -/

/-- When no step is made to raise, the service returns the value and leaves the state. -/
def Runs (m : Service ε δ ω α) (s : Site δ ω) (a : α) (s' : Site δ ω) : Prop :=
  m [] s = (.ok a, [], s')

variable {a : α} {s₁ s' : Site δ ω}

/-- What a service ensures holds after an undisturbed run. -/
theorem Runs.meets {m : Service ε δ ω α} (h : m.Runs s a s') (hm : m.Meets s Q E) : Q a s' :=
  hm.returns h

theorem runs_pure : (pure a : Service ε δ ω α).Runs s a s := rfl

theorem runs_bind {x : Service ε δ ω β} {f : β → Service ε δ ω α} {b : β} (hx : x.Runs s b s₁)
    (hf : (f b).Runs s₁ a s') : (x >>= f).Runs s a s' := by
  simp only [Runs, bind] at *
  rw [hx]
  exact hf

theorem runs_check {x : Except ε α} (hx : x = .ok a) : (check x : Service ε δ ω α).Runs s a s := by
  rw [hx]
  rfl

theorem runs_rejectIf {p : Prop} [Decidable p] {e : ε} (h : ¬ p) :
    (check (rejectIf p e) : Service ε δ ω Unit).Runs s () s :=
  runs_check (if_neg h)

theorem runs_onDb {f : δ → Except ε (α × δ)} {db : δ} (hf : f s.db = .ok (a, db)) :
    (onDb f : Service ε δ ω α).Runs s a { s with db := db } := by
  simp [Runs, onDb, hf]

theorem runs_onOutside {f : ω → Except ε (α × ω)} {o : ω} (hf : f s.outside = .ok (a, o)) :
    (onOutside f : Service ε δ ω α).Runs s a { s with outside := o } := by
  simp [Runs, onOutside, hf]

theorem runs_query {f : δ → Except ε α} (hf : f s.db = .ok a) :
    (query f : Service ε δ ω α).Runs s a s :=
  runs_onDb (by rw [hf]; rfl)

theorem runs_atomic {body : Service ε δ ω α} (h : body.Runs { s with depth := s.depth + 1 } a s') :
    (atomic body).Runs s a (s'.close s) := by
  simp only [Runs, atomic] at *
  rw [h]
  rfl

theorem runs_onError {body : Service ε δ ω α} {cleanup : Service ε δ ω Unit}
    (h : body.Runs s a s') : (onError body cleanup).Runs s a s' := by
  simp only [Runs, onError] at *
  rw [h]

end Service

/-! ## What no service disturbs -/

/-- It holds outside, and the callbacks that wait keep it. -/
structure Site.Keeping (I : ω → Prop) (s : Site δ ω) : Prop where
  outside : I s.outside
  hooks : ∀ hook ∈ s.hooks, ∀ o, I o → I (hook o)

/-- The callbacks of a commit keep it one after another. -/
theorem Site.Keeping.committed {I : ω → Prop} {s : Site δ ω} (hs : s.Keeping I) :
    s.committed.Keeping I := by
  have hfold : ∀ (hooks : List (ω → ω)) (o : ω), (∀ hook ∈ hooks, ∀ o, I o → I (hook o)) → I o →
      I (hooks.foldl (fun o hook => hook o) o) := by
    intro hooks
    induction hooks with
    | nil => exact fun _ _ ho => ho
    | cons hook hooks ih =>
      exact fun o hhooks ho => ih (hook o) (fun h hmem => hhooks h (List.mem_cons_of_mem _ hmem))
        (hhooks hook List.mem_cons_self o ho)
  exact ⟨hfold s.hooks s.outside hs.hooks hs.outside, fun _ hmem => absurd hmem List.not_mem_nil⟩

namespace Service

/-- Whatever steps raise, what holds outside still holds there, callbacks included. -/
def Keeps (I : ω → Prop) (m : Service ε δ ω α) : Prop :=
  ∀ s, s.Keeping I → m.Meets s (fun _ => Site.Keeping I) (Site.Keeping I)

variable {I : ω → Prop}

theorem keeps_pure (a : α) : (pure a : Service ε δ ω α).Keeps I := fun _ hs => meets_pure hs

theorem keeps_bind {x : Service ε δ ω β} {f : β → Service ε δ ω α} (hx : x.Keeps I)
    (hf : ∀ b, (f b).Keeps I) : (x >>= f).Keeps I := fun s hs =>
  meets_bind (hx s hs) fun b s' hs' => hf b s' hs'

theorem keeps_check {x : Except ε α} : (check x : Service ε δ ω α).Keeps I := fun _ hs =>
  meets_check (fun _ _ => hs) hs

theorem keeps_onDb {f : δ → Except ε (α × δ)} : (onDb f : Service ε δ ω α).Keeps I := fun _ hs =>
  meets_onDb (fun _ _ _ => ⟨hs.outside, hs.hooks⟩) fun _ _ => ⟨hs.outside, hs.hooks⟩

theorem keeps_query {f : δ → Except ε α} : (query f : Service ε δ ω α).Keeps I := keeps_onDb

theorem keeps_onOutside {f : ω → Except ε (α × ω)}
    (hf : ∀ o a o', f o = .ok (a, o') → I o → I o') : (onOutside f : Service ε δ ω α).Keeps I :=
  fun _ hs => meets_onOutside (fun a o h => ⟨hf _ a o h hs.outside, hs.hooks⟩) hs

theorem keeps_sure {f : ω → Except ε ω} (hf : ∀ o o', f o = .ok o' → I o → I o') :
    (sure f : Service ε δ ω Unit).Keeps I := by
  intro s hs
  cases hrun : f s.outside with
  | ok o => exact meets_sure hrun ⟨hf _ o hrun hs.outside, hs.hooks⟩
  | error e =>
    constructor
    · intro faults a faults' s' hm
      simp [sure, hrun] at hm
    · intro faults e' faults' s' hm
      simp only [sure, hrun] at hm
      obtain ⟨-, -, rfl⟩ := by simpa using hm
      exact hs

theorem keeps_onCommit {hook : ω → ω} (hhook : ∀ o, I o → I (hook o)) :
    (onCommit hook : Service ε δ ω Unit).Keeps I := by
  intro s hs
  by_cases hdepth : s.depth = 0
  · constructor
    · intro faults a faults' s' hm
      simp only [onCommit, if_pos hdepth] at hm
      obtain ⟨-, rfl⟩ := by simpa using hm
      exact ⟨hhook _ hs.outside, hs.hooks⟩
    · intro faults e faults' s' hm
      simp [onCommit, if_pos hdepth] at hm
  · refine meets_onCommit hdepth ⟨hs.outside, fun h hmem => ?_⟩
    rcases List.mem_append.1 hmem with hmem | hmem
    · exact hs.hooks h hmem
    · exact List.mem_singleton.1 hmem ▸ hhook

theorem keeps_atomic {body : Service ε δ ω α} (hbody : body.Keeps I) :
    (atomic body).Keeps I := by
  intro s hs
  have hrollback : ∀ s' : Site δ ω, s'.Keeping I → (s'.rollback s).Keeping I := fun _ hs' =>
    ⟨hs'.outside, hs.hooks⟩
  have hinside := hbody { s with depth := s.depth + 1 } ⟨hs.outside, hs.hooks⟩
  refine meets_atomic (hinside.mono (fun a s' hs' => ⟨?_, hrollback s' hs'⟩) hrollback)
  unfold Site.close
  split
  · exact hs'.committed
  · exact ⟨hs'.outside, hs'.hooks⟩

theorem keeps_onError {body : Service ε δ ω α} {cleanup : Service ε δ ω Unit}
    (hbody : body.Keeps I) (hcleanup : cleanup.Keeps I) : (onError body cleanup).Keeps I :=
  fun s hs => meets_onError (hbody s hs) hcleanup

theorem keeps_mapError {f : ε → ε} {body : Service ε δ ω α} (hbody : body.Keeps I) :
    (mapError f body).Keeps I := fun s hs => meets_mapError (hbody s hs)

theorem keeps_forEach {body : β → Service ε δ ω Unit} (hbody : ∀ x, (body x).Keeps I)
    (xs : List β) : (forEach body xs).Keeps I := fun _ hs =>
  meets_forEach (fun x s hs => hbody x s hs) xs hs

/-- A service that is chosen by the state it starts in. -/
theorem keeps_chosen {m : Site δ ω → Service ε δ ω α} (hm : ∀ s, (m s).Keeps I) :
    Keeps I (fun faults s => m s faults s) := fun s hs =>
  ⟨fun h => (hm s s hs).returns h, fun h => (hm s s hs).raises h⟩

end Service

end LiveOs.Lib
