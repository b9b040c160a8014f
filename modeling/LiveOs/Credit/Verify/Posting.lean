import LiveOs.Credit.Posting
import LiveOs.EventLedger.Verify.Payloads

/-!
# What posting does

The account table keeps one account for each system type and for each member, under ids computed
from the type and the member number, so every lookup of an account is determined. A successful
`post_credit_transaction` either returns the posted row that carries its key or appends one row
and one event.
-/

namespace LiveOs.Credit

open Lib EventLedger

variable {ctx : Context}

/-! ## Account ids -/

theorem systemAccountId_injective : Function.Injective systemAccountId := by
  intro a b h
  cases a <;> cases b <;> first | rfl | exact absurd h (by decide)

theorem memberAccountId_injective (ctx : Context) : Function.Injective (memberAccountId ctx) := by
  intro a b h
  have hl := congrArg String.toList h
  rw [memberAccountId, memberAccountId, String.toList_append, String.toList_append] at hl
  exact ctx.memberNo_injective (String.toList_inj.1 (List.append_cancel_left hl))

theorem memberAccountId_ne_system (ctx : Context) (member : Nat) (accountType : AccountType) :
    memberAccountId ctx member ≠ systemAccountId accountType := by
  intro h
  have hl := congrArg String.toList h
  rw [memberAccountId, systemAccountId, String.toList_append, String.toList_append] at hl
  have hhead := congrArg (fun cs => cs[5]?) hl
  simp at hhead

@[simp] theorem systemAccountId_inj {a b : AccountType} :
    systemAccountId a = systemAccountId b ↔ a = b :=
  systemAccountId_injective.eq_iff

@[simp] theorem memberAccountId_eq_system {m : Nat} {ty : AccountType} :
    memberAccountId ctx m = systemAccountId ty ↔ False :=
  iff_false_intro (memberAccountId_ne_system ctx m ty)

@[simp] theorem system_eq_memberAccountId {m : Nat} {ty : AccountType} :
    systemAccountId ty = memberAccountId ctx m ↔ False :=
  iff_false_intro fun h => memberAccountId_ne_system ctx m ty h.symm

/-! ## The account table -/

/-- The account of a member. -/
def memberAccount (ctx : Context) (member : Nat) : CreditAccount :=
  ⟨memberAccountId ctx member, .member, some member⟩

/-- The account of a system type. -/
def systemAccount (accountType : AccountType) : CreditAccount :=
  ⟨systemAccountId accountType, accountType, none⟩

/-- Every account is that of a member or of a system type. -/
def AccountsOf (ctx : Context) (accounts : AccountTable) : Prop :=
  ∀ a ∈ accounts.rows, (∃ m, a = memberAccount ctx m) ∨
    ∃ ty, ty ≠ .member ∧ a = systemAccount ty

/-- All system accounts exist as well. -/
structure AccountsOk (ctx : Context) (accounts : AccountTable) : Prop where
  known : AccountsOf ctx accounts
  system : ∀ ty, ty ≠ .member → systemAccount ty ∈ accounts.rows

theorem findPool_eq {s : CreditState ctx} (h : AccountsOk ctx s.accounts) {ty : AccountType}
    (hty : ty ≠ .member) : findPool s ty = some (systemAccount ty) := by
  refine Table.first?_of_unique (h.system ty hty) (by simp [systemAccount]) ?_
  intro a ha hp
  have hp : a.accountType = ty := by simpa using hp
  rcases h.known a ha with ⟨m, rfl⟩ | ⟨ty', -, rfl⟩
  · exact absurd hp.symm hty
  · rw [show ty' = ty from hp]

theorem pool_eq {s : CreditState ctx} (h : AccountsOk ctx s.accounts) {ty : AccountType}
    (hty : ty ≠ .member) : pool s ty = .ok (systemAccount ty) := by
  rw [pool, findPool_eq h hty]

/-- `get_or_create` of an account by its type and member finds it or appends it. -/
theorem getOrCreate_account {accounts : AccountTable} {account : CreditAccount}
    {p : CreditAccount → Bool} (hp : ∀ a ∈ accounts.rows, p a = true ↔ a = account)
    (hid : ∀ a ∈ accounts.rows, a.accountId = account.accountId → a = account)
    (hmember : ∀ a ∈ accounts.rows, ∀ m, a.member = some m → account.member = some m →
      a = account) :
    ∃ accounts' created, accounts.getOrCreate p account Error.multipleObjects Error.integrity =
        .ok (accounts', account, created) ∧
      (accounts' = accounts ∨ accounts'.rows = accounts.rows ++ [account]) ∧
      account ∈ accounts'.rows := by
  unfold Table.getOrCreate
  have hfilter : ∀ a ∈ accounts.rows.filter p, a = account := by
    intro a ha
    obtain ⟨hmem, hpa⟩ := List.mem_filter.1 ha
    exact (hp a hmem).1 hpa
  cases hrows : accounts.rows.filter p with
  | nil =>
    have hnew : account ∉ accounts.rows := by
      intro hmem
      have : account ∈ accounts.rows.filter p := List.mem_filter.2 ⟨hmem, (hp _ hmem).2 rfl⟩
      rw [hrows] at this
      cases this
    obtain ⟨accounts', hins, hrows'⟩ := Table.insert_of_fresh (t := accounts) (r := account)
      (e := Error.integrity) (fun a ha heq => hnew (hid a ha heq ▸ ha))
      (fun m hm a ha ham => hnew (hmember a ha m ham hm ▸ ha))
    refine ⟨accounts', true, ?_, .inr hrows', by simp [hrows']⟩
    simp only [hins, ok_bind]
    rfl
  | cons a as =>
    obtain rfl := hfilter a (by rw [hrows]; exact List.mem_cons_self)
    have hmem : a ∈ accounts.rows := (List.mem_filter.1 (by rw [hrows]; exact List.mem_cons_self)).1
    cases as with
    | nil => exact ⟨accounts, false, rfl, .inl rfl, hmem⟩
    | cons b bs =>
      -- two rows with one primary key would not be distinct
      obtain rfl := hfilter b (by rw [hrows]; exact List.mem_cons_of_mem _ List.mem_cons_self)
      have hnd : (accounts.rows.filter p).Nodup :=
        (List.Nodup.of_map _ accounts.pkUnique).filter _
      rw [hrows] at hnd
      exact absurd List.mem_cons_self (List.nodup_cons.1 hnd).1

/-- The account table may only grow, by accounts of members and system types. -/
structure Grows (ctx : Context) (accounts accounts' : AccountTable) : Prop where
  known : AccountsOf ctx accounts'
  subset : ∀ a ∈ accounts.rows, a ∈ accounts'.rows

theorem Grows.of_append {accounts accounts' : AccountTable} {account : CreditAccount}
    (h : AccountsOf ctx accounts)
    (hacc : (∃ m, account = memberAccount ctx m) ∨ ∃ ty, ty ≠ .member ∧ account = systemAccount ty)
    (hrows : accounts' = accounts ∨ accounts'.rows = accounts.rows ++ [account]) :
    Grows ctx accounts accounts' := by
  rcases hrows with rfl | hrows
  · exact ⟨h, fun _ ha => ha⟩
  · refine ⟨fun a ha => ?_, fun a ha => by rw [hrows]; exact List.mem_append_left _ ha⟩
    rw [hrows] at ha
    rcases List.mem_append.1 ha with ha | ha
    · exact h a ha
    · rw [List.mem_singleton.1 ha]
      exact hacc

theorem AccountsOk.grow {accounts accounts' : AccountTable} (h : AccountsOk ctx accounts)
    (hg : Grows ctx accounts accounts') : AccountsOk ctx accounts' :=
  ⟨hg.known, fun ty hty => hg.subset _ (h.system ty hty)⟩

/-- The account of a member is found or created. -/
theorem getOrCreateMember_ok {s : CreditState ctx} (h : AccountsOf ctx s.accounts) (member : Nat) :
    ∃ accounts, getOrCreateMemberCreditAccount s member =
        .ok ({ s with accounts := accounts }, memberAccount ctx member) ∧
      Grows ctx s.accounts accounts ∧ memberAccount ctx member ∈ accounts.rows := by
  have hp : ∀ a ∈ s.accounts.rows,
      decide (a.accountType = .member ∧ a.member = some member) = true ↔
        a = memberAccount ctx member := by
    intro a ha
    rw [decide_eq_true_iff]
    rcases h a ha with ⟨m, rfl⟩ | ⟨ty, hty, rfl⟩
    · constructor
      · rintro ⟨-, hm⟩
        rw [show m = member from Option.some.inj hm]
      · intro heq
        exact ⟨rfl, congrArg CreditAccount.member heq⟩
    · exact ⟨fun hm => absurd hm.1 hty, fun heq => absurd (congrArg CreditAccount.member heq)
        (by simp [systemAccount, memberAccount])⟩
  have hid : ∀ a ∈ s.accounts.rows, a.accountId = memberAccountId ctx member →
      a = memberAccount ctx member := by
    intro a ha hid
    rcases h a ha with ⟨m, rfl⟩ | ⟨ty, hty, rfl⟩
    · rw [memberAccountId_injective ctx hid]
    · exact absurd hid.symm (memberAccountId_ne_system ctx member ty)
  have hmember : ∀ a ∈ s.accounts.rows, ∀ m, a.member = some m →
      (memberAccount ctx member).member = some m → a = memberAccount ctx member := by
    intro a ha m ham hm
    obtain rfl := Option.some.inj hm
    rcases h a ha with ⟨m', rfl⟩ | ⟨ty, hty, rfl⟩
    · rw [show m' = member from Option.some.inj ham]
    · cases ham
  obtain ⟨accounts, created, heq, hrows, hmem⟩ := getOrCreate_account hp hid hmember
  refine ⟨accounts, ?_, Grows.of_append h (.inl ⟨member, rfl⟩) hrows, hmem⟩
  unfold getOrCreateMemberCreditAccount
  rw [show (⟨memberAccountId ctx member, .member, some member⟩ : CreditAccount) =
    memberAccount ctx member from rfl, heq]
  rfl

/-- Nothing changes but the account table, which may grow. -/
structure Grown (s s' : CreditState ctx) : Prop where
  accounts : Grows ctx s.accounts s'.accounts
  transactions : s'.transactions = s.transactions
  orders : s'.orders = s.orders
  settlements : s'.settlements = s.settlements
  events : s'.events = s.events

theorem Grown.refl {s : CreditState ctx} (h : AccountsOf ctx s.accounts) : Grown s s :=
  ⟨⟨h, fun _ ha => ha⟩, rfl, rfl, rfl, rfl⟩

theorem Grown.trans {s₁ s₂ s₃ : CreditState ctx} (h : Grown s₁ s₂) (h' : Grown s₂ s₃) :
    Grown s₁ s₃ :=
  ⟨⟨h'.accounts.known, fun a ha => h'.accounts.subset a (h.accounts.subset a ha)⟩,
    h'.transactions.trans h.transactions, h'.orders.trans h.orders,
    h'.settlements.trans h.settlements, h'.events.trans h.events⟩

/-- What a successful `get_or_create_member_credit_account` returns. -/
theorem getOrCreateMember_inv {s s' : CreditState ctx} {member : Nat} {account : CreditAccount}
    (h : AccountsOf ctx s.accounts)
    (heq : getOrCreateMemberCreditAccount s member = .ok (s', account)) :
    account = memberAccount ctx member ∧ Grown s s' ∧
      memberAccount ctx member ∈ s'.accounts.rows := by
  obtain ⟨accounts, heq', hg, hmem⟩ := getOrCreateMember_ok h member
  rw [heq'] at heq
  obtain ⟨rfl, rfl⟩ := Prod.mk.inj (Except.ok.inj heq)
  exact ⟨rfl, ⟨hg, rfl, rfl, rfl, rfl⟩, hmem⟩

/-- One system account is found or created. -/
theorem ensureSystemAccount_ok {s : CreditState ctx} (h : AccountsOf ctx s.accounts)
    {ty : AccountType} (hty : ty ≠ .member) : ∃ accounts, ensureSystemAccount s ty =
        .ok { s with accounts := accounts } ∧
      Grows ctx s.accounts accounts ∧ systemAccount ty ∈ accounts.rows := by
  have hp : ∀ a ∈ s.accounts.rows,
      decide (a.accountType = ty ∧ a.member = none) = true ↔ a = systemAccount ty := by
    intro a ha
    rw [decide_eq_true_iff]
    rcases h a ha with ⟨m, rfl⟩ | ⟨ty', hty', rfl⟩
    · exact ⟨fun hm => absurd hm.1.symm hty, fun heq => absurd (congrArg CreditAccount.member heq)
        (by simp [systemAccount, memberAccount])⟩
    · constructor
      · rintro ⟨hm, -⟩
        rw [show ty' = ty from hm]
      · intro heq
        exact ⟨congrArg CreditAccount.accountType heq, rfl⟩
  have hid : ∀ a ∈ s.accounts.rows, a.accountId = systemAccountId ty → a = systemAccount ty := by
    intro a ha hid
    rcases h a ha with ⟨m, rfl⟩ | ⟨ty', hty', rfl⟩
    · exact absurd hid (memberAccountId_ne_system ctx m ty)
    · rw [systemAccountId_injective hid]
  have hmember : ∀ a ∈ s.accounts.rows, ∀ m, a.member = some m →
      (systemAccount ty).member = some m → a = systemAccount ty := nofun
  obtain ⟨accounts, created, heq, hrows, hmem⟩ := getOrCreate_account hp hid hmember
  refine ⟨accounts, ?_, Grows.of_append h (.inr ⟨ty, hty, rfl⟩) hrows, hmem⟩
  unfold ensureSystemAccount
  rw [show (⟨systemAccountId ty, ty, none⟩ : CreditAccount) = systemAccount ty from rfl, heq]
  rfl

/-- `ensure_system_accounts()` leaves every system account in place. -/
theorem ensureSystemAccounts_ok {s : CreditState ctx} (h : AccountsOf ctx s.accounts) :
    ∃ accounts, ensureSystemAccounts s = .ok { s with accounts := accounts } ∧
      AccountsOk ctx accounts ∧ Grows ctx s.accounts accounts := by
  obtain ⟨a₁, h₁, g₁, m₁⟩ := ensureSystemAccount_ok h
    (show AccountType.issuancePool ≠ .member by decide)
  obtain ⟨a₂, h₂, g₂, m₂⟩ := ensureSystemAccount_ok (s := { s with accounts := a₁ }) g₁.known
    (show AccountType.taskLocked ≠ .member by decide)
  obtain ⟨a₃, h₃, g₃, m₃⟩ := ensureSystemAccount_ok (s := { s with accounts := a₂ }) g₂.known
    (show AccountType.frozen ≠ .member by decide)
  obtain ⟨a₄, h₄, g₄, m₄⟩ := ensureSystemAccount_ok (s := { s with accounts := a₃ }) g₃.known
    (show AccountType.burn ≠ .member by decide)
  refine ⟨a₄, ?_, ⟨g₄.known, ?_⟩, g₄.known, ?_⟩
  · simp only [ensureSystemAccounts, h₁, h₂, h₃, h₄, ok_bind]
  · intro ty hty
    cases ty with
    | issuancePool => exact g₄.subset _ (g₃.subset _ (g₂.subset _ m₁))
    | taskLocked => exact g₄.subset _ (g₃.subset _ m₂)
    | frozen => exact g₄.subset _ m₃
    | burn => exact m₄
    | member => exact absurd rfl hty
  · intro a ha
    exact g₄.subset _ (g₃.subset _ (g₂.subset _ (g₁.subset _ ha)))

/-! ## Keys -/

@[simp] theorem normaliseIdemKey_normaliseIdemKey (key : Option String) :
    normaliseIdemKey (normaliseIdemKey key) = normaliseIdemKey key := by
  cases key with
  | none => rfl
  | some raw =>
    unfold normaliseIdemKey
    by_cases h : strip raw = ""
    · simp [h]
    · simp [h, strip_strip]

theorem normaliseIdemKey_some {key : Option String} {k : String}
    (h : normaliseIdemKey key = some k) : normaliseIdemKey (some k) = some k := by
  rw [← h, normaliseIdemKey_normaliseIdemKey]

/-! ## `post_credit_transaction` -/

/-- The type, the amount and the endpoints of a row. -/
structure RowIs (txn : CreditTransaction) (txnType : TxnType) (amount : Int)
    (source target : Option String) : Prop where
  transactionType : txn.transactionType = txnType
  amount : txn.amount = amount
  source : txn.sourceAccount = source
  target : txn.targetAccount = target

instance (txn : CreditTransaction) (txnType : TxnType) (amount : Int)
    (source target : Option String) : Decidable (RowIs txn txnType amount source target) :=
  decidable_of_iff (txn.transactionType = txnType ∧ txn.amount = amount ∧
      txn.sourceAccount = source ∧ txn.targetAccount = target)
    ⟨fun ⟨h₁, h₂, h₃, h₄⟩ => ⟨h₁, h₂, h₃, h₄⟩, fun ⟨h₁, h₂, h₃, h₄⟩ => ⟨h₁, h₂, h₃, h₄⟩⟩

theorem RowIs.self {txn : CreditTransaction} {txnType : TxnType} {amount : Int}
    {source target : Option String} (h : RowIs txn txnType amount source target) :
    RowIs txn txnType txn.amount source target :=
  ⟨h.transactionType, rfl, h.source, h.target⟩

/-- The computation returns `a` where `P` holds and raises `DomainError` everywhere else. -/
def Checks {α : Type} (x : Except Error α) (P : Prop) (a : α) : Prop :=
  P ∧ x = .ok a ∨ ¬ P ∧ ∃ message, x = .error (.domain message)

theorem Checks.ok {α : Type} (a : α) : Checks (.ok a) True a := .inl ⟨trivial, rfl⟩

theorem Checks.rejectIf (c : Prop) [Decidable c] (message : String) :
    Checks (rejectIf c (.domain message)) (¬ c) () := by
  by_cases h : c
  · exact .inr ⟨not_not.2 h, message, rejectIf_pos h⟩
  · exact .inl ⟨h, rejectIf_neg h⟩

/-- One check after another. -/
theorem Checks.bind {α β : Type} {x : Except Error α} {f : α → Except Error β} {P Q : Prop}
    {a : α} {b : β} (hx : Checks x P a) (hf : Checks (f a) Q b) : Checks (x >>= f) (P ∧ Q) b := by
  rcases hx with ⟨hp, rfl⟩ | ⟨hp, message, rfl⟩
  · rcases hf with ⟨hq, heq⟩ | ⟨hq, message, heq⟩
    · exact .inl ⟨⟨hp, hq⟩, heq⟩
    · exact .inr ⟨fun h => hq h.2, message, heq⟩
  · exact .inr ⟨fun h => hp h.1, message, rfl⟩

theorem Checks.of_iff {α : Type} {x : Except Error α} {P Q : Prop} {a : α} (h : Checks x P a)
    (hpq : P ↔ Q) : Checks x Q a := by
  unfold Checks at h ⊢
  rwa [← hpq]

theorem Checks.bind_ok {α β : Type} {x : Except Error α} {f : α → Except Error β} {P : Prop}
    {a : α} {b : β} (hx : Checks x P a) (hf : f a = .ok b) : Checks (x >>= f) P b :=
  (hx.bind (.inl ⟨trivial, hf⟩)).of_iff (iff_of_eq (and_true P))

theorem Checks.eq_ok {α : Type} {x : Except Error α} {P : Prop} {a b : α} (h : Checks x P a)
    (hok : x = .ok b) : P ∧ b = a := by
  rcases h with ⟨hp, heq⟩ | ⟨-, message, heq⟩
  · exact ⟨hp, Except.ok.inj (hok.symm.trans heq)⟩
  · rw [heq] at hok
    cases hok

/-- The computation raises `DomainError`. -/
def Raises {α : Type} (x : Except Error α) : Prop := ∃ message, x = .error (.domain message)

theorem Checks.raises {α : Type} {x : Except Error α} {P : Prop} {a : α} (h : Checks x P a)
    (hp : ¬ P) : Raises x :=
  h.elim (fun h => absurd h.1 hp) And.right

theorem Raises.bind {α β : Type} {x : Except Error α} {f : α → Except Error β} (h : Raises x) :
    Raises (x >>= f) := by
  obtain ⟨message, rfl⟩ := h
  exact ⟨message, rfl⟩

theorem Checks.raises_bind {α β : Type} {x : Except Error α} {f : α → Except Error β} {P : Prop}
    {a : α} (hx : Checks x P a) (hf : Raises (f a)) : Raises (x >>= f) := by
  rcases hx with ⟨-, rfl⟩ | ⟨-, message, rfl⟩
  · exact hf
  · exact ⟨message, rfl⟩

theorem assertIdempotentMatch_checks (fields : List (String × Bool)) :
    Checks (assertIdempotentMatch fields) (∀ f ∈ fields, f.2 = true) () := by
  refine (Checks.rejectIf _ _).of_iff ?_
  rw [not_not, List.map_eq_nil_iff, List.filter_eq_nil_iff]
  simp

theorem assertIdempotentMatch_ok {fields : List (String × Bool)}
    (h : assertIdempotentMatch fields = .ok ()) : ∀ f ∈ fields, f.2 = true :=
  ((assertIdempotentMatch_checks fields).eq_ok h).1

theorem matchFields_ok {existing : CreditTransaction} {txnType : TxnType} {args : PostArgs} :
    (∀ f ∈ matchFields existing txnType args, f.2 = true) ↔
      RowIs existing txnType args.amount args.sourceAccount args.targetAccount ∧
        existing.relatedTask = args.relatedTask ∧
        existing.relatedLedgerEntry = args.relatedLedgerEntry := by
  simp only [matchFields, List.forall_mem_cons, List.not_mem_nil, false_imp_iff, implies_true,
    and_true, decide_eq_true_eq]
  exact ⟨fun ⟨h₁, h₂, h₃, h₄, h₅, h₆⟩ => ⟨⟨h₁, h₂, h₃, h₄⟩, h₅, h₆⟩,
    fun ⟨h, h₅, h₆⟩ => ⟨h.1, h.2, h.3, h.4, h₅, h₆⟩⟩

/-- The returned row was there, posted, under the key of the call. -/
structure Reused (s s' : CreditState ctx) (key : Option String) (txn : CreditTransaction) :
    Prop where
  grown : Grown s s'
  mem : txn ∈ s.transactions.rows
  posted : txn.status = .posted
  carries : ∃ k, key = some k ∧ txn.idempotencyKey = some k

/-- The returned row is new: it is appended with its event, and its id and key were free. -/
structure Created (s s' : CreditState ctx) (key : Option String) (txn : CreditTransaction) :
    Prop where
  accounts : Grows ctx s.accounts s'.accounts
  rows : s'.transactions.rows = s.transactions.rows ++ [txn]
  events : s'.events.calls = s.events.calls ++ [creditEventRequest txn]
  orders : s'.orders = s.orders
  settlements : s'.settlements = s.settlements
  posted : txn.status = .posted
  unlinked : txn.reversesTransaction = none
  amount_pos : 0 < txn.amount
  carries : txn.idempotencyKey = key
  freshId : ∀ t ∈ s.transactions.rows, t.transactionId ≠ txn.transactionId
  freshKey : ∀ k, key = some k → ∀ t ∈ s.transactions.rows, t.idempotencyKey ≠ some k

section

variable {s₁ s₂ s₃ : CreditState ctx} {key : Option String} {txn : CreditTransaction}

theorem Reused.after (h : Grown s₁ s₂) (hr : Reused s₂ s₃ key txn) : Reused s₁ s₃ key txn :=
  ⟨h.trans hr.grown, by rw [← h.transactions]; exact hr.mem, hr.posted, hr.carries⟩

theorem Created.after (h : Grown s₁ s₂) (hc : Created s₂ s₃ key txn) : Created s₁ s₃ key txn where
  accounts := ⟨hc.accounts.known, fun a ha => hc.accounts.subset a (h.accounts.subset a ha)⟩
  rows := by rw [hc.rows, h.transactions]
  events := by rw [hc.events, h.events]
  orders := hc.orders.trans h.orders
  settlements := hc.settlements.trans h.settlements
  posted := hc.posted
  unlinked := hc.unlinked
  amount_pos := hc.amount_pos
  carries := hc.carries
  freshId := by rw [← h.transactions]; exact hc.freshId
  freshKey := by rw [← h.transactions]; exact hc.freshKey

end

/-- A posted row that meets `P` carries the key. -/
def Carried (s : CreditState ctx) (key : Option String) (P : CreditTransaction → Prop) : Prop :=
  ∃ t ∈ s.transactions.rows, t.status = .posted ∧
    (∃ k, key = some k ∧ t.idempotencyKey = some k) ∧ P t

instance (s : CreditState ctx) (key : Option String) (P : CreditTransaction → Prop)
    [DecidablePred P] : Decidable (Carried s key P) :=
  decidable_of_iff (∃ t ∈ s.transactions.rows, t.status = .posted ∧
      (key.isSome ∧ t.idempotencyKey = key) ∧ P t) <| by
    cases key <;> simp [Carried]

theorem Reused.carried {s s' : CreditState ctx} {key : Option String} {txn : CreditTransaction}
    {P : CreditTransaction → Prop} (h : Reused s s' key txn) (hp : P txn) : Carried s key P :=
  ⟨txn, h.mem, h.posted, h.carries, hp⟩

theorem Created.not_carried {s s' : CreditState ctx} {key : Option String}
    {txn : CreditTransaction} {P : CreditTransaction → Prop} (h : Created s s' key txn) :
    ¬ Carried s key P := by
  rintro ⟨t, ht, -, ⟨k, hkey, hcarries⟩, -⟩
  exact h.freshKey k hkey t ht hcarries

theorem findPosted_mem {s : CreditState ctx} {key : Option String} {t : CreditTransaction}
    (h : findPosted s key = some t) :
    t ∈ s.transactions.rows ∧ t.status = .posted ∧
      ∃ k, key = some k ∧ t.idempotencyKey = some k := by
  unfold findPosted at h
  cases key with
  | none => cases h
  | some k =>
    obtain ⟨hmem, hp⟩ := Table.mem_of_first? h
    simp only [Bool.and_eq_true, decide_eq_true_eq] at hp
    exact ⟨hmem, hp.2, k, rfl, hp.1⟩

theorem createTransaction_ok {s s' : CreditState ctx} {txn : CreditTransaction}
    (h : createTransaction s txn = .ok s') :
    s'.transactions.rows = s.transactions.rows ++ [txn] ∧
      s'.events.calls = s.events.calls ++ [creditEventRequest txn] ∧
      s'.accounts = s.accounts ∧ s'.orders = s.orders ∧ s'.settlements = s.settlements ∧
      (∀ t ∈ s.transactions.rows, t.transactionId ≠ txn.transactionId) ∧
      ∀ k, txn.idempotencyKey = some k → ∀ t ∈ s.transactions.rows, t.idempotencyKey ≠ some k := by
  obtain ⟨transactions, hins, h⟩ := bind_eq_ok.1 h
  obtain ⟨events, hev, h⟩ := bind_eq_ok.1 h
  obtain rfl := pure_eq_ok.1 h
  obtain ⟨hrows, hid, hkey⟩ := Table.insert_ok hins
  exact ⟨hrows, (Journal.append_eq_ok hev).2, rfl, rfl, rfl, hid, hkey⟩

theorem postCreditTransaction_type {env : CallEnv} {s s' : CreditState ctx} {args : PostArgs}
    {txn : CreditTransaction} (h : postCreditTransaction env s args = .ok (s', txn)) :
    ∃ txnType, TxnType.ofValue? args.transactionType = some txnType := by
  obtain ⟨-, h⟩ := rejectIf_bind_eq_ok.1 h
  cases hty : TxnType.ofValue? args.transactionType with
  | none => rw [hty] at h; cases h
  | some txnType => exact ⟨txnType, rfl⟩

/-- What a successful posting returns and writes. -/
structure Posts (env : CallEnv) (s s' : CreditState ctx) (args : PostArgs) (txnType : TxnType)
    (txn : CreditTransaction) : Prop where
  amount_pos : 0 < args.amount
  row : RowIs txn txnType args.amount args.sourceAccount args.targetAccount
  task : txn.relatedTask = args.relatedTask
  entry : txn.relatedLedgerEntry = args.relatedLedgerEntry
  write : Reused s s' (normaliseIdemKey args.idempotencyKey) txn ∨
    Created s s' (normaliseIdemKey args.idempotencyKey) txn ∧
      ∃ metadata, jsonStore (orEmptyDict args.metadata) = some metadata ∧
        txn = newTransaction env args txnType metadata

/-- **Posting.** A successful call returns a row with the requested fields, and either that row
was there under the key of the call or it is the one row appended. -/
theorem postCreditTransaction_ok {env : CallEnv} {s s' : CreditState ctx} {args : PostArgs}
    {txn : CreditTransaction} {txnType : TxnType} (hacc : AccountsOf ctx s.accounts)
    (hty : TxnType.ofValue? args.transactionType = some txnType)
    (h : postCreditTransaction env s args = .ok (s', txn)) :
    Posts env s s' args txnType txn := by
  obtain ⟨hamount, h⟩ := rejectIf_bind_eq_ok.1 h
  have hpos : 0 < args.amount := by omega
  simp only [hty] at h
  split at h
  · -- a row found under the key is returned when its fields match
    rename_i existing hfind
    obtain ⟨_, hmatch, h⟩ := bind_eq_ok.1 h
    obtain ⟨rfl, rfl⟩ := Prod.mk.inj (pure_eq_ok.1 h)
    obtain ⟨hmem, hposted, hkey⟩ := findPosted_mem hfind
    obtain ⟨hrow, htask, hentry⟩ := matchFields_ok.1 (assertIdempotentMatch_ok hmatch)
    exact ⟨hpos, hrow, htask, hentry, .inl ⟨Grown.refl hacc, hmem, hposted, hkey⟩⟩
  · split at h
    · cases h
    · rename_i metadata hmeta
      split at h
      · rename_i s'' hcreate
        obtain ⟨rfl, rfl⟩ := Prod.mk.inj (Except.ok.inj h)
        obtain ⟨hrows, hevents, hacc', hord, hset, hid, hkey⟩ := createTransaction_ok hcreate
        have hgrows : Grows ctx s.accounts s''.accounts :=
          ⟨by rw [hacc']; exact hacc, fun a ha => by rw [hacc']; exact ha⟩
        refine ⟨hpos, ⟨rfl, rfl, rfl, rfl⟩, rfl, rfl, .inr ⟨?_, metadata, hmeta, rfl⟩⟩
        exact ⟨hgrows, hrows, hevents, hord, hset, rfl, rfl, hpos, rfl, hid, hkey⟩
      · -- nothing was found before the savepoint, so nothing is found after it
        cases h
      · cases h

end LiveOs.Credit
