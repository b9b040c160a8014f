import LiveOs.Credit.Redemption
import LiveOs.Credit.Verify.Redemption

/-!
# What a call does

`Effect` sums the services up: a successful call leaves the ledger alone, enters one row, links a
reversal, or writes an order and a row together. The invariants of runs split on these cases.
-/

namespace LiveOs.Credit

open Lib EventLedger

variable {ctx : Context}

/-- The row lies between accounts of the table. -/
def EndpointsIn (accounts : AccountTable) (t : CreditTransaction) : Prop :=
  ∀ a, t.sourceAccount = some a ∨ t.targetAccount = some a →
    ∃ account ∈ accounts.rows, account.accountId = a

/-- The rows that are entered without an order, with the room on the account they draw from. -/
inductive Entry (s : CreditState ctx) (t : CreditTransaction) : CreditCall → Prop
  | issue {amount reason initiatedBy reviewedBy key}
    (row : RowIs t .issuance amount none (some (systemAccountId .issuancePool))) :
    Entry s t (.issue amount reason initiatedBy reviewedBy key)
  | lock {task amount reason initiatedBy key}
    (row : RowIs t .lock amount (some (systemAccountId .issuancePool))
      (some (systemAccountId .taskLocked)))
    (related : t.relatedTask = some task)
    (room : amount ≤ creditBalance s (systemAccountId .issuancePool)) :
    Entry s t (.lock task amount reason initiatedBy key)
  | unlock {task amount reason initiatedBy key}
    (row : RowIs t .unlock amount (some (systemAccountId .taskLocked))
      (some (systemAccountId .issuancePool)))
    (related : t.relatedTask = some task)
    (room : amount ≤ taskLockedSum s (systemAccountId .taskLocked) task) :
    Entry s t (.unlock task amount reason initiatedBy key)
  | reward {task member amount entry reviewedBy reason genesis}
    (row : RowIs t .taskReward amount (some (systemAccountId (rewardSource genesis)))
      (some (memberAccountId ctx member)))
    (related : t.relatedTask = some task)
    (room : genesis = false → amount ≤ taskLockedSum s (systemAccountId .taskLocked) task) :
    Entry s t (.reward task member amount entry reviewedBy reason genesis)
  | transfer {fromMember toMember amount reason initiatedBy key}
    (row : RowIs t .transfer amount (some (memberAccountId ctx fromMember))
      (some (memberAccountId ctx toMember))) :
    Entry s t (.transfer fromMember toMember amount reason initiatedBy key)
  | deduct {member amount reason initiatedBy key}
    (row : RowIs t .correction amount (some (memberAccountId ctx member))
      (some (systemAccountId .burn))) :
    Entry s t (.deduct member amount reason initiatedBy key)

/-- What a successful call does. -/
inductive Effect (env : CallEnv) (s s' : CreditState ctx) : CreditCall → Prop
  /-- The returned row or order was there already. -/
  | idle {c} (grown : Grown s s') : Effect env s s' c
  | entered {c t} (created : Created s s' t.idempotencyKey t) (entry : Entry s t c)
    (ends : EndpointsIn s'.accounts t) : Effect env s s' c
  /-- A row of any type through the posting core itself. -/
  | posted {args txnType t} (type : TxnType.ofValue? args.transactionType = some txnType)
    (row : RowIs t txnType args.amount args.sourceAccount args.targetAccount)
    (created : Created s s' (normaliseIdemKey args.idempotencyKey) t) :
    Effect env s s' (.post args)
  | reversed {original reversal s₁ reason initiatedBy key} (mem : original ∈ s.transactions.rows)
    (free : ∀ t ∈ s.transactions.rows, t.status = .posted →
      t.reversesTransaction ≠ some original.transactionId)
    (row : RowIs reversal .reversal original.amount original.targetAccount original.sourceAccount)
    (write : Reused s s₁ (normaliseIdemKey key) reversal ∨
      Created s s₁ (normaliseIdemKey key) reversal)
    (linked : s' = linkReversal s₁ reversal.transactionId original.transactionId) :
    Effect env s s' (.reverse original.transactionId reason initiatedBy key)
  | ordered {args itemType order t}
    (item : ItemType.ofValue? args.itemType = some itemType)
    (missing : findCreatedOrder s (normaliseIdemKey args.idempotencyKey) = .ok none)
    (ordered : Ordered env s s' args itemType order t) : Effect env s s' (.createOrder args)
  | cancelled {order reason reviewedBy key} (mem : order ∈ s.orders.rows)
    (account : memberAccount ctx order.member ∈ s'.accounts.rows)
    (closed : Closed s s' order .unfreeze (memberAccountId ctx order.member)
      (normaliseIdemKey (some (closingKey "redemption-unfreeze:" order.orderId key)))
      (orderMetadata order.orderId "action" "cancel") (cancelFields env reason)) :
    Effect env s s' (.cancelOrder order.orderId reason reviewedBy key)
  | fulfilled {order reason reviewedBy key} (mem : order ∈ s.orders.rows)
    (closed : Closed s s' order .burn (systemAccountId .burn)
      (normaliseIdemKey (some (closingKey "redemption-burn:" order.orderId key)))
      (orderMetadata order.orderId "action" "fulfill") (fulfillFields env reviewedBy)) :
    Effect env s s' (.fulfillOrder order.orderId reason reviewedBy key)
  | reported {order reason} (mem : order ∈ s.orders.rows) (pending : order.status = .pending)
    (updated : s' = updateOrder s order.orderId (issueFields env reason) (fun _ => rfl)) :
    Effect env s s' (.reportIssue order.orderId reason)

/-! ## Endpoints -/

theorem EndpointsIn.of_row {accounts : AccountTable} {t : CreditTransaction} {txnType : TxnType}
    {amount : Int} {source target : Option String} (row : RowIs t txnType amount source target)
    (hsource : ∀ a ∈ source, ∃ account ∈ accounts.rows, account.accountId = a)
    (htarget : ∀ a ∈ target, ∃ account ∈ accounts.rows, account.accountId = a) :
    EndpointsIn accounts t := by
  rintro a (ha | ha)
  · exact hsource a (row.source ▸ ha)
  · exact htarget a (row.target ▸ ha)

theorem AccountsOk.system_mem {accounts : AccountTable} (h : AccountsOk ctx accounts)
    {ty : AccountType} (hty : ty ≠ .member) :
    ∀ a ∈ some (systemAccountId ty), ∃ account ∈ accounts.rows, account.accountId = a := by
  intro a ha
  obtain rfl := Option.some.inj ha
  exact ⟨_, h.system ty hty, rfl⟩

theorem member_mem {accounts : AccountTable} {member : Nat}
    (h : memberAccount ctx member ∈ accounts.rows) :
    ∀ a ∈ some (memberAccountId ctx member), ∃ account ∈ accounts.rows, account.accountId = a := by
  intro a ha
  obtain rfl := Option.some.inj ha
  exact ⟨_, h, rfl⟩

theorem rewardSource_ne_member (genesis : Bool) : rewardSource genesis ≠ .member := by
  cases genesis <;> decide

/-! ## From calls to effects -/

theorem creditStep_eq_ok {env : CallEnv} {c : CreditCall} {s s' : CreditState ctx}
    (h : creditStep s (env, c) = .ok s') : ∃ result, runCall env s c = .ok (s', result) := by
  obtain ⟨⟨s₁, result⟩, hrun, h⟩ := bind_eq_ok.1 h
  obtain rfl := pure_eq_ok.1 h
  exact ⟨result, hrun⟩

/-- **Calls and their effects.** -/
theorem runCall_effect {env : CallEnv} {c : CreditCall} {s s' : CreditState ctx}
    {result : CallResult} (hacc : AccountsOk ctx s.accounts)
    (h : runCall env s c = .ok (s', result)) : Effect env s s' c := by
  cases c with
  | issue amount reason initiatedBy reviewedBy key =>
    obtain ⟨⟨s₁, txn⟩, hcall, h⟩ := bind_eq_ok.1 h
    obtain ⟨rfl, -⟩ := Prod.mk.inj (pure_eq_ok.1 h)
    obtain ⟨-, row, hr | hc⟩ := issueCreditsToPool_ok hacc hcall
    · exact .idle hr.grown
    · exact .entered (hc.carries ▸ hc) (.issue row)
        (.of_row row nofun ((hacc.grow hc.accounts).system_mem (by decide)))
  | lock task amount reason initiatedBy key =>
    obtain ⟨⟨s₁, txn⟩, hcall, h⟩ := bind_eq_ok.1 h
    obtain ⟨rfl, -⟩ := Prod.mk.inj (pure_eq_ok.1 h)
    obtain ⟨row, related, hr | ⟨hc, room⟩⟩ := lockTaskCreditBudget_ok hacc hcall
    · exact .idle hr.grown
    · have hacc' := hacc.grow hc.accounts
      exact .entered (hc.carries ▸ hc) (.lock row related room)
        (.of_row row (hacc'.system_mem (by decide)) (hacc'.system_mem (by decide)))
  | unlock task amount reason initiatedBy key =>
    obtain ⟨⟨s₁, txn⟩, hcall, h⟩ := bind_eq_ok.1 h
    obtain ⟨rfl, -⟩ := Prod.mk.inj (pure_eq_ok.1 h)
    obtain ⟨row, related, hr | ⟨hc, room⟩⟩ := unlockUnusedTaskCreditBudget_ok hacc hcall
    · exact .idle hr.grown
    · have hacc' := hacc.grow hc.accounts
      exact .entered (hc.carries ▸ hc) (.unlock row related room)
        (.of_row row (hacc'.system_mem (by decide)) (hacc'.system_mem (by decide)))
  | transfer fromMember toMember amount reason initiatedBy key =>
    obtain ⟨⟨s₁, txn⟩, hcall, h⟩ := bind_eq_ok.1 h
    obtain ⟨rfl, -⟩ := Prod.mk.inj (pure_eq_ok.1 h)
    obtain ⟨-, row, hr | hc, hfrom, hto⟩ := transferMemberCredits_ok hacc hcall
    · exact .idle hr.grown
    · exact .entered (hc.carries ▸ hc) (.transfer row)
        (.of_row row (member_mem hfrom) (member_mem hto))
  | deduct member amount reason initiatedBy key =>
    obtain ⟨⟨s₁, txn⟩, hcall, h⟩ := bind_eq_ok.1 h
    obtain ⟨rfl, -⟩ := Prod.mk.inj (pure_eq_ok.1 h)
    obtain ⟨-, row, hr | hc, hmember⟩ := passiveDeductMemberCredits_ok hacc hcall
    · exact .idle hr.grown
    · exact .entered (hc.carries ▸ hc) (.deduct row)
        (.of_row row (member_mem hmember) ((hacc.grow hc.accounts).system_mem (by decide)))
  | reverse original reason initiatedBy key =>
    obtain ⟨⟨s₁, txn⟩, hcall, h⟩ := bind_eq_ok.1 h
    obtain ⟨rfl, -⟩ := Prod.mk.inj (pure_eq_ok.1 h)
    obtain ⟨original, mem, rfl, free, s₁, reversal, linked, -, row, write⟩ :=
      reverseCreditTransaction_ok hacc hcall
    exact .reversed mem free row write linked
  | reward task member amount entry reviewedBy reason genesis =>
    obtain ⟨⟨s₁, txn⟩, hcall, h⟩ := bind_eq_ok.1 h
    obtain ⟨rfl, -⟩ := Prod.mk.inj (pure_eq_ok.1 h)
    obtain ⟨row, related, ⟨key, hr⟩ | ⟨hc, room⟩, hmember⟩ :=
      postTaskRewardCreditTransaction_ok hacc hcall
    · exact .idle hr.grown
    · exact .entered hc (.reward row related room)
        (.of_row row ((hacc.grow hc.accounts).system_mem (rewardSource_ne_member genesis))
          (member_mem hmember))
  | createOrder args =>
    obtain ⟨⟨s₁, order, txn⟩, hcall, h⟩ := bind_eq_ok.1 h
    obtain ⟨rfl, -⟩ := Prod.mk.inj (pure_eq_ok.1 h)
    obtain ⟨-, itemType, item, -, ⟨-, -, -, grown⟩ | ⟨missing, ordered⟩⟩ :=
      createRedemptionOrder_ok hacc hcall
    · exact .idle grown
    · exact .ordered item missing ordered
  | cancelOrder orderId reason cancelledBy key =>
    obtain ⟨⟨s₁, order⟩, hcall, h⟩ := bind_eq_ok.1 h
    obtain ⟨rfl, -⟩ := Prod.mk.inj (pure_eq_ok.1 h)
    obtain ⟨order, mem, rfl, ⟨-, rfl⟩ | ⟨account, closed⟩⟩ := cancelRedemptionOrder_ok hacc hcall
    · exact .idle (Grown.refl hacc.known)
    · exact .cancelled mem account closed
  | fulfillOrder orderId reason reviewedBy key =>
    obtain ⟨⟨s₁, order⟩, hcall, h⟩ := bind_eq_ok.1 h
    obtain ⟨rfl, -⟩ := Prod.mk.inj (pure_eq_ok.1 h)
    obtain ⟨order, mem, rfl, ⟨-, rfl⟩ | closed⟩ := fulfillRedemptionOrder_ok hacc hcall
    · exact .idle (Grown.refl hacc.known)
    · exact .fulfilled mem closed
  | reportIssue orderId reason =>
    obtain ⟨⟨s₁, order⟩, hcall, h⟩ := bind_eq_ok.1 h
    obtain ⟨rfl, -⟩ := Prod.mk.inj (pure_eq_ok.1 h)
    obtain ⟨order, mem, rfl, rfl | ⟨pending, updated⟩⟩ := reportRedemptionOrderIssue_ok hcall
    · exact .idle (Grown.refl hacc.known)
    · exact .reported mem pending updated
  | post args =>
    obtain ⟨⟨s₁, txn⟩, hcall, h⟩ := bind_eq_ok.1 h
    obtain ⟨rfl, -⟩ := Prod.mk.inj (pure_eq_ok.1 h)
    obtain ⟨txnType, type⟩ := postCreditTransaction_type hcall
    obtain ⟨-, row, -, -, hr | ⟨hc, -⟩⟩ := postCreditTransaction_ok hacc.known type hcall
    · exact .idle hr.grown
    · exact .posted type row hc

end LiveOs.Credit
