import LiveOs.EventLedger.Journal
import LiveOs.Lib.Table
import LiveOs.Lib.Posting

/-!
# The credit tables

The rows of `core/models/credits.py` and `core/models/merchants.py` that the credit services read
and write, and the state they work on. Members are known by their primary key, tasks and ledger
entries by their ids.
-/

namespace LiveOs.Credit

open Lib EventLedger

/-! ## Rows -/

/-- `CreditAccount.Type`. -/
inductive AccountType where
  | issuancePool
  | taskLocked
  | member
  | frozen
  | burn
deriving DecidableEq

/-- The stored text of an account type. -/
def AccountType.value : AccountType → String
  | .issuancePool => "issuance_pool"
  | .taskLocked => "task_locked"
  | .member => "member"
  | .frozen => "frozen"
  | .burn => "burn"

structure CreditAccount where
  accountId : String
  accountType : AccountType
  member : Option Nat
deriving DecidableEq

/-- `CreditTransaction.Type`. -/
inductive TxnType where
  | issuance
  | lock
  | unlock
  | taskReward
  | transfer
  | consume
  | burn
  | freeze
  | unfreeze
  | correction
  | reversal
deriving DecidableEq

namespace TxnType

/-- The stored text of a transaction type. -/
def value : TxnType → String
  | issuance => "issuance"
  | lock => "lock"
  | unlock => "unlock"
  | taskReward => "task_reward"
  | transfer => "transfer"
  | consume => "consume"
  | burn => "burn"
  | freeze => "freeze"
  | unfreeze => "unfreeze"
  | correction => "correction"
  | reversal => "reversal"

/-- `get_transaction_type_display()`. -/
def label : TxnType → String
  | issuance => "发行"
  | lock => "预算锁定"
  | unlock => "预算退回"
  | taskReward => "任务奖励"
  | transfer => "自由转账"
  | consume => "消费冻结"
  | burn => "销毁"
  | freeze => "冻结"
  | unfreeze => "解冻"
  | correction => "更正"
  | reversal => "冲正"

/-- `CreditTransaction.Type.choices`, in order. -/
def all : List TxnType := [issuance, lock, unlock, taskReward, transfer, consume, burn, freeze,
  unfreeze, correction, reversal]

/-- The type with the given stored text, when there is one. -/
def ofValue? (s : String) : Option TxnType := all.find? fun t => t.value = s

@[simp] theorem ofValue?_value (t : TxnType) : ofValue? t.value = some t := by
  cases t <;> decide

end TxnType

/-- `CreditTransaction.Status`. -/
inductive TxnStatus where
  | posted
  | void
deriving DecidableEq

structure CreditTransaction where
  transactionId : String
  transactionType : TxnType
  sourceAccount : Option String
  targetAccount : Option String
  amount : Int
  relatedTask : Option String
  relatedLedgerEntry : Option String
  relatedEventId : String
  initiatedBy : Option Nat
  reviewedBy : Option Nat
  reason : String
  metadata : Json
  idempotencyKey : Option String
  reversesTransaction : Option String
  status : TxnStatus
  prevHash : String
  transactionHash : String
  createdAt : Nat

/-- `RedemptionOrder.Status`. -/
inductive OrderStatus where
  | pending
  | fulfilled
  | cancelled
  | disputed
  | reversed
deriving DecidableEq

/-- `RedemptionOrder.ItemType`. -/
inductive ItemType where
  | meal
  | goods
  | resourceUse
  | roomUpgrade
  | storage
  | parking
  | training
  | service
  | feeReduction
  | other
deriving DecidableEq

namespace ItemType

def value : ItemType → String
  | meal => "meal"
  | goods => "goods"
  | resourceUse => "resource_use"
  | roomUpgrade => "room_upgrade"
  | storage => "storage"
  | parking => "parking"
  | training => "training"
  | service => "service"
  | feeReduction => "fee_reduction"
  | other => "other"

/-- `RedemptionOrder.ItemType.choices`, in order. -/
def all : List ItemType := [meal, goods, resourceUse, roomUpgrade, storage, parking, training,
  service, feeReduction, other]

def ofValue? (s : String) : Option ItemType := all.find? fun t => t.value = s

end ItemType

structure RedemptionOrder where
  orderId : String
  member : Nat
  status : OrderStatus
  itemType : ItemType
  title : String
  creditAmount : Int
  merchant : Option String
  relatedTask : Option String
  reason : String
  metadata : List (String × Json)
  resourceId : String
  itemSnapshot : Json
  financeTreatmentRef : String
  createdBy : Nat
  reviewedBy : Option Nat
  createdAt : Nat
  updatedAt : Nat
  fulfilledAt : Option Nat
  cancelledAt : Option Nat

/-- `MerchantProfile.Type`. -/
inductive MerchantType where
  | memberMicro
  | cashSettlement
deriving DecidableEq

/-- `MerchantProfile.Status`. -/
inductive MerchantStatus where
  | active
  | suspended
  | closed
deriving DecidableEq

structure MerchantProfile where
  merchantId : String
  merchantType : MerchantType
  status : MerchantStatus
  settlementRate : Option Rat
deriving DecidableEq

structure MerchantSettlementRecord where
  settlementId : String
  merchant : String
  redemptionOrder : String
  coveredCreditAmount : Int
  settlementRate : Rat
  payableRmb : Rat
  reason : String
  createdAt : Nat
deriving DecidableEq

/-! ## State -/

abbrev AccountTable :=
  Table CreditAccount String Nat CreditAccount.accountId CreditAccount.member

abbrev TransactionTable :=
  Table CreditTransaction String String CreditTransaction.transactionId
    CreditTransaction.idempotencyKey

abbrev OrderTable :=
  Table RedemptionOrder String Unit RedemptionOrder.orderId fun _ => none

abbrev SettlementTable :=
  Table MerchantSettlementRecord String String MerchantSettlementRecord.settlementId
    fun r => some r.redemptionOrder

/-- What the services take as given: the runtime and the unique member numbers. -/
structure Context where
  rt : Runtime
  memberNo : Nat → String
  memberNo_injective : Function.Injective memberNo

structure CreditState (ctx : Context) where
  accounts : AccountTable
  transactions : TransactionTable
  orders : OrderTable
  settlements : SettlementTable
  events : Journal ctx.rt

/-- What one call takes from its surroundings: the clock, the random parts of new ids and the
merchant table. -/
structure CallEnv where
  now : Nat
  txnUuid : String
  orderUuid : String
  merchants : String → MerchantProfile

/-- `_new_id(kind)`: the uuid is given by its first twelve hexadecimal digits. -/
def newId (kind uuid : String) : String := kind ++ "-" ++ uuid

/-- The database before the first call. -/
def CreditState.fresh (ctx : Context) : CreditState ctx :=
  ⟨Table.empty, Table.empty, Table.empty, Table.empty, Journal.empty⟩

end LiveOs.Credit
