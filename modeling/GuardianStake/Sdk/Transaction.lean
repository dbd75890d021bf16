import GuardianStake.Sdk.Errors

/-!
# Transactions, fees and delegations

The chain-agnostic entities of the SDK. A `Transaction` is one constructor per transaction type
over the fields all types share; the fields the Tron and Solana packages add to a type
(`resource`, `stakeAccount`) ride on the same constructors, as they do on the same objects in the
source. Display-only fields of a validator (`image`, `apy`, `delegators`) and of a chain are left
out: no modelled function reads them.
-/

namespace GuardianStake.Sdk

/-- Source: `chain/chain-types.ts`, `GuardianChain`. -/
structure GuardianChain where
  id : String
  chainId : Option String
  deriving DecidableEq, Repr

/-- Source: `entity/staking-types.ts`, `ValidatorStatus`. -/
inductive ValidatorStatus
  | active
  | inactive
  | jailed
  deriving DecidableEq, Repr

/-- Source: `entity/staking-types.ts`, `Validator`. -/
structure Validator where
  id : String
  status : ValidatorStatus
  name : String
  description : String := ""
  operatorAddress : String := ""
  creditAddress : String := ""
  deriving DecidableEq, Repr

/-- A validator as a transaction names it: the full object or its operator address.
Source: `entity/transaction-types.ts`, `Validator | OperatorAddress`. -/
inductive ValidatorRef
  | validator (v : Validator)
  | operatorAddress (address : String)
  deriving DecidableEq, Repr

/-- `typeof v === "string" ? v : v.operatorAddress`. -/
def ValidatorRef.address : ValidatorRef → String
  | .validator v => v.operatorAddress
  | .operatorAddress address => address

/-- The fields every transaction carries. Source: `entity/transaction-types.ts`,
`BaseTransaction`. -/
structure BaseTransaction where
  chain : GuardianChain
  amount : ℤ
  account : Option String
  deriving DecidableEq, Repr

/-- Source: `entity/transaction-types.ts`, `TransactionType`. -/
inductive TransactionType
  | delegate
  | undelegate
  | redelegate
  | claimDelegate
  | claimRewards
  | vote
  deriving DecidableEq, Repr

/-- The discriminant as the source spells it. -/
def TransactionType.toText : TransactionType → String
  | .delegate => "Delegate"
  | .undelegate => "Undelegate"
  | .redelegate => "Redelegate"
  | .claimDelegate => "ClaimDelegate"
  | .claimRewards => "ClaimRewards"
  | .vote => "Vote"

/-- Source: `entity/transaction-types.ts`, `Transaction`; the `resource` and `stakeAccount` fields
are those of `tron-types.ts` and `solana-types.ts`. -/
inductive Transaction
  | delegate (base : BaseTransaction) (isMaxAmount : Bool) (validator : Option ValidatorRef)
      (resource : Option String)
  | undelegate (base : BaseTransaction) (isMaxAmount : Bool) (validator : Option ValidatorRef)
      (resource : Option String) (stakeAccount : Option String)
  | redelegate (base : BaseTransaction) (isMaxAmount : Bool)
      (fromValidator toValidator : ValidatorRef)
  | claimDelegate (base : BaseTransaction) (validator : Option ValidatorRef) (index : Option ℤ)
      (stakeAccount : Option String)
  | claimRewards (base : BaseTransaction) (validator : Option ValidatorRef)
  | vote (base : BaseTransaction) (validator : ValidatorRef)
  deriving DecidableEq, Repr

namespace Transaction

/-- The shared fields of a transaction. -/
def base : Transaction → BaseTransaction
  | .delegate b _ _ _ => b
  | .undelegate b _ _ _ _ => b
  | .redelegate b _ _ _ => b
  | .claimDelegate b _ _ _ => b
  | .claimRewards b _ => b
  | .vote b _ => b

/-- `transaction.type`. -/
def type : Transaction → TransactionType
  | .delegate .. => .delegate
  | .undelegate .. => .undelegate
  | .redelegate .. => .redelegate
  | .claimDelegate .. => .claimDelegate
  | .claimRewards .. => .claimRewards
  | .vote .. => .vote

/-- `transaction.amount`. -/
def amount (tx : Transaction) : ℤ := tx.base.amount

/-- `transaction.account`. -/
def account (tx : Transaction) : Option String := tx.base.account

/-- `transaction.validator`; a Redelegate has no such field. -/
def validator : Transaction → Option ValidatorRef
  | .delegate _ _ v _ => v
  | .undelegate _ _ v _ _ => v
  | .redelegate .. => none
  | .claimDelegate _ v _ _ => v
  | .claimRewards _ v => v
  | .vote _ v => some v

/-- The transaction with another base. -/
def withBase : Transaction → BaseTransaction → Transaction
  | .delegate _ isMaxAmount validator resource, b => .delegate b isMaxAmount validator resource
  | .undelegate _ isMaxAmount validator resource stakeAccount, b =>
      .undelegate b isMaxAmount validator resource stakeAccount
  | .redelegate _ isMaxAmount fromValidator toValidator, b =>
      .redelegate b isMaxAmount fromValidator toValidator
  | .claimDelegate _ validator index stakeAccount, b =>
      .claimDelegate b validator index stakeAccount
  | .claimRewards _ validator, b => .claimRewards b validator
  | .vote _ validator, b => .vote b validator

/-- The transaction with its account filled in. -/
def withAccount (tx : Transaction) (account : String) : Transaction :=
  tx.withBase { tx.base with account := some account }

@[simp] theorem account_withAccount (tx : Transaction) (account : String) :
    (tx.withAccount account).account = some account := by
  cases tx <;> rfl

@[simp] theorem type_withAccount (tx : Transaction) (account : String) :
    (tx.withAccount account).type = tx.type := by
  cases tx <;> rfl

end Transaction

/-- The runtime guard for an optional validator. Source: `entity/transaction-validation.ts`,
`assertValidator`. -/
def assertValidator (tx : Transaction) : Result ValidatorRef :=
  match tx.validator with
  | some v => .ok v
  | none =>
      .error (.validation .invalidValidator
        s!"Transaction type \"{tx.type.toText}\" requires a validator.")

/-- Source: `entity/fee-types.ts`, `Fee`. -/
inductive Fee
  | gasFee (gasPrice gasLimit total : ℤ)
  | utxoFee (txSizeBytes : ℕ) (total : ℤ)
  | resourceFee (bandwidth energy total : ℤ)
  | solanaFee (computeUnits computeUnitPrice total : ℤ)
  deriving DecidableEq, Repr

/-- `fee.type`. -/
def Fee.typeText : Fee → String
  | .gasFee .. => "GasFee"
  | .utxoFee .. => "UtxoFee"
  | .resourceFee .. => "ResourceFee"
  | .solanaFee .. => "SolanaFee"

/-- Source: `entity/staking-types.ts`, `DelegationStatus`. -/
inductive DelegationStatus
  | active
  | pending
  | claimable
  | inactive
  | frozen
  deriving DecidableEq, Repr

/-- Source: `entity/staking-types.ts`, `Delegation`. -/
structure Delegation where
  id : String
  validator : Validator
  amount : ℤ
  status : DelegationStatus
  delegationIndex : ℤ
  pendingUntil : ℤ
  deriving DecidableEq, Repr

/-- Source: `entity/balance-types.ts`, `BalanceType`. -/
inductive BalanceType
  | available
  | staked
  | pending
  | claimable
  | rewards
  deriving DecidableEq, Repr

/-- Source: `entity/balance-types.ts`, `Balance`. -/
structure Balance where
  type : BalanceType
  amount : ℤ
  deriving DecidableEq, Repr

/-- The amounts of the delegations with a given status, summed. -/
def totalWithStatus (status : DelegationStatus) (ds : List Delegation) : ℤ :=
  ((ds.filter fun d => d.status = status).map Delegation.amount).sum

/-- The amounts of the balances of a given type, summed. -/
def totalOfType (type : BalanceType) (bs : List Balance) : ℤ :=
  ((bs.filter fun b => b.type = type).map Balance.amount).sum

end GuardianStake.Sdk
