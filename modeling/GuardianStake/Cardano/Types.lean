import GuardianStake.Sdk.Js
import GuardianStake.Sdk.Transaction

/-!
# Cardano data

Responses of the Blockfrost API, the parameters of a transaction body, and the parts of
`@cardano-sdk` the package calls, as a parameter.

Response fields that no modelled function reads (`block`, `data_hash`, `pool_id`, the sums of an
account, the parameters of the pledge mechanism) are left out.
-/

namespace GuardianStake.Cardano

open Sdk

/-! ## Responses -/

/-- Source: `rpc/blockfrost-rpc-types.ts`, `BlockfrostAssetAmount`. -/
structure BlockfrostAssetAmount where
  unit : String
  quantity : String
  deriving DecidableEq, Repr

/-- Source: `rpc/blockfrost-rpc-types.ts`, `BlockfrostUtxo`. -/
structure BlockfrostUtxo where
  txHash : String
  outputIndex : ℕ
  amount : List BlockfrostAssetAmount
  deriving DecidableEq, Repr

/-- Source: `rpc/blockfrost-rpc-types.ts`, `BlockfrostAccount`. -/
structure BlockfrostAccount where
  active : Bool
  withdrawableAmount : String
  deriving DecidableEq, Repr

/-- Source: `rpc/blockfrost-rpc-types.ts`, `BlockfrostProtocolParams`. -/
structure BlockfrostProtocolParams where
  minFeeA : Number
  minFeeB : Number
  keyDeposit : String
  coinsPerUtxoSize : Option String
  deriving DecidableEq, Repr

/-- Source: `rpc/blockfrost-rpc-types.ts`, `BlockfrostBlock`. -/
structure BlockfrostBlock where
  slot : ℤ
  deriving DecidableEq, Repr

/-- The reads of `rpc/blockfrost-rpc-client.ts` that fees and signing depend on. A record of this
type is one unchanging state of the chain. -/
structure BlockfrostRpcClient where
  getProtocolParams : Result BlockfrostProtocolParams
  getUtxos : (paymentAddress : String) → (page count : ℕ) → Result (List BlockfrostUtxo)
  getLatestBlock : Result BlockfrostBlock
  getAccountOrNull : (stakeAddress : String) → Result (Option BlockfrostAccount)

/-! ## Transaction bodies -/

/-- Source: `tx/tx-types.ts`, `CardanoCertificate`. -/
inductive CardanoCertificate
  | stakeRegistration (stakeKeyHashHex : String)
  | stakeDeregistration (stakeKeyHashHex : String)
  | stakeDelegation (stakeKeyHashHex poolKeyHashHex : String)
  deriving DecidableEq, Repr

/-- Source: `tx/tx-types.ts`, `TxInput`. -/
structure TxInput where
  txHashHex : String
  index : ℕ
  deriving DecidableEq, Repr

/-- Source: `tx/tx-types.ts`, `TxBodyParams`. The withdrawals map holds one entry per reward
account, in order of insertion. -/
structure TxBodyParams where
  inputs : List TxInput
  outputAddress : String
  outputLovelaces : ℤ
  fee : ℤ
  ttl : Option ℤ
  certificates : Option (List CardanoCertificate)
  withdrawals : Option (List (String × ℤ))
  deriving DecidableEq, Repr

/-- An output of a body: an address and the coins it receives. -/
structure TxOut where
  address : String
  coins : ℤ
  deriving DecidableEq, Repr

/-- The core object a `TransactionBody` is made from: `Cardano.TxBody`, with the certificates and
withdrawals empty where the source leaves the field out. -/
structure TxBody where
  inputs : List TxInput
  outputs : List TxOut
  fee : ℤ
  invalidHereafter : Option ℤ
  certificates : List CardanoCertificate
  withdrawals : List (String × ℤ)
  deriving DecidableEq, Repr

/-- Source: `tx/tx-types.ts`, `TxWitness`. -/
structure TxWitness where
  vkeyHex : String
  sigHex : String
  deriving DecidableEq, Repr

/-- A transaction as it is serialized: a body and its witnesses. -/
structure SignedTransaction where
  body : TxBody
  witnesses : List TxWitness
  deriving DecidableEq, Repr

/-! ## The external SDK -/

/-- `Cardano.AddressType`. -/
inductive AddressType
  | base
  | pointer
  | enterprise
  | rewardKey
  | rewardScript
  | byron
  deriving DecidableEq, Repr

/-- The key hashes of a base address, in hex. -/
structure BaseCredentials where
  paymentKeyHashHex : String
  stakeKeyHashHex : String
  deriving DecidableEq, Repr

/-- A parsed address: what `getType`, `getNetworkId` and `asBase` say of it. -/
structure Address where
  type : AddressType
  isMainnet : Bool
  asBase : Option BaseCredentials
  deriving DecidableEq, Repr

/-- What the package calls in `@cardano-sdk`. The branding functions (`Cardano.TransactionId`,
`Cardano.PaymentAddress`, `Cardano.RewardAccount`, the hash brands, `assertIsHexString`) return
their argument or throw; here they are the predicates they check. -/
structure CardanoSdk where
  isTransactionId : String → Bool
  isPaymentAddress : String → Bool
  isRewardAccount : String → Bool
  isKeyHash : String → Bool
  isHexString : (value : String) → (length : ℕ) → Bool
  /-- `Cardano.Address.fromString`. -/
  parseAddress : String → Option Address
  /-- `Cardano.PoolId` followed by `Cardano.PoolId.toKeyHash`; `none` when either throws. -/
  poolIdToKeyHash : String → Option String
  /-- `Cardano.createRewardAccount` on mainnet, of a branded key hash. -/
  createRewardAccount : String → String
  /-- Bytes of the serialized output holding one lovelace at an address. -/
  outputSize : String → ℕ
  /-- The public key of a private key, both in hex. -/
  toPublic : String → String
  /-- The hash of a public key, both in hex. -/
  keyHash : String → String
  /-- The Ed25519 signature of a message with a private key. -/
  sign : (privateKey message : String) → String
  /-- The hash of a body. -/
  bodyHash : TxBody → String
  /-- `Transaction.isValid`. -/
  isValid : SignedTransaction → Bool
  /-- Bytes of a serialized transaction: half the length of `toCbor`. -/
  txSize : SignedTransaction → ℕ

/-- A branding function: the value itself, or `InvalidStringError`. -/
def brand (ok : String → Bool) (value : String) : Result String :=
  if ok value then .ok value else .error (.foreign s!"InvalidStringError: {value}")

theorem brand_eq_ok {ok : String → Bool} {value r : String} (h : brand ok value = .ok r) :
    r = value := by
  simp only [brand] at h
  split at h
  · exact (Except.ok.inj h).symm
  · cases h

end GuardianStake.Cardano
